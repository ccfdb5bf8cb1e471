import TaskSwitcher.Proofs.Switcher.Reachable

/-!
# Who comes, who goes, who stays

`Turn` lists what an event can do to the roster: add one card, give one splash its window, take cards
away, or nothing; `turn_handle` says that handling does nothing else. What a card can live through can be
read off this list.
-/

namespace TaskSwitcher.Switcher

/-- The rosters that an event may lead to. -/
inductive Turn (switcher : Switcher) : Event → List (Handle × Occupant) → Prop where
  /-- All stay as they are. A closing leads here only if the window has no card. -/
  | steady {event : Event}
      (unshown : ∀ id, event = .window (.closed id) → id ∉ switcher.carousel.windows) :
      Turn switcher event switcher.carousel.roster
  | opened (window : Window) (position : Nat) (unshown : window.id ∉ switcher.carousel.windows) :
      Turn switcher (.window (.added window))
        (switcher.carousel.roster.take position ++
          (switcher.carousel.nextHandle, .window window.id) ::
            switcher.carousel.roster.drop position)
  | bound (window : Window) (handle : Handle) (startupId : StartupId)
      (waits : (handle, .launch startupId) ∈ switcher.carousel.roster)
      (unshown : window.id ∉ switcher.carousel.windows) :
      Turn switcher (.window (.added window))
        (switcher.carousel.roster.map fun entry =>
          if entry.1 = handle then (handle, .window window.id) else entry)
  | closed (id : WindowId) (handle : Handle)
      (shows : (handle, .window id) ∈ switcher.carousel.roster) :
      Turn switcher (.window (.closed id))
        (switcher.carousel.roster.filter fun entry => entry.1 ≠ handle)
  | launched (appId : String) (startupId : StartupId) (appInfo : AppInfo)
      (recognised : switcher.apps.resolve appId = some appInfo) :
      Turn switcher (.launch ⟨.started, appId, startupId⟩)
        (switcher.carousel.roster ++ [(switcher.carousel.nextHandle, .launch startupId)])
  | failed (appId : String) (startupId token : StartupId) (handle : Handle)
      (waits : (handle, .launch token) ∈ switcher.carousel.roster) :
      Turn switcher (.launch ⟨.failed, appId, startupId⟩)
        (switcher.carousel.roster.filter fun entry => entry.1 ≠ handle)
  | expired (moment timeout : Nat) (limited : switcher.launchTimeout = some timeout) :
      Turn switcher (.tick moment)
        (switcher.carousel.roster.filter fun entry =>
          entry.1 ∉ switcher.expiredLaunches moment timeout)

variable {switcher : Switcher} {handle : Handle}

/-- An event that closes no window may leave the roster as it is. -/
theorem Turn.of_unclosed {event : Event} (unclosed : ∀ id, event ≠ .window (.closed id)) :
    switcher.Turn event switcher.carousel.roster :=
  .steady fun id closed => absurd closed (unclosed id)

/-! ### Cards that are made and removed -/

/-- A new card has its entry at its place and moves no other. -/
theorem roster_createActivity (valid : switcher.carousel.Valid) (activity : Activity) :
    (switcher.createActivity activity).carousel.roster =
      switcher.carousel.roster.take (switcher.placeOf activity) ++
        (switcher.carousel.nextHandle, activity.occupant) ::
          switcher.carousel.roster.drop (switcher.placeOf activity) := by
  rw [← valid.roster_insert]
  exact (Carousel.Steady.drain _).roster_eq

/-- The removal of a card drops its entry. -/
theorem roster_destroyActivity (handle : Handle) :
    (switcher.destroyActivity handle).carousel.roster =
      switcher.carousel.roster.filter fun entry => entry.1 ≠ handle := by
  rw [← Carousel.roster_erase]
  exact (switcher.steady_destroyActivity handle).roster_eq

/-- Removing cards one after the other removes them all, and no others. -/
theorem roster_destroyActivities (handles : List Handle) :
    (handles.foldl destroyActivity switcher).carousel.roster =
      switcher.carousel.roster.filter fun entry => entry.1 ∉ handles := by
  induction handles generalizing switcher with
  | nil => simp
  | cons first rest inductionHypothesis =>
      rw [List.foldl_cons, inductionHypothesis, roster_destroyActivity, List.filter_filter]
      refine List.filter_congr fun entry _ => ?_
      simp [Bool.and_comm]

/-- A splash that is taken over keeps its entry, which has the window now. -/
theorem roster_upgradeSplash (window : Window) :
    (switcher.upgradeSplash handle window).carousel.roster =
      switcher.carousel.roster.map fun entry =>
        if entry.1 = handle then (handle, .window window.id) else entry := by
  rw [upgradeSplash, (steady_requestThumbnail _ handle).roster_eq]
  exact Carousel.roster_modify handle fun activity => rfl

/-! ### One event -/

section

variable (valid : switcher.carousel.Valid)

include valid

/-- An opened window has a card already, takes over a splash or gets a card of its own. -/
theorem turn_windowAdded (window : Window) :
    switcher.Turn (.window (.added window)) (switcher.windowAdded window).carousel.roster := by
  unfold windowAdded
  split
  · next found _ =>
      rw [(switcher.steady_showWindow found window).roster_eq]
      exact .of_unclosed (by simp)
  · next search =>
      have unshown := (Carousel.findByWindow?_eq_none_iff ..).1 search
      unfold placeWindow
      split
      · next chosen splash =>
          obtain ⟨activity, found, waiting⟩ := exists_of_splashFor?_eq_some splash
          rw [(steady_focusIfActive ..).roster_eq, roster_upgradeSplash]
          cases phase : activity.phase with
          | launching startupId startedAt =>
              have waits : (chosen, Occupant.launch startupId) ∈ switcher.carousel.roster :=
                (valid.mem_roster_iff ..).2 ⟨activity, found, by simp [Activity.occupant, phase]⟩
              exact .bound window chosen startupId waits unshown
          | running shown pending => simp [Activity.window?, phase] at waiting
      · rw [(steady_focusIfActive ..).roster_eq, addCard, roster_createActivity valid]
        exact .opened window _ unshown

/-- A closed window takes its card off the roster. -/
theorem turn_windowClosed (id : WindowId) :
    switcher.Turn (.window (.closed id)) (switcher.windowClosed id).1.carousel.roster := by
  unfold windowClosed
  split
  · next search =>
      refine .steady fun closed same => ?_
      cases same
      exact (Carousel.findByWindow?_eq_none_iff ..).1 search
  · next found search =>
      obtain ⟨activity, member, shows⟩ := Carousel.exists_of_findByWindow?_eq_some _ _ _ search
      rw [roster_destroyActivity]
      refine .closed id found ((valid.mem_roster_iff ..).2 ?_)
      refine ⟨activity, (valid.mem_entries_iff ..).1 member, ?_⟩
      rw [← Activity.window?_occupant] at shows
      cases stands : activity.occupant with
      | window shown =>
          rw [stands] at shows
          rw [Option.some.inj shows]
      | launch startupId => simp [stands, Occupant.window?] at shows

/-- A started launch puts its splash at the end of the roster if its application is recognised. -/
theorem turn_launchStarted (appId : String) (startupId : StartupId) (now : Nat) :
    switcher.Turn (.launch ⟨.started, appId, startupId⟩)
      (switcher.launchStarted appId startupId now).carousel.roster := by
  unfold launchStarted
  split
  · exact .of_unclosed (by simp)
  · next appInfo recognised =>
      -- A splash has no parent, so its place is behind all others.
      have all : switcher.carousel.length = switcher.carousel.roster.length := by
        rw [Carousel.length, ← valid.map_fst_roster, List.length_map]
      rw [roster_createActivity valid]
      simp only [placeOf, Activity.launching, Option.bind_none, Option.getD_none, all,
        List.take_length, List.drop_length]
      exact .launched appId startupId appInfo recognised

/-- A failed launch takes one splash off the roster, or none. -/
theorem turn_launchFailed (appId : String) (startupId : StartupId) :
    switcher.Turn (.launch ⟨.failed, appId, startupId⟩)
      (switcher.launchFailed appId startupId).carousel.roster := by
  have unchanged : switcher.Turn (.launch ⟨.failed, appId, startupId⟩) switcher.carousel.roster :=
    .of_unclosed (by simp)
  unfold launchFailed
  split
  · exact unchanged
  · split
    · exact unchanged
    · next target _ =>
        split
        · exact unchanged
        · next waiting =>
            cases found : switcher.carousel.get? target with
            | none =>
                rw [destroyActivity, found]
                exact unchanged
            | some activity =>
                rw [roster_destroyActivity]
                cases phase : activity.phase with
                | launching token startedAt =>
                    have waits : (target, Occupant.launch token) ∈ switcher.carousel.roster :=
                      (valid.mem_roster_iff ..).2
                        ⟨activity, found, by simp [Activity.occupant, phase]⟩
                    exact .failed appId startupId token target waits
                | running shown pending =>
                    -- The card of a window is never taken for the splash of a failed launch.
                    simp [found, Activity.isRunning, Activity.window?, phase] at waiting

omit valid in
/-- Looking for late launches takes their splashes off the roster. -/
theorem turn_expireLaunches (moment : Nat) :
    switcher.Turn (.tick moment) (switcher.expireLaunches moment).carousel.roster := by
  unfold expireLaunches
  split
  · exact .of_unclosed (by simp)
  · next timeout limited =>
      rw [roster_destroyActivities]
      exact .expired moment timeout limited

/-- Handling an event does one of the listed things to the roster. -/
theorem turn_handle (now : Nat) (event : Event) :
    switcher.Turn event (switcher.handle now event).1.carousel.roster := by
  cases event with
  | window report =>
      cases report with
      | added window => exact turn_windowAdded valid window
      | changed window =>
          rw [handle, handleWindow, (switcher.steady_windowChanged window).roster_eq]
          exact .of_unclosed (by simp)
      | closed id => exact turn_windowClosed valid id
      | activatedChanged window =>
          rw [handle, handleWindow, (switcher.steady_windowActivated window).roster_eq]
          exact .of_unclosed (by simp)
  | launch report =>
      obtain ⟨stage, appId, startupId⟩ := report
      cases stage with
      | started => exact turn_launchStarted valid appId startupId now
      | ready => exact .of_unclosed (by simp)
      | failed => exact turn_launchFailed valid appId startupId
  | ui event =>
      rw [handle, (switcher.steady_handleUi event).roster_eq]
      exact .of_unclosed (by simp)
  | thumbnailReady activity request =>
      rw [handle, (switcher.steady_thumbnailReady activity request).roster_eq]
      exact .of_unclosed (by simp)
  | tick moment => exact turn_expireLaunches moment

end

end TaskSwitcher.Switcher
