import TaskSwitcher.Proofs.Carousel.Places
import TaskSwitcher.Proofs.Switcher.Reachable
import TaskSwitcher.Service

/-!
# Launches that fail

The failure of a launch takes away the first splash with the token of the launch. If no splash has the token,
it takes away the first card of the application, provided that this is a splash, whichever launch that splash
belongs to. So a failure ends its own launch and no other exactly when one splash has its token, or when none
has and the application does not come first with the splash of another launch.
-/

namespace TaskSwitcher.Switcher

/-- From `before` to `after` exactly the splashes with this token have gone. -/
def EndsOwnLaunch (startupId : StartupId) (before after : Switcher) : Prop :=
  after.carousel.entries =
    before.carousel.entries.filter fun entry => entry.2.startupId? ≠ some startupId

instance (startupId : StartupId) (before after : Switcher) :
    Decidable (EndsOwnLaunch startupId before after) :=
  inferInstanceAs (Decidable (_ = _))

variable {switcher : Switcher} {appId : String} {appInfo : AppInfo} {startupId : StartupId}

/-- A card that waits for a launch has no window. -/
theorem isRunning_of_startupId? {activity : Activity} (waits : activity.startupId? = some startupId) :
    activity.isRunning = false := by
  unfold Activity.startupId? at waits
  unfold Activity.isRunning Activity.window?
  cases phase : activity.phase with
  | launching token startedAt => rfl
  | running window pending =>
      rw [phase] at waits
      cases waits

section

variable (valid : switcher.carousel.Valid) (recognised : switcher.apps.resolve appId = some appInfo)
  {front back : List (Handle × Activity)} {handle : Handle} {activity : Activity}

include valid recognised

/-- A splash that a failure refers to goes, and all other cards stay. -/
theorem entries_launchFailed_of_target
    (target : switcher.failureTarget? appInfo startupId = some handle)
    (split : switcher.carousel.entries = front ++ (handle, activity) :: back)
    (splash : activity.isRunning = false) :
    (switcher.launchFailed appId startupId).carousel.entries = front ++ back := by
  have waiting : ¬(switcher.carousel.get? handle).any (·.isRunning) = true := by
    rw [valid.get?_of_split split, Option.any_some, splash]
    exact Bool.false_ne_true
  have removed : switcher.launchFailed appId startupId = switcher.destroyActivity handle := by
    simp only [launchFailed, recognised, target]
    exact if_neg waiting
  rw [removed, entries_destroyActivity, ← Carousel.entries_erase, valid.entries_erase_of_split split]

/-- What the failure of a launch does: the first splash with its token goes; without one, the first card of
the application goes if it is a splash; otherwise nothing happens. -/
theorem launchFailed_cases :
    (∃ front handle splash back,
      switcher.carousel.FirstWith (·.startupId? = some startupId) front handle splash back ∧
      (switcher.launchFailed appId startupId).carousel.entries = front ++ back) ∨
    (∀ entry ∈ switcher.carousel.entries, entry.2.startupId? ≠ some startupId) ∧
      ((∃ front handle splash back,
        switcher.carousel.FirstWith (·.appInfo = some appInfo) front handle splash back ∧
        splash.isRunning = false ∧
        (switcher.launchFailed appId startupId).carousel.entries = front ++ back) ∨
      (∀ front handle first back,
        switcher.carousel.FirstWith (·.appInfo = some appInfo) front handle first back →
        first.isRunning = true) ∧
        switcher.launchFailed appId startupId = switcher) := by
  cases own : switcher.carousel.findByStartupId? startupId with
  | some handle =>
      obtain ⟨front, splash, back, first⟩ := (switcher.carousel.findHandle?_eq_some_iff).1 own
      have target : switcher.failureTarget? appInfo startupId = some handle := by
        rw [failureTarget?, own, Option.some_or]
      have waits : splash.startupId? = some startupId := by simpa using first.has
      exact .inl ⟨front, handle, splash, back, first, entries_launchFailed_of_target valid
        recognised target first.split (isRunning_of_startupId? waits)⟩
  | none =>
      right
      have none : ∀ entry ∈ switcher.carousel.entries, entry.2.startupId? ≠ some startupId := by
        simpa using (switcher.carousel.findHandle?_eq_none_iff_entries).1 own
      -- No splash has the token, so the failure is laid to the first card of the application.
      have targets : switcher.failureTarget? appInfo startupId =
          switcher.carousel.findByAppInfo? appInfo := by
        rw [failureTarget?, own, Option.none_or]
      refine ⟨none, ?_⟩
      cases search : switcher.carousel.findByAppInfo? appInfo with
      | none =>
          right
          constructor
          · intro front handle first back found
            have some := (switcher.carousel.findHandle?_eq_some_iff).2 ⟨front, first, back, found⟩
            cases search.symm.trans some
          · simp only [launchFailed, recognised, targets, search]
      | some handle =>
          obtain ⟨front, first, back, found⟩ := (switcher.carousel.findHandle?_eq_some_iff).1 search
          cases running : first.isRunning with
          | false =>
              exact .inl ⟨front, handle, first, back, found, running,
                entries_launchFailed_of_target valid recognised (targets.trans search) found.split
                  running⟩
          | true =>
              right
              constructor
              · intro otherFront other otherFirst otherBack again
                have same := search.symm.trans
                  ((switcher.carousel.findHandle?_eq_some_iff).2 ⟨_, _, _, again⟩)
                cases same
                have card := valid.get?_of_split again.split
                rw [valid.get?_of_split found.split] at card
                cases card
                exact running
              · have stays : (switcher.carousel.get? handle).any (·.isRunning) = true := by
                  rw [valid.get?_of_split found.split, Option.any_some, running]
                simp only [launchFailed, recognised, targets, search]
                rw [if_pos stays]

end

/-! ### When a failure ends its own launch and no other -/

/-- The splashes with this token. -/
def splashesOf (switcher : Switcher) (startupId : StartupId) : List (Handle × Activity) :=
  switcher.carousel.entries.filter fun entry => entry.2.startupId? = some startupId

/-- There is no splash with the token when no card waits for the launch. -/
theorem splashesOf_eq_nil_iff :
    switcher.splashesOf startupId = [] ↔
      ∀ entry ∈ switcher.carousel.entries, entry.2.startupId? ≠ some startupId := by
  simp [splashesOf, List.filter_eq_nil_iff]

section

variable {front back : List (Handle × Activity)} {handle : Handle} {splash : Activity}
  (first : switcher.carousel.FirstWith (·.startupId? = some startupId) front handle splash back)

include first

/-- No splash with the token stands in front of the first one. -/
theorem splashesOf_of_first :
    switcher.splashesOf startupId =
      (handle, splash) :: back.filter fun entry => entry.2.startupId? = some startupId := by
  have none : (front.filter fun entry => decide (entry.2.startupId? = some startupId)) = [] := by
    rw [List.filter_eq_nil_iff]
    intro entry member
    rw [first.earlier entry member]
    exact Bool.false_ne_true
  have waits : splash.startupId? = some startupId := by simpa using first.has
  rw [splashesOf, first.split, List.filter_append, none, List.nil_append,
    List.filter_cons_of_pos (by simpa using waits)]

/-- The cards without the token are those in front of the first splash and those of the others behind it. -/
theorem filter_others_of_first :
    (switcher.carousel.entries.filter fun entry => entry.2.startupId? ≠ some startupId) =
      front ++ back.filter fun entry => entry.2.startupId? ≠ some startupId := by
  have all : (front.filter fun entry => decide (entry.2.startupId? ≠ some startupId)) = front := by
    rw [List.filter_eq_self]
    intro entry member
    simpa using first.earlier entry member
  have waits : splash.startupId? = some startupId := by simpa using first.has
  rw [first.split, List.filter_append, all, List.filter_cons_of_neg (by simp [waits])]

end

/-- In every reachable situation the failure of a recognised launch takes away exactly the splashes with its
token if and only if there is just one such splash, or there is none and the first card of the application, if
it has one, shows a window. -/
theorem Reachable.failure_ends_own_launch_iff (reachable : switcher.Reachable) (now : Nat)
    (recognised : switcher.apps.resolve appId = some appInfo) :
    EndsOwnLaunch startupId switcher
        (switcher.handle now (.launch ⟨.failed, appId, startupId⟩)).1 ↔
      (switcher.splashesOf startupId).length = 1 ∨
      switcher.splashesOf startupId = [] ∧
        ∀ front handle first back,
          switcher.carousel.FirstWith (·.appInfo = some appInfo) front handle first back →
          first.isRunning = true := by
  change (switcher.launchFailed appId startupId).carousel.entries = _ ↔ _
  rcases launchFailed_cases reachable.valid recognised with
    ⟨front, handle, splash, back, first, left⟩ |
      ⟨none, ⟨front, handle, splash, back, first, waiting, left⟩ | ⟨running, unchanged⟩⟩
  · rw [left, filter_others_of_first first, splashesOf_of_first first, List.append_cancel_left_eq,
      eq_comm, List.filter_eq_self]
    simp [List.filter_eq_nil_iff]
  · have all := List.filter_eq_self.2 fun entry member => decide_eq_true (none entry member)
    rw [left, all, first.split, splashesOf_eq_nil_iff.2 none]
    constructor
    · intro same
      have lengths := congrArg List.length same
      simp only [List.length_append, List.length_cons] at lengths
      omega
    · rintro (one | ⟨-, running⟩)
      · cases one
      · rw [running front handle splash back first] at waiting
        cases waiting
  · have all := List.filter_eq_self.2 fun entry member => decide_eq_true (none entry member)
    rw [unchanged, all]
    exact iff_of_true rfl (.inr ⟨splashesOf_eq_nil_iff.2 none, running⟩)

/-- Of two launches of an application the one that fails is ended, and the other is not. -/
theorem failure_ends_one_of_two :
    let first := ((assemble {} true [] none).start.handle 0
      (.launch ⟨.started, "org.gnome.Calls", ⟨"calls-1"⟩⟩)).1
    let both := (first.handle 0 (.launch ⟨.started, "org.gnome.Calls", ⟨"calls-2"⟩⟩)).1
    let after := (both.handle 0 (.launch ⟨.failed, "org.gnome.Calls", ⟨"calls-1"⟩⟩)).1
    both.apps.resolve "org.gnome.Calls" = some ⟨"org.gnome.Calls.desktop"⟩ ∧
      EndsOwnLaunch ⟨"calls-1"⟩ both after ∧
      after.carousel.roster = [(⟨2, 1⟩, .launch ⟨"calls-2"⟩)] := by
  intro first both after
  have reachable : both.Reachable := .handle (.handle (.start rfl rfl) 0 _) 0 _
  have recognised : both.apps.resolve "org.gnome.Calls" = some ⟨"org.gnome.Calls.desktop"⟩ := by
    decide +kernel
  refine ⟨recognised, (reachable.failure_ends_own_launch_iff 0 recognised).2 (.inl ?_), ?_⟩
  · decide +kernel
  · decide +kernel

/-- The late failure of a launch whose splash has waited too long ends the next launch of the application.
And of two splashes with the same token one is left. -/
theorem failure_ends_other_launch :
    let started (token : String) := Event.launch ⟨.started, "org.gnome.Calls", ⟨token⟩⟩
    let failed := Event.launch ⟨.failed, "org.gnome.Calls", ⟨"calls-1"⟩⟩
    let first := ((assemble {} true [] (some 15000)).start.handle 0 (started "calls-1")).1
    let relaunched := (((first.handle 15000 (.tick 15000)).1).handle 16000 (started "calls-2")).1
    let startedTwice := (first.handle 0 (started "calls-1")).1
    (relaunched.Reachable ∧ (relaunched.apps.resolve "org.gnome.Calls").isSome ∧
      relaunched.carousel.roster = [(⟨1, 3⟩, .launch ⟨"calls-2"⟩)] ∧
      (relaunched.handle 16000 failed).1.carousel.roster = [] ∧
      ¬ EndsOwnLaunch ⟨"calls-1"⟩ relaunched (relaunched.handle 16000 failed).1) ∧
    startedTwice.Reachable ∧
      startedTwice.carousel.roster =
        [(⟨1, 1⟩, .launch ⟨"calls-1"⟩), (⟨2, 1⟩, .launch ⟨"calls-1"⟩)] ∧
      (startedTwice.handle 0 failed).1.carousel.roster = [(⟨2, 1⟩, .launch ⟨"calls-1"⟩)] ∧
      ¬ EndsOwnLaunch ⟨"calls-1"⟩ startedTwice (startedTwice.handle 0 failed).1 := by
  intro started failed first relaunched startedTwice
  have reachable : first.Reachable := .handle (.start rfl rfl) 0 _
  refine ⟨⟨.handle (.handle reachable 15000 _) 16000 _, ?_⟩, .handle reachable 0 _, ?_⟩
  · decide +kernel
  · decide +kernel

end TaskSwitcher.Switcher
