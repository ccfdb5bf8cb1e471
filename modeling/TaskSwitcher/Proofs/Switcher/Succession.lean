import TaskSwitcher.Proofs.Switcher.Turnover

/-!
# What a card can live through

The roster before an event and the one after it, compared card by card: which cards are new, which are
gone, and what the others have become. A card has one way only: it may begin as a splash, may become the
card of one window, and ends once.
-/

namespace TaskSwitcher

/-- The handles of a roster, in their order. -/
def handlesOf (roster : List (Handle × Occupant)) : List Handle :=
  roster.map (·.1)

/-- The handles of a roster are those of its entries. -/
theorem mem_handlesOf {roster : List (Handle × Occupant)} {handle : Handle} :
    handle ∈ handlesOf roster ↔ ∃ occupant, (handle, occupant) ∈ roster := by
  simp [handlesOf]

/-- The event is one of those that can make a card come or go or give it a window: a window opens or
closes, a launch starts or fails, or it is time to look for launches that wait too long. -/
def Event.MovesCards : Event → Prop
  | .window (.added _) | .window (.closed _) | .tick _ => True
  | .launch report => report.stage ≠ .ready
  | _ => False

namespace Switcher

/-- The roster `after` an event follows on the roster of the switcher before it. -/
structure Succeeds (switcher : Switcher) (event : Event) (after : List (Handle × Occupant)) :
    Prop where
  /-- The cards that stay keep their order. -/
  order_kept :
    (handlesOf switcher.carousel.roster).filter (· ∈ handlesOf after) =
      (handlesOf after).filter (· ∈ handlesOf switcher.carousel.roster)
  /-- At most one card is new. It is the card of a window that was opened and had none, or the splash of a
  launch of a recognised application, which is put behind all others. -/
  newcomer : ∀ handle occupant, (handle, occupant) ∈ after →
    handle ∉ handlesOf switcher.carousel.roster →
    (∀ other ∈ handlesOf after, other ∉ handlesOf switcher.carousel.roster → other = handle) ∧
      ((∃ window, event = .window (.added window) ∧ window.id ∉ switcher.carousel.windows ∧
          occupant = .window window.id) ∨
        ∃ appId startupId appInfo, event = .launch ⟨.started, appId, startupId⟩ ∧
          switcher.apps.resolve appId = some appInfo ∧ occupant = .launch startupId ∧
          after = switcher.carousel.roster ++ [(handle, occupant)])
  /-- The card of a window goes exactly when this window was closed. -/
  window_gone_iff : ∀ handle id, (handle, .window id) ∈ switcher.carousel.roster →
    (handle ∉ handlesOf after ↔ event = .window (.closed id))
  /-- A splash goes only when a launch failed, and then alone, or when it is found to have waited too
  long. -/
  splash_gone : ∀ handle token, (handle, .launch token) ∈ switcher.carousel.roster →
    handle ∉ handlesOf after →
    (∃ appId startupId, event = .launch ⟨.failed, appId, startupId⟩ ∧
        ∀ other ∈ handlesOf switcher.carousel.roster, other ∉ handlesOf after → other = handle) ∨
      ∃ moment timeout activity, event = .tick moment ∧ switcher.launchTimeout = some timeout ∧
        switcher.carousel.get? handle = some activity ∧
        activity.launchExpired moment timeout = true
  /-- The card of a window goes on showing this window. -/
  window_stays : ∀ handle id occupant, (handle, .window id) ∈ switcher.carousel.roster →
    (handle, occupant) ∈ after → occupant = .window id
  /-- A splash goes on waiting for its launch, or becomes the card of a window that was opened and had
  none; no other splash does so at the same time. -/
  splash_stays : ∀ handle token occupant, (handle, .launch token) ∈ switcher.carousel.roster →
    (handle, occupant) ∈ after →
    occupant = .launch token ∨
      ∃ window, event = .window (.added window) ∧ window.id ∉ switcher.carousel.windows ∧
        occupant = .window window.id ∧
        ∀ other otherToken id, (other, .launch otherToken) ∈ switcher.carousel.roster →
          (other, .window id) ∈ after → other = handle
  /-- All other events leave the roster as it is. -/
  idle : ¬ event.MovesCards → after = switcher.carousel.roster

namespace Turn

variable {switcher : Switcher} {event : Event} {after : List (Handle × Occupant)}
  {handle : Handle} {occupant : Occupant} (turn : switcher.Turn event after)

/-! ### Order -/

/-- Giving a splash its window leaves all handles in their places. -/
theorem handlesOf_bind (roster : List (Handle × Occupant)) (handle : Handle) (occupant : Occupant) :
    handlesOf (roster.map fun entry => if entry.1 = handle then (handle, occupant) else entry) =
      handlesOf roster := by
  rw [handlesOf, List.map_map, handlesOf]
  refine List.map_congr_left fun entry _ => ?_
  by_cases changed : entry.1 = handle <;> simp [changed]

include turn

/-- An event makes cards come or makes cards go, but never both. -/
theorem handlesOf_sublist :
    (handlesOf after).Sublist (handlesOf switcher.carousel.roster) ∨
      (handlesOf switcher.carousel.roster).Sublist (handlesOf after) := by
  cases turn with
  | steady _ => exact .inl (.refl _)
  | opened window position _ =>
      right
      apply List.Sublist.map
      calc
        switcher.carousel.roster =
            switcher.carousel.roster.take position ++ switcher.carousel.roster.drop position :=
          (List.take_append_drop ..).symm
        List.Sublist _ (switcher.carousel.roster.take position ++
            (switcher.carousel.nextHandle, .window window.id) ::
              switcher.carousel.roster.drop position) :=
          (List.Sublist.refl _).append (List.sublist_cons_self ..)
  | bound window handle _ _ _ =>
      rw [handlesOf_bind]
      exact .inl (.refl _)
  | closed id handle _ => exact .inl (List.filter_sublist.map _)
  | launched appId startupId _ _ => exact .inr ((List.sublist_append_left ..).map _)
  | failed appId startupId token handle _ => exact .inl (List.filter_sublist.map _)
  | expired moment timeout _ => exact .inl (List.filter_sublist.map _)

omit turn in
/-- The elements that a part has in common with the whole are the part. -/
theorem filter_mem_eq_of_sublist {α : Type} [DecidableEq α] {part whole : List α}
    (sublist : part.Sublist whole) (distinct : whole.Nodup) :
    whole.filter (· ∈ part) = part := by
  have inside : part.Sublist (whole.filter (· ∈ part)) := by
    have kept := sublist.filter (· ∈ part)
    rwa [List.filter_eq_self.2 (by simp)] at kept
  have within : whole.filter (· ∈ part) ⊆ part := by
    intro element member
    simpa using (List.mem_filter.1 member).2
  have fewer := (List.subperm_of_subset (distinct.filter _) within).length_le
  exact (inside.eq_of_length_le fewer).symm

variable (valid : switcher.carousel.Valid)

include valid

omit turn in
/-- No handle is twice in the roster of a valid strip. -/
theorem nodup_handlesOf : (handlesOf switcher.carousel.roster).Nodup := by
  rw [handlesOf, valid.map_fst_roster]
  exact valid.order_nodup

omit turn in
/-- The handle that is handed out next is not in use. -/
theorem nextHandle_not_mem_handlesOf :
    switcher.carousel.nextHandle ∉ handlesOf switcher.carousel.roster := by
  rw [handlesOf, valid.map_fst_roster]
  exact valid.nextHandle_not_mem

omit turn in
/-- A handle stands for one thing only. -/
theorem occupant_unique {first second : Occupant}
    (one : (handle, first) ∈ switcher.carousel.roster)
    (other : (handle, second) ∈ switcher.carousel.roster) : first = second := by
  obtain ⟨activity, found, rfl⟩ := (valid.mem_roster_iff ..).1 one
  obtain ⟨card, again, rfl⟩ := (valid.mem_roster_iff ..).1 other
  rw [found] at again
  cases again
  rfl

/-- Whichever turn an event takes, the cards that stay keep their order. -/
theorem order_kept (distinct : (handlesOf after).Nodup) :
    (handlesOf switcher.carousel.roster).filter (· ∈ handlesOf after) =
      (handlesOf after).filter (· ∈ handlesOf switcher.carousel.roster) := by
  have keepsAll {part whole : List Handle} (sublist : part.Sublist whole) :
      part.filter (· ∈ whole) = part :=
    List.filter_eq_self.2 fun handle member => by simpa using sublist.subset member
  rcases turn.handlesOf_sublist with fewer | more
  · rw [filter_mem_eq_of_sublist fewer (nodup_handlesOf valid), keepsAll fewer]
  · rw [filter_mem_eq_of_sublist more distinct, keepsAll more]

/-! ### New cards -/

omit valid in
/-- A card that was not there has the handle that was next, and tells which event made it. -/
theorem newcomer (arrived : (handle, occupant) ∈ after)
    (new : handle ∉ handlesOf switcher.carousel.roster) :
    handle = switcher.carousel.nextHandle ∧
      ((∃ window, event = .window (.added window) ∧ window.id ∉ switcher.carousel.windows ∧
          occupant = .window window.id) ∨
        ∃ appId startupId appInfo, event = .launch ⟨.started, appId, startupId⟩ ∧
          switcher.apps.resolve appId = some appInfo ∧ occupant = .launch startupId ∧
          after = switcher.carousel.roster ++ [(handle, occupant)]) := by
  have old {entry : Handle × Occupant} (member : entry ∈ switcher.carousel.roster) :
      entry.1 ≠ handle := fun same => new (same ▸ List.mem_map_of_mem member)
  cases turn with
  | steady _ => exact absurd rfl (old arrived)
  | opened window position unshown =>
      rcases List.mem_append.1 arrived with front | rest
      · exact absurd rfl (old (List.mem_of_mem_take front))
      · rcases List.mem_cons.1 rest with given | back
        · cases given
          exact ⟨rfl, .inl ⟨window, rfl, unshown, rfl⟩⟩
        · exact absurd rfl (old (List.mem_of_mem_drop back))
  | bound window bound _ _ _ =>
      have member := mem_handlesOf.2 ⟨occupant, arrived⟩
      rw [handlesOf_bind] at member
      exact absurd member new
  | closed id gone _ => exact absurd rfl (old (List.mem_of_mem_filter arrived))
  | launched appId startupId appInfo recognised =>
      rcases List.mem_append.1 arrived with front | back
      · exact absurd rfl (old front)
      · cases List.mem_singleton.1 back
        exact ⟨rfl, .inr ⟨appId, startupId, appInfo, rfl, recognised, rfl, rfl⟩⟩
  | failed appId startupId token gone _ => exact absurd rfl (old (List.mem_of_mem_filter arrived))
  | expired moment timeout _ => exact absurd rfl (old (List.mem_of_mem_filter arrived))

/-! ### Cards that stay -/

/-- A card that stays stands for what it stood for, unless it is the one splash that got a window. -/
theorem survivor {former : Occupant} (old : (handle, former) ∈ switcher.carousel.roster)
    (stays : (handle, occupant) ∈ after) :
    occupant = former ∨
      ∃ window token, event = .window (.added window) ∧
        window.id ∉ switcher.carousel.windows ∧ former = .launch token ∧
        occupant = .window window.id ∧
        after = switcher.carousel.roster.map fun entry =>
          if entry.1 = handle then (handle, .window window.id) else entry := by
  have notNew : handle ≠ switcher.carousel.nextHandle := fun same =>
    nextHandle_not_mem_handlesOf valid (same ▸ mem_handlesOf.2 ⟨former, old⟩)
  have unique {other : Occupant} (member : (handle, other) ∈ switcher.carousel.roster) :
      other = former :=
    occupant_unique valid member old
  cases turn with
  | steady _ => exact .inl (unique stays)
  | opened window position _ =>
      left
      rcases List.mem_append.1 stays with front | rest
      · exact unique (List.mem_of_mem_take front)
      · rcases List.mem_cons.1 rest with given | back
        · exact absurd (congrArg Prod.fst given) notNew
        · exact unique (List.mem_of_mem_drop back)
  | bound window bound token waits unshown =>
      obtain ⟨entry, member, given⟩ := List.mem_map.1 stays
      by_cases changed : entry.1 = bound
      · rw [if_pos changed, Prod.mk.injEq] at given
        obtain ⟨rfl, rfl⟩ := given
        exact .inr ⟨window, token, rfl, unshown, (unique waits).symm, rfl, rfl⟩
      · rw [if_neg changed] at given
        exact .inl (unique (given ▸ member))
  | closed id gone _ => exact .inl (unique (List.mem_of_mem_filter stays))
  | launched appId startupId _ _ =>
      left
      rcases List.mem_append.1 stays with front | back
      · exact unique front
      · exact absurd (congrArg Prod.fst (List.mem_singleton.1 back)) notNew
  | failed appId startupId token gone _ => exact .inl (unique (List.mem_of_mem_filter stays))
  | expired moment timeout _ => exact .inl (unique (List.mem_of_mem_filter stays))

/-! ### Cards that go -/

omit turn valid in
/-- Removing some handles leaves the others. -/
theorem mem_of_not_mem_handlesOf_filter {roster : List (Handle × Occupant)} (keep : Handle → Bool)
    (old : (handle, occupant) ∈ roster)
    (gone : handle ∉ handlesOf (roster.filter fun entry => keep entry.1)) : keep handle = false := by
  by_contra kept
  rw [Bool.not_eq_false] at kept
  exact gone (mem_handlesOf.2 ⟨occupant, List.mem_filter.2 ⟨old, kept⟩⟩)

/-- A card goes when its window is closed, alone when a launch fails, or when it has waited too long. -/
theorem departed (old : (handle, occupant) ∈ switcher.carousel.roster)
    (gone : handle ∉ handlesOf after) :
    (∃ id, event = .window (.closed id) ∧ occupant = .window id) ∨
      (∃ appId startupId token, event = .launch ⟨.failed, appId, startupId⟩ ∧
        occupant = .launch token ∧
        after = switcher.carousel.roster.filter fun entry => entry.1 ≠ handle) ∨
      ∃ moment timeout, event = .tick moment ∧ switcher.launchTimeout = some timeout ∧
        handle ∈ switcher.expiredLaunches moment timeout := by
  have present := mem_handlesOf.2 ⟨occupant, old⟩
  cases turn with
  | steady _ => exact absurd present gone
  | opened window position _ =>
      refine absurd (mem_handlesOf.2 ⟨occupant, ?_⟩) gone
      rw [List.perm_middle.mem_iff, List.take_append_drop]
      exact List.mem_cons_of_mem _ old
  | bound window bound _ _ _ =>
      rw [handlesOf_bind] at gone
      exact absurd present gone
  | closed id removed shows =>
      have same : handle = removed := by
        simpa using mem_of_not_mem_handlesOf_filter (· ≠ removed) old gone
      subst same
      exact .inl ⟨id, rfl, occupant_unique valid old shows⟩
  | launched appId startupId _ _ =>
      exact absurd (mem_handlesOf.2 ⟨occupant, List.mem_append_left _ old⟩) gone
  | failed appId startupId token removed waits =>
      have same : handle = removed := by
        simpa using mem_of_not_mem_handlesOf_filter (· ≠ removed) old gone
      subst same
      exact .inr (.inl ⟨appId, startupId, token, rfl, occupant_unique valid old waits, rfl⟩)
  | expired moment timeout limited =>
      refine .inr (.inr ⟨moment, timeout, rfl, limited, ?_⟩)
      simpa using mem_of_not_mem_handlesOf_filter
        (· ∉ switcher.expiredLaunches moment timeout) old gone

end Turn

variable {switcher : Switcher} {event : Event} {after : List (Handle × Occupant)}

/-- A handle that is found to have waited too long is that of such a splash. -/
theorem exists_launchExpired_of_mem {handle : Handle} {moment timeout : Nat}
    (late : handle ∈ switcher.expiredLaunches moment timeout) :
    ∃ activity, switcher.carousel.get? handle = some activity ∧
      activity.launchExpired moment timeout = true := by
  simp only [expiredLaunches, List.mem_map, List.mem_filter] at late
  obtain ⟨entry, ⟨member, expired⟩, rfl⟩ := late
  exact ⟨entry.2, ((switcher.carousel.mem_entries ..).1 member).2, expired⟩

/-- After the closing of a window its card is gone. -/
theorem Turn.not_mem_of_closed (valid : switcher.carousel.Valid)
    (distinct : switcher.carousel.windows.Nodup) {handle : Handle} {id : WindowId}
    (turn : switcher.Turn (.window (.closed id)) after)
    (shown : (handle, .window id) ∈ switcher.carousel.roster) : handle ∉ handlesOf after := by
  have windowOf {handle : Handle} (member : (handle, .window id) ∈ switcher.carousel.roster) :
      switcher.carousel.windowOf? handle = some id := by
    obtain ⟨activity, found, stands⟩ := (valid.mem_roster_iff ..).1 member
    refine (Carousel.windowOf?_eq_some_iff ..).2 ⟨activity, found, ?_⟩
    rw [← activity.window?_occupant, stands, Occupant.window?]
  cases turn with
  | steady unshown =>
      exact absurd ((valid.mem_windows_iff id).2 ⟨handle, windowOf shown⟩) (unshown id rfl)
  | closed _ removed shows =>
      have same := valid.eq_of_windowOf?_eq distinct (windowOf shown) (windowOf shows)
      rw [mem_handlesOf]
      rintro ⟨occupant, member⟩
      simp [same] at member

/-- Whatever is done to the roster, the new one follows on the old one. -/
theorem Turn.succeeds (turn : switcher.Turn event after) (valid : switcher.carousel.Valid)
    (distinct : switcher.carousel.windows.Nodup) (distinctAfter : (handlesOf after).Nodup) :
    switcher.Succeeds event after where
  order_kept := turn.order_kept valid distinctAfter
  newcomer handle occupant arrived new := by
    obtain ⟨given, made⟩ := turn.newcomer arrived new
    refine ⟨fun other member alsoNew => ?_, made⟩
    obtain ⟨stands, entered⟩ := mem_handlesOf.1 member
    rw [given, (turn.newcomer entered alsoNew).1]
  window_gone_iff handle id shown := by
    constructor
    · intro gone
      rcases turn.departed valid shown gone with
        ⟨closed, same, stands⟩ | ⟨_, _, _, _, stands, _⟩ | ⟨moment, timeout, _, _, late⟩
      · cases stands
        exact same
      · cases stands
      -- Only splashes wait too long, and this card shows a window.
      · obtain ⟨activity, found, stands⟩ := (valid.mem_roster_iff ..).1 shown
        have splash := window?_of_mem_expiredLaunches late activity found
        rw [← activity.window?_occupant, stands] at splash
        cases splash
    · rintro rfl
      exact turn.not_mem_of_closed valid distinct shown
  splash_gone handle token waits gone := by
    rcases turn.departed valid waits gone with
      ⟨closed, _, stands⟩ | ⟨appId, startupId, _, same, _, left⟩ |
        ⟨moment, timeout, same, limited, late⟩
    · cases stands
    · refine .inl ⟨appId, startupId, same, fun other present absent => ?_⟩
      obtain ⟨stands, member⟩ := mem_handlesOf.1 present
      rw [left] at absent
      simpa using Turn.mem_of_not_mem_handlesOf_filter (· ≠ handle) member absent
    · obtain ⟨activity, found, expired⟩ := exists_launchExpired_of_mem late
      exact .inr ⟨moment, timeout, activity, same, limited, found, expired⟩
  window_stays handle id occupant shown stays := by
    rcases turn.survivor valid shown stays with same | ⟨_, _, _, _, other, _⟩
    · exact same
    · cases other
  splash_stays handle token occupant waits stays := by
    rcases turn.survivor valid waits stays with same | ⟨window, _, same, unshown, _, bound, all⟩
    · exact .inl same
    · refine .inr ⟨window, same, unshown, bound, fun other otherToken id alsoWaits shows => ?_⟩
      -- The roster changed at one handle, so another splash that got a window has this handle.
      rw [all] at shows
      obtain ⟨entry, member, given⟩ := List.mem_map.1 shows
      by_cases changed : entry.1 = handle
      · rw [if_pos changed] at given
        exact (congrArg Prod.fst given).symm
      · rw [if_neg changed] at given
        cases Turn.occupant_unique valid (given ▸ member) alsoWaits
  idle still := by
    cases turn with
    | steady _ => rfl
    | opened _ _ _ => exact absurd trivial still
    | bound _ _ _ _ _ => exact absurd trivial still
    | closed _ _ _ => exact absurd trivial still
    | launched _ _ _ _ => exact absurd (by simp [Event.MovesCards]) still
    | failed _ _ _ _ _ => exact absurd (by simp [Event.MovesCards]) still
    | expired _ _ _ => exact absurd trivial still

/-- In every reachable situation the roster after an event follows on the roster before it: cards keep
their order, at most one is new, each goes by its own kind of event only, and none changes what it stands
for but the one splash that gets its window. -/
theorem Reachable.succeeds_handle (reachable : switcher.Reachable) (now : Nat) (event : Event) :
    switcher.Succeeds event (switcher.handle now event).1.carousel.roster := by
  have valid := reachable.valid
  have after := (reachable.handle now event).valid
  exact (turn_handle valid now event).succeeds valid reachable.nodup_windows
    (Turn.nodup_handlesOf after)

/-- The splash of an application follows the card of another window, and becomes the card of its own
window when this is opened. -/
theorem settings_splash_becomes_card :
    let launched := ((assemble {} true [Scenario.callsWindow] none).start.handle 0
      (.launch ⟨.started, "org.gnome.Settings", ⟨"settings"⟩⟩)).1
    let opened : Event := .window (.added Scenario.settingsWindow)
    launched.carousel.roster = [(⟨1, 1⟩, .window ⟨1⟩), (⟨2, 1⟩, .launch ⟨"settings"⟩)] ∧
      (launched.handle 0 opened).1.carousel.roster =
        [(⟨1, 1⟩, .window ⟨1⟩), (⟨2, 1⟩, .window ⟨2⟩)] ∧
      launched.Succeeds opened (launched.handle 0 opened).1.carousel.roster := by
  intro launched opened
  have reachable : launched.Reachable :=
    .handle (.start rfl rfl) 0 (.launch ⟨.started, "org.gnome.Settings", ⟨"settings"⟩⟩)
  exact ⟨by decide +kernel, by decide +kernel, reachable.succeeds_handle 0 opened⟩

end Switcher

end TaskSwitcher
