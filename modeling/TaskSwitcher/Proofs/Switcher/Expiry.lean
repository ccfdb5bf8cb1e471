import TaskSwitcher.Proofs.Carousel.Operations
import TaskSwitcher.Proofs.Carousel.Places
import TaskSwitcher.Proofs.Switcher.Announcements

/-!
# Launches that wait too long

A sweep looks for the overdue splashes first and removes them one after the other then. It takes away these
splashes and the references to them and nothing else, and tells when no card is left. A splash that is overdue
stays so. Hence what a sweep leaves out a later one finds, and both together do what the later one would have
done alone.
-/

namespace TaskSwitcher

namespace Activity

variable {activity : Activity} {now later limit : Nat}

/-- The card waits for a launch that began `limit` or longer before `now`. If the launch began after `now` then
the card has waited for no time at all. -/
def Overdue (activity : Activity) (now limit : Nat) : Prop :=
  ∃ startupId startedAt, activity.phase = .launching startupId startedAt ∧
    (limit : Int) ≤ max 0 ((now : Int) - startedAt)

/-- The test finds the overdue cards. -/
theorem launchExpired_iff : activity.launchExpired now limit = true ↔ activity.Overdue now limit := by
  unfold launchExpired Overdue
  cases activity.phase with
  | launching startupId startedAt =>
      have waited : limit ≤ now - startedAt ↔ (limit : Int) ≤ max 0 ((now : Int) - startedAt) := by
        omega
      rw [decide_eq_true_iff, waited]
      constructor
      · intro late
        exact ⟨startupId, startedAt, rfl, late⟩
      · rintro ⟨_, _, ⟨⟩, late⟩
        exact late
  | running window pending =>
      constructor
      · intro late
        cases late
      · rintro ⟨_, _, ⟨⟩, _⟩

instance (activity : Activity) (now limit : Nat) : Decidable (activity.Overdue now limit) :=
  decidable_of_iff _ launchExpired_iff

/-- What is overdue stays overdue. -/
theorem Overdue.mono (overdue : activity.Overdue now limit) (ordered : now ≤ later) :
    activity.Overdue later limit := by
  obtain ⟨startupId, startedAt, phase, late⟩ := overdue
  refine ⟨startupId, startedAt, phase, ?_⟩
  omega

/-- A splash waits for no picture. -/
theorem Overdue.pending?_eq (overdue : activity.Overdue now limit) : activity.pending? = none := by
  obtain ⟨startupId, startedAt, phase, -⟩ := overdue
  rw [pending?, phase]

end Activity

namespace Carousel

/-- There are cards exactly if there are entries. -/
theorem Valid.occupied_eq {carousel : Carousel} (valid : carousel.Valid) :
    carousel.occupied = !carousel.entries.isEmpty := by
  rw [occupied, isEmpty, ← valid.map_fst_entries, List.isEmpty_map]

/-- Two strips that differ at most in their arenas. -/
theorem eq_withArena {first second : Carousel} (order : first.order = second.order)
    (focused : first.focused = second.focused) (scrollTarget : first.scrollTarget = second.scrollTarget)
    (keyFocus : first.keyFocus = second.keyFocus)
    (hasActivities : first.hasActivities = second.hasActivities)
    (changes : first.changes = second.changes) : first = { second with arena := first.arena } := by
  cases first
  cases second
  cases order
  cases focused
  cases scrollTarget
  cases keyFocus
  cases hasActivities
  cases changes
  rfl

/-- When a card goes, the references to the cards that are left are kept. -/
theorem reference_erase (carousel : Carousel) (gone : Handle) {reference : Option Handle}
    (live : ∀ handle, reference = some handle → carousel.contains handle = true) :
    (if reference = some gone then none else reference) =
      reference.filter (carousel.erase gone).contains := by
  cases reference with
  | none => rfl
  | some handle =>
      obtain ⟨activity, found⟩ := (carousel.contains_iff handle).1 (live handle rfl)
      rw [Option.filter_some]
      by_cases same : handle = gone
      · have absent : (carousel.erase gone).contains handle = false := by
          rw [contains_eq_false_iff, get?_erase, if_pos same]
        rw [if_pos (congrArg some same), absent, if_neg Bool.false_ne_true]
      · have present : (carousel.erase gone).contains handle = true := by
          rw [contains_iff, get?_erase, if_neg same]
          exact ⟨activity, found⟩
        rw [if_neg fun points => same (Option.some.inj points), if_pos present]

end Carousel

namespace Switcher

/-- Exactly the cards that do not stay have gone from the strip, and the references to them. That is
announced if no card is left, and nothing else happens. -/
structure Leaves (stays : Handle × Activity → Bool) (before after : Switcher) : Prop where
  valid : after.carousel.Valid
  settled : after.carousel.Settled
  entries : after.carousel.entries = before.carousel.entries.filter stays
  focused : after.carousel.focused = before.carousel.focused.filter after.carousel.contains
  scrollTarget :
    after.carousel.scrollTarget = before.carousel.scrollTarget.filter after.carousel.contains
  keyFocus : after.carousel.keyFocus = before.carousel.keyFocus.filter after.carousel.contains
  signals : after.signals = before.signals ++
    (turn before.carousel.occupied after.carousel.occupied).map .hasActivities
  others : after = { before with carousel := after.carousel, signals := after.signals }

variable {before middle after switcher : Switcher} {stays remains : Handle × Activity → Bool}

/-! ### What is left -/

namespace Leaves

/-- A card that is left was there before. -/
theorem contains_of_contains (valid : before.carousel.Valid) (leaves : Leaves stays before after)
    {handle : Handle} (left : after.carousel.contains handle = true) :
    before.carousel.contains handle = true := by
  obtain ⟨activity, found⟩ := (Carousel.contains_iff ..).1 left
  rw [← leaves.valid.mem_entries_iff, leaves.entries] at found
  have member := List.mem_of_mem_filter found
  exact (Carousel.contains_iff ..).2 ⟨activity, (valid.mem_entries_iff ..).1 member⟩

/-- If there were no cards there are none left. -/
theorem occupied_eq_false (valid : before.carousel.Valid) (leaves : Leaves stays before after)
    (empty : before.carousel.occupied = false) : after.carousel.occupied = false := by
  have none : before.carousel.entries = [] := by
    simpa [valid.occupied_eq] using empty
  rw [leaves.valid.occupied_eq, leaves.entries, none]
  rfl

/-- Where all cards stay, nothing happens. -/
theorem refl (valid : before.carousel.Valid) (settled : before.carousel.Settled)
    (all : ∀ entry ∈ before.carousel.entries, stays entry = true) :
    Leaves stays before before := by
  have kept (reference : Option Handle)
      (live : ∀ handle, reference = some handle → before.carousel.contains handle = true) :
      reference = reference.filter before.carousel.contains := by
    cases reference with
    | none => rfl
    | some handle => rw [Option.filter_some, live handle rfl, if_pos rfl]
  refine ⟨valid, settled, (List.filter_eq_self.2 all).symm, kept _ valid.focused_live,
    kept _ valid.scrollTarget_live, kept _ valid.keyFocus_live, ?_, rfl⟩
  rw [turn_self, List.map_nil, List.append_nil]

/-- Cards that go one time and cards that go another time leave those that stay both times. -/
theorem trans (valid : before.carousel.Valid) (first : Leaves stays before middle)
    (second : Leaves remains middle after) :
    Leaves (fun entry => stays entry && remains entry) before after := by
  -- A reference that outlives the second step has outlived the first one.
  have twice (reference : Option Handle) :
      (reference.filter middle.carousel.contains).filter after.carousel.contains =
        reference.filter after.carousel.contains := by
    rw [Option.filter_filter]
    congr 1
    funext handle
    rw [Bool.and_eq_right_iff_imp]
    exact second.contains_of_contains first.valid
  constructor
  · exact second.valid
  · exact second.settled
  · rw [second.entries, first.entries, List.filter_filter]
    simp only [Bool.and_comm]
  · rw [second.focused, first.focused, twice]
  · rw [second.scrollTarget, first.scrollTarget, twice]
  · rw [second.keyFocus, first.keyFocus, twice]
  · rw [second.signals, first.signals, List.append_assoc, ← List.map_append,
      turn_append_turn (first.occupied_eq_false valid) (second.occupied_eq_false first.valid)]
  · exact second.others.trans (congrArg (fun parts => { parts with
      carousel := after.carousel, signals := after.signals }) first.others)

/-- Which cards stay matters for those on the strip only. -/
theorem congr (leaves : Leaves stays before after)
    (same : ∀ entry ∈ before.carousel.entries, stays entry = remains entry) :
    Leaves remains before after :=
  { leaves with entries := by rw [leaves.entries, List.filter_congr same] }

/-- Who stays determines what is left, up to the order in which the arena fills its free places. -/
theorem unique {first second : Switcher} (one : Leaves stays before first)
    (other : Leaves stays before second) :
    first.carousel.entries = second.carousel.entries ∧
      first = { second with carousel := { second.carousel with arena := first.carousel.arena } } := by
  have entries := one.entries.trans other.entries.symm
  have order : first.carousel.order = second.carousel.order := by
    rw [← one.valid.map_fst_entries, ← other.valid.map_fst_entries, entries]
  have occupied := Carousel.occupied_congr order
  have contains : first.carousel.contains = second.carousel.contains := by
    funext handle
    rw [Bool.eq_iff_iff, ← one.valid.mem_order_iff, order, other.valid.mem_order_iff]
  have carousel : first.carousel = { second.carousel with arena := first.carousel.arena } := by
    apply Carousel.eq_withArena order
    · rw [one.focused, other.focused, contains]
    · rw [one.scrollTarget, other.scrollTarget, contains]
    · rw [one.keyFocus, other.keyFocus, contains]
    · rw [one.settled.noted, other.settled.noted, occupied]
    · rw [one.settled.flushed, other.settled.flushed]
  have signals : first.signals = second.signals := by
    rw [one.signals, other.signals, occupied]
  refine ⟨entries, ?_⟩
  rw [← carousel]
  calc
    first = { before with carousel := first.carousel, signals := first.signals } := one.others
    _ = { before with carousel := first.carousel, signals := second.signals } := by rw [signals]
    _ = { second with carousel := first.carousel } :=
      (congrArg (fun parts => { parts with carousel := first.carousel }) other.others).symm

end Leaves

/-! ### Removing splashes -/

/-- Nothing is withdrawn for a card that waits for no picture. -/
theorem destroyActivity_of_idle {handle : Handle} {activity : Activity}
    (found : switcher.carousel.get? handle = some activity) (idle : activity.pending? = none) :
    switcher.destroyActivity handle =
      (switcher.mapCarousel (·.erase handle)).announceOccupancy := by
  simp only [destroyActivity, found, idle, cancelThumbnail]

section

variable (valid : switcher.carousel.Valid) (settled : switcher.carousel.Settled)

include valid settled

/-- A card that waits for no picture goes, and nobody with it. -/
theorem leaves_destroyActivity {handle : Handle}
    (idle : ∀ activity, switcher.carousel.get? handle = some activity → activity.pending? = none) :
    Leaves (fun entry => entry.1 ≠ handle) switcher (switcher.destroyActivity handle) := by
  cases found : switcher.carousel.get? handle with
  | none =>
      rw [destroyActivity, found]
      refine .refl valid settled fun entry member => ?_
      have present := (valid.mem_entries_iff ..).1 member
      rw [decide_eq_true_iff]
      rintro rfl
      cases found.symm.trans present
  | some activity =>
      -- The card waits for no picture, so nothing is withdrawn, and only the strip changes.
      have live := (Carousel.contains_iff ..).2 ⟨activity, found⟩
      obtain ⟨changed, erased, hasActivities, changes, -⟩ :=
        switcher.carousel.exists_noteOccupancy_erase live
      have dropped := Carousel.drops_erase switcher.carousel live
      have entries := switcher.entries_destroyActivity handle
      rw [destroyActivity_of_idle found (idle activity found)] at entries ⊢
      constructor
      · exact (valid.erase handle).drain
      · change (switcher.carousel.erase handle).drain.Settled
        rw [erased]
        exact changed.settled_noteOccupancy
      · exact entries
      · exact dropped.focused_eq.trans (Carousel.reference_erase _ handle valid.focused_live)
      · exact dropped.scrollTarget_eq.trans
          (Carousel.reference_erase _ handle valid.scrollTarget_live)
      · exact dropped.keyFocus_eq.trans (Carousel.reference_erase _ handle valid.keyFocus_live)
      · have occupied : (switcher.carousel.erase handle).occupied = changed.occupied := by
          rw [erased]
          exact Carousel.occupied_congr changed.order_noteOccupancy
        change switcher.signals ++ (switcher.carousel.erase handle).changes.map .hasActivities =
          switcher.signals ++
            (turn switcher.carousel.occupied (switcher.carousel.erase handle).occupied).map
              .hasActivities
        rw [occupied, erased, changed.changes_noteOccupancy, changes, hasActivities,
          settled.flushed, settled.noted, List.nil_append]
      · rfl

/-- The same for several cards, one after the other. -/
theorem leaves_destroyActivities {handles : List Handle}
    (idle : ∀ handle ∈ handles, ∀ activity,
      switcher.carousel.get? handle = some activity → activity.pending? = none) :
    Leaves (fun entry => entry.1 ∉ handles) switcher (handles.foldl destroyActivity switcher) := by
  induction handles generalizing switcher with
  | nil => exact .refl valid settled fun entry _ => decide_eq_true List.not_mem_nil
  | cons first rest inductionHypothesis =>
      have removed := leaves_destroyActivity valid settled (idle first List.mem_cons_self)
      -- The cards that still are to go are as they were.
      have others : ∀ handle ∈ rest, ∀ activity,
          (switcher.destroyActivity first).carousel.get? handle = some activity →
          activity.pending? = none := by
        intro handle member activity found
        rw [get?_destroyActivity, Option.ite_none_left_eq_some] at found
        exact idle handle (List.mem_cons_of_mem first member) activity found.2
      refine (removed.trans valid
        (inductionHypothesis removed.valid removed.settled others)).congr fun entry _ => ?_
      simp only [List.mem_cons, not_or, Bool.decide_and]

/-! ### Sweeps -/

variable {now limit : Nat}

omit settled in
/-- Exactly the overdue cards are listed for removal. -/
theorem mem_expiredLaunches_iff {entry : Handle × Activity}
    (member : entry ∈ switcher.carousel.entries) :
    entry.1 ∈ switcher.expiredLaunches now limit ↔ entry.2.Overdue now limit := by
  rw [expiredLaunches, List.mem_map]
  constructor
  · rintro ⟨late, within, same⟩
    obtain ⟨present, expired⟩ := List.mem_filter.1 within
    have found := (valid.mem_entries_iff ..).1 present
    rw [same, (valid.mem_entries_iff ..).1 member, Option.some.injEq] at found
    rw [found]
    exact Activity.launchExpired_iff.1 expired
  · intro overdue
    exact ⟨entry, List.mem_filter.2 ⟨member, Activity.launchExpired_iff.2 overdue⟩, rfl⟩

/-- A sweep takes away the overdue splashes. -/
theorem leaves_expireLaunches (limited : switcher.launchTimeout = some limit) (now : Nat) :
    Leaves (fun entry => ¬ entry.2.Overdue now limit) switcher (switcher.expireLaunches now) := by
  have idle : ∀ handle ∈ switcher.expiredLaunches now limit, ∀ activity,
      switcher.carousel.get? handle = some activity → activity.pending? = none := by
    intro handle late activity found
    have member := (valid.mem_entries_iff handle activity).2 found
    exact ((mem_expiredLaunches_iff valid member).1 late).pending?_eq
  have swept := leaves_destroyActivities valid settled idle
  simp only [expireLaunches, limited]
  refine swept.congr fun entry member => ?_
  simp only [mem_expiredLaunches_iff valid member]

end

/-- As many cards are counted as are overdue. -/
theorem expiredCount_eq {limit : Nat} (limited : switcher.launchTimeout = some limit) (now : Nat) :
    switcher.expiredCount now =
      switcher.carousel.entries.countP fun entry => entry.2.Overdue now limit := by
  simp only [expiredCount, limited, expiredLaunches, List.length_map, List.countP_eq_length_filter,
    ← Activity.launchExpired_iff, Bool.decide_eq_true]

/-- A sweep that finds no overdue splash does nothing. -/
theorem expireLaunches_of_none_overdue {limit now : Nat}
    (limited : switcher.launchTimeout = some limit)
    (none : ∀ entry ∈ switcher.carousel.entries, ¬ entry.2.Overdue now limit) :
    switcher.expireLaunches now = switcher ∧ switcher.expiredCount now = 0 := by
  have nobody : switcher.expiredLaunches now limit = [] := by
    rw [expiredLaunches, List.map_eq_nil_iff, List.filter_eq_nil_iff]
    intro entry member late
    exact none entry member (Activity.launchExpired_iff.1 late)
  simp only [expireLaunches, expiredCount, limited, nobody, List.foldl_nil, List.length_nil,
    and_self]

/-- Those that are early, and those of the others that are late, are all that are late. -/
theorem countP_add_countP_filter {α : Type} {early late : α → Prop} [DecidablePred early]
    [DecidablePred late] (grows : ∀ element, early element → late element) (elements : List α) :
    elements.countP (fun element => early element) +
        (elements.filter fun element => ¬ early element).countP (fun element => late element) =
      elements.countP fun element => late element := by
  have both : (elements.filter fun element => early element).countP (fun element => late element) =
      elements.countP fun element => early element := by
    rw [List.countP_filter]
    refine List.countP_congr fun element _ => ?_
    simpa using grows element
  rw [← both]
  simpa using (List.countP_eq_countP_filter_add elements _ _).symm

/-- In every reachable situation a sweep takes away the overdue splashes with the references to them, and
counts them; all else stays. Without a limit it does nothing. A sweep followed by a later one does what the
later one does alone, up to the order in which the arena fills its free places, and both together count what
that one counts. A sweep that is repeated at once does nothing. -/
theorem Reachable.sweeps_compose (reachable : switcher.Reachable) :
    (switcher.launchTimeout = none →
      ∀ now, switcher.expireLaunches now = switcher ∧ switcher.expiredCount now = 0) ∧
    ∀ limit, switcher.launchTimeout = some limit →
      (∀ now,
        Leaves (fun entry => ¬ entry.2.Overdue now limit) switcher (switcher.expireLaunches now) ∧
        switcher.expiredCount now =
          switcher.carousel.entries.countP fun entry => entry.2.Overdue now limit) ∧
      (∀ now later, now ≤ later →
        let swept := switcher.expireLaunches now
        let twice := swept.expireLaunches later
        let once := switcher.expireLaunches later
        twice.carousel.entries = once.carousel.entries ∧
          twice = { once with carousel := { once.carousel with arena := twice.carousel.arena } } ∧
          switcher.expiredCount now + swept.expiredCount later = switcher.expiredCount later) ∧
      ∀ now,
        (switcher.expireLaunches now).expireLaunches now = switcher.expireLaunches now ∧
        (switcher.expireLaunches now).expiredCount now = 0 := by
  have valid := reachable.valid
  have settled := reachable.settled
  constructor
  · intro unlimited now
    simp only [expireLaunches, expiredCount, unlimited, and_self]
  · intro limit limited
    have stillLimited (now : Nat) : (switcher.expireLaunches now).launchTimeout = some limit := by
      rw [(leaves_expireLaunches valid settled limited now).others]
      exact limited
    refine ⟨fun now => ⟨leaves_expireLaunches valid settled limited now,
      expiredCount_eq limited now⟩, ?_, ?_⟩
    · intro now later ordered swept twice once
      have first := leaves_expireLaunches valid settled limited now
      have second := leaves_expireLaunches first.valid first.settled (stillLimited now) later
      -- Who stays at both sweeps is who stays at the later one.
      have both : Leaves (fun entry => ¬ entry.2.Overdue later limit) switcher twice := by
        refine (first.trans valid second).congr fun entry _ => ?_
        rw [Bool.and_eq_right_iff_imp, decide_eq_true_iff, decide_eq_true_iff]
        exact mt fun overdue => overdue.mono ordered
      obtain ⟨entries, rest⟩ := both.unique (leaves_expireLaunches valid settled limited later)
      refine ⟨entries, rest, ?_⟩
      rw [expiredCount_eq limited, expiredCount_eq (stillLimited now), expiredCount_eq limited,
        first.entries]
      exact countP_add_countP_filter (fun _ overdue => overdue.mono ordered) _
    · intro now
      apply expireLaunches_of_none_overdue (stillLimited now)
      intro entry member
      rw [(leaves_expireLaunches valid settled limited now).entries] at member
      simpa using List.of_mem_filter member

/-- Of two splashes one is overdue at the first sweep and the other at the second. The window stays. -/
theorem splashes_swept_in_turn :
    let started (token : String) := Event.launch ⟨.started, "org.gnome.Calls", ⟨token⟩⟩
    let opened := (assemble {} true [Scenario.callsWindow] (some 10)).start
    let launched := (((opened.handle 0 (started "calls-1")).1).handle 5 (started "calls-2")).1
    let swept := launched.expireLaunches 10
    let twice := swept.expireLaunches 15
    swept.carousel.roster =
        [(⟨1, 1⟩, .window ⟨1⟩), (⟨3, 1⟩, .launch ⟨"calls-2"⟩)] ∧
      twice.carousel.roster = [(⟨1, 1⟩, .window ⟨1⟩)] ∧
      twice.carousel.entries = (launched.expireLaunches 15).carousel.entries ∧
      launched.expiredCount 10 = 1 ∧ swept.expiredCount 15 = 1 ∧ launched.expiredCount 15 = 2 := by
  intro started opened launched swept twice
  have reachable : launched.Reachable := .handle (.handle (.start rfl rfl) 0 _) 5 _
  obtain ⟨-, composed, -⟩ := reachable.sweeps_compose.2 10 rfl
  obtain ⟨entries, -, counts⟩ := composed 10 15 (by decide)
  have early : launched.expiredCount 10 = 1 := by decide +kernel
  have late : swept.expiredCount 15 = 1 := by decide +kernel
  refine ⟨by decide +kernel, by decide +kernel, entries, early, late, ?_⟩
  rw [← counts, early, late]

end Switcher

end TaskSwitcher
