import TaskSwitcher.Proofs.Switcher.Happenings
import TaskSwitcher.Scenario.Rehearsal
import TaskSwitcher.Service

/-!
# Announcing whether there are cards

Whether there are any cards is announced when it changes and at no other time. The carousel notes each
change, and whoever makes or removes a card announces what was noted at once. What handles an event either
only makes cards or only removes them, so it changes the answer at most once.
-/

namespace TaskSwitcher

/-- What has to be told when `present` is the case and `noted` was told last. -/
def turn (noted present : Bool) : List Bool :=
  if present = noted then [] else [present]

/-- No two values in a row are the same. The first differs from `noted`, and what was told at the end is
`present`. -/
structure Alternates (noted : Bool) (values : List Bool) (present : Bool) : Prop where
  alternating : ∀ index value, values[index]? = some value →
    value = (noted ^^ decide (index % 2 = 0))
  last : values.getLast?.getD noted = present

namespace Alternates

/-- Where nothing is told, what was told last still is the case. -/
theorem nothing (noted : Bool) : Alternates noted [] noted where
  alternating index value told := by cases told
  last := rfl

/-- What has to be told first goes in front of what is told in turn afterwards. -/
theorem turn_append {noted middle present : Bool} {values : List Bool}
    (later : Alternates middle values present) :
    Alternates noted (turn noted middle ++ values) present := by
  unfold turn
  split
  · next same => rwa [List.nil_append, ← same]
  · next differs =>
      have opposite : middle = !noted := by simpa [Bool.eq_not] using differs
      constructor
      · intro index value told
        cases index with
        | zero =>
            cases told
            simpa using opposite
        | succ index =>
            rw [later.alternating index value told, opposite]
            have parity : (index + 1) % 2 = 0 ↔ ¬ index % 2 = 0 := by omega
            simp only [parity, decide_not, Bool.not_bne, Bool.bne_not]
      · rw [List.singleton_append, List.getLast?_cons, Option.getD_some, later.last]

end Alternates

/-- What was told already is not told again. -/
theorem turn_self (noted : Bool) : turn noted noted = [] :=
  if_pos rfl

/-- One answer is enough to say what is the case. -/
theorem length_turn_le_one (noted present : Bool) : (turn noted present).length ≤ 1 := by
  unfold turn
  split <;> simp

/-- What is told about two changes in a row is what is told about both at once, if the second does not undo
the first. -/
theorem turn_append_turn {towards noted middle present : Bool}
    (first : noted = towards → middle = towards) (second : middle = towards → present = towards) :
    turn noted middle ++ turn middle present = turn noted present := by
  cases towards <;> cases noted <;> cases middle <;> cases present <;> simp_all [turn]

namespace Carousel

/-- It is noted whether there are cards now, and all that was noted has been asked for. -/
structure Settled (carousel : Carousel) : Prop where
  noted : carousel.hasActivities = carousel.occupied
  flushed : carousel.changes = []

/-- Whether there are cards is a matter of the order. -/
theorem occupied_congr {first second : Carousel} (order : first.order = second.order) :
    first.occupied = second.occupied := by
  rw [occupied, occupied, isEmpty, isEmpty, order]

/-- Noting whether there are cards adds what has to be told about that. -/
theorem changes_noteOccupancy (carousel : Carousel) :
    carousel.noteOccupancy.changes =
      carousel.changes ++ turn carousel.hasActivities carousel.occupied := by
  unfold noteOccupancy turn
  split <;> simp

/-- Once it was noted and told whether there are cards, nothing is left to tell. -/
theorem settled_noteOccupancy (carousel : Carousel) : carousel.noteOccupancy.drain.Settled where
  noted := carousel.hasActivities_noteOccupancy.trans
    (occupied_congr carousel.order_noteOccupancy).symm
  flushed := rfl

/-- A card is taken off the strip first, and then it is noted whether any is left. -/
theorem exists_noteOccupancy_erase (carousel : Carousel) {handle : Handle}
    (live : carousel.contains handle = true) :
    ∃ changed : Carousel, carousel.erase handle = changed.noteOccupancy ∧
      changed.hasActivities = carousel.hasActivities ∧ changed.changes = carousel.changes ∧
      changed.order = carousel.order.filter (· ≠ handle) :=
  ⟨_, if_pos live, rfl, rfl, rfl⟩

end Carousel

namespace Switcher

variable {switcher before middle after : Switcher} {towards : Bool}

/-! ### What one deed announces -/

/-- If it changes whether there are cards then it changes `towards` this answer, and it announces exactly
that. -/
structure Announces (towards : Bool) (before after : Switcher) : Prop where
  settled : after.carousel.Settled
  stays : before.carousel.occupied = towards → after.carousel.occupied = towards
  signals : ∃ signals, after.signals = before.signals ++ signals ∧
    signals.filterMap Signal.occupancy? = turn before.carousel.occupied after.carousel.occupied

@[simp] theorem signals_cancelThumbnail (request : Option ThumbnailRequest) :
    (switcher.cancelThumbnail request).signals = switcher.signals := by
  cases request <;> rfl

namespace Announces

/-- Changes towards one answer announce together what is to be told in the end. -/
theorem trans (first : Announces towards before middle) (second : Announces towards middle after) :
    Announces towards before after where
  settled := second.settled
  stays same := second.stays (first.stays same)
  signals := by
    obtain ⟨signals, told, values⟩ := first.signals
    obtain ⟨more, toldMore, moreValues⟩ := second.signals
    refine ⟨signals ++ more, by rw [toldMore, told, List.append_assoc], ?_⟩
    rw [List.filterMap_append, values, moreValues, turn_append_turn first.stays second.stays]

variable (settled : before.carousel.Settled)

include settled

/-- As long as the strip stays the same there is nothing to tell. -/
theorem keepsStrip (keeps : KeepsStrip before after) : Announces towards before after := by
  have occupied : after.carousel.occupied = before.carousel.occupied :=
    Carousel.occupied_congr keeps.strip.order
  constructor
  · constructor
    · rw [keeps.strip.hasActivities, settled.noted, occupied]
    · rw [keeps.strip.changes, settled.flushed]
  · exact occupied.trans
  · obtain ⟨signals, told, silent⟩ := keeps.signals
    exact ⟨signals, told, by rw [silent, occupied, turn_self]⟩

/-- Doing nothing announces nothing. -/
theorem refl : Announces towards before before :=
  keepsStrip settled (.silent (.refl _) rfl)

/-- The strip is changed, and the change is noted and announced. -/
theorem noteOccupancy {changed : Carousel}
    (carousel : after.carousel = changed.noteOccupancy.drain)
    (signals : after.signals = before.signals ++ changed.noteOccupancy.changes.map .hasActivities)
    (hasActivities : changed.hasActivities = before.carousel.hasActivities)
    (changes : changed.changes = before.carousel.changes)
    (stays : before.carousel.occupied = towards → changed.occupied = towards) :
    Announces towards before after := by
  have occupied : after.carousel.occupied = changed.occupied := by
    rw [carousel]
    exact Carousel.occupied_congr changed.order_noteOccupancy
  constructor
  · rw [carousel]
    exact changed.settled_noteOccupancy
  · rwa [occupied]
  · refine ⟨_, signals, ?_⟩
    rw [changed.changes_noteOccupancy, changes, hasActivities, settled.flushed, settled.noted,
      occupied, List.nil_append, List.filterMap_map]
    exact List.filterMap_some

/-- A new card can only lead to there being cards. -/
theorem create (activity : Activity) :
    Announces true before (before.createActivity activity) := by
  refine noteOccupancy settled rfl rfl rfl rfl fun _ => ?_
  simp [Carousel.occupied, Carousel.isEmpty]

/-- The removal of a card can only lead to there being none. -/
theorem destroy (handle : Handle) : Announces false before (before.destroyActivity handle) := by
  unfold destroyActivity
  split
  · exact refl settled
  · next activity found =>
      have live := (before.carousel.contains_iff handle).2 ⟨activity, found⟩
      obtain ⟨changed, erased, hasActivities, changes, order⟩ :=
        before.carousel.exists_noteOccupancy_erase live
      refine noteOccupancy settled ?_ ?_ hasActivities changes fun empty => ?_
      · rw [announceOccupancy, carousel_cancelThumbnail, mapCarousel, erased]
      · rw [announceOccupancy, signals_cancelThumbnail, carousel_cancelThumbnail, mapCarousel, erased]
      · have none : before.carousel.order = [] := by
          simpa [Carousel.occupied, Carousel.isEmpty] using empty
        simp [Carousel.occupied, Carousel.isEmpty, order, none]

/-- There is nothing left to announce. -/
theorem announceOccupancy : Announces towards before before.announceOccupancy := by
  refine keepsStrip settled (.silent ⟨rfl, rfl, rfl, settled.flushed.symm⟩ ?_)
  rw [Switcher.announceOccupancy, settled.flushed]
  exact List.append_nil _

/-- A deed makes cards or none, and so leads to there being cards if to anything. -/
theorem deed (deed : Deed before after) : Announces true before after := by
  rcases deed.keepsStrip_or with keeps | ⟨activity, rfl⟩ | rfl
  · exact .keepsStrip settled keeps
  · exact .create settled activity
  · exact .announceOccupancy settled

/-- Deeds lead towards there being cards, so that they announce one answer at most. -/
theorem deeds (deeds : Deeds before after) : Announces true before after := by
  induction deeds with
  | refl => exact .refl settled
  | tail _ last inductionHypothesis =>
      exact inductionHypothesis.trans (.deed inductionHypothesis.settled last)

/-- Removals lead towards there being no cards, so that they announce one answer at most. -/
theorem clears (clears : Clears before after) : Announces false before after := by
  obtain ⟨handles, rfl⟩ := clears
  induction handles generalizing before with
  | nil => exact .refl settled
  | cons first rest inductionHypothesis =>
      have destroyed := Announces.destroy settled first
      exact destroyed.trans (inductionHypothesis destroyed.settled)

end Announces

/-! ### Along a run -/

/-- Each event leads towards one answer and announces it when it is reached. -/
theorem announces_handle (settled : switcher.carousel.Settled) (now : Nat) (event : Event) :
    ∃ towards, Announces towards switcher (switcher.handle now event).1 := by
  rcases switcher.handle_cases now event with ⟨handle, request, rfl⟩ | deeds | clears
  · exact ⟨true, .keepsStrip settled (.silent (.modify ..) rfl)⟩
  · exact ⟨true, .deeds settled deeds⟩
  · exact ⟨false, .clears settled clears⟩

/-- Every happening but the collecting of announcements announces the change that it makes. -/
theorem announces_undergo (settled : switcher.carousel.Settled) {happening : Happening}
    (other : happening ≠ .collect) :
    ∃ towards, Announces towards switcher (switcher.undergo happening) := by
  cases happening with
  | event now event => exact announces_handle settled now event
  | next now =>
      rcases switcher.undergo_next_cases now with unchanged | ⟨event, -, handled⟩
      · rw [unchanged]
        exact ⟨true, .refl settled⟩
      · rw [handled]
        have settledTaken : switcher.taken.carousel.Settled := settled
        obtain ⟨towards, announces⟩ := announces_handle settledTaken now event
        exact ⟨towards, announces.settled, announces.stays, announces.signals⟩
  | sync => exact ⟨true, .deeds settled switcher.deeds_syncWindows⟩
  | collect => exact absurd rfl other
  | device device => exact ⟨true, .keepsStrip settled (.silent (.refl _) rfl)⟩

/-- Whether there are cards is noted and told in every situation that can be reached. -/
theorem Reachable.settled (reachable : switcher.Reachable) : switcher.carousel.Settled := by
  induction reachable with
  | @start parts noCards _ =>
      have settled : parts.carousel.Settled := noCards ▸ ⟨rfl, rfl⟩
      exact (Announces.deeds settled parts.deeds_syncWindows).settled
  | handle _ now event inductionHypothesis =>
      obtain ⟨_, announces⟩ := announces_handle inductionHypothesis now event
      exact announces.settled
  | @sync before _ inductionHypothesis =>
      exact (Announces.deeds inductionHypothesis before.deeds_syncWindows).settled
  | collect _ inductionHypothesis => exact inductionHypothesis
  | device _ _ inductionHypothesis => exact inductionHypothesis

/-- The announcements that a happening hands over to whoever collects them. -/
def handedOver (switcher : Switcher) : Happening → List Signal
  | .collect => switcher.signals
  | _ => []

/-- Everything that was announced up to the end of a run: what was collected on the way, and what still
waits to be collected. -/
def announced (switcher : Switcher) : List Happening → List Signal
  | [] => switcher.signals
  | first :: rest => switcher.handedOver first ++ (switcher.undergo first).announced rest

/-- A happening announces the turn from one occupancy to the next, also when it hands announcements over. -/
theorem announced_undergo (settled : switcher.carousel.Settled) (happening : Happening) :
    (switcher.undergo happening).carousel.Settled ∧
      ∃ signals, switcher.handedOver happening ++ (switcher.undergo happening).signals =
          switcher.signals ++ signals ∧
        signals.filterMap Signal.occupancy? =
          turn switcher.carousel.occupied (switcher.undergo happening).carousel.occupied := by
  by_cases collects : happening = .collect
  · subst collects
    exact ⟨settled, [], rfl, (turn_self _).symm⟩
  · obtain ⟨towards, announces⟩ := announces_undergo settled collects
    have kept : switcher.handedOver happening = [] := by
      cases happening with
      | collect => exact absurd rfl collects
      | _ => rfl
    rw [kept]
    exact ⟨announces.settled, announces.signals⟩

/-- The turns of the happenings, one after the other, alternate. -/
theorem announced_undergoAll (settled : switcher.carousel.Settled) (happenings : List Happening) :
    (switcher.undergoAll happenings).carousel.Settled ∧
      ∃ signals, switcher.announced happenings = switcher.signals ++ signals ∧
        Alternates switcher.carousel.occupied (signals.filterMap Signal.occupancy?)
          (switcher.undergoAll happenings).carousel.occupied := by
  induction happenings generalizing switcher with
  | nil => exact ⟨settled, [], (List.append_nil _).symm, .nothing _⟩
  | cons first rest inductionHypothesis =>
      obtain ⟨settledNext, signals, told, values⟩ := announced_undergo settled first
      obtain ⟨settledLast, more, toldMore, alternates⟩ := inductionHypothesis settledNext
      refine ⟨settledLast, signals ++ more, ?_, ?_⟩
      · rw [announced, toldMore, ← List.append_assoc, told, List.append_assoc]
      · rw [List.filterMap_append, values]
        exact alternates.turn_append

/-- In every run the announcements of whether there are cards are true, false, true and so on. The last of
them is what the carousel has noted and what is the case, and nothing that was noted is left unannounced.
No happening announces more than one of them. -/
theorem occupancy_announced_in_turn (noCards : switcher.carousel = {}) (noSignals : switcher.signals = [])
    (happenings : List Happening) :
    let final := switcher.undergoAll happenings
    let values := (switcher.announced happenings).filterMap Signal.occupancy?
    (∀ index value, values[index]? = some value → value = decide (index % 2 = 0)) ∧
      values.getLast?.getD false = final.carousel.hasActivities ∧
      final.carousel.hasActivities = !final.carousel.isEmpty ∧
      final.carousel.changes = [] ∧
      ∀ happening ≠ .collect, ∃ signals,
        (final.undergo happening).signals = final.signals ++ signals ∧
          (signals.filterMap Signal.occupancy?).length ≤ 1 := by
  intro final values
  have settled : switcher.carousel.Settled := by
    rw [noCards]
    exact ⟨rfl, rfl⟩
  obtain ⟨settledFinal, signals, told, alternates⟩ := announced_undergoAll settled happenings
  rw [noSignals, List.nil_append] at told
  rw [← told, noCards] at alternates
  refine ⟨fun index value known => ?_, ?_, settledFinal.noted, settledFinal.flushed, ?_⟩
  · exact (alternates.alternating index value known).trans (Bool.false_xor _)
  · rw [settledFinal.noted]
    exact alternates.last
  · intro happening other
    obtain ⟨towards, announces⟩ := announces_undergo settledFinal other
    obtain ⟨signals, appended, values⟩ := announces.signals
    exact ⟨signals, appended, values ▸ length_turn_le_one ..⟩

/-- Two splashes come, the announcements are collected, and one tick removes both splashes. Then a window
is opened. -/
theorem splashes_expire_together :
    let parts := assemble {} true [] (some 10)
    let launched (token : String) := Happening.event 0
      (.launch { stage := .started, appId := "org.gnome.Calls", startupId := ⟨token⟩ })
    let happenings := [.sync, launched "first", launched "second", .collect, .event 0 (.tick 10),
      .event 0 (.window (.added Scenario.callsWindow))]
    parts.carousel = {} ∧ parts.signals = [] ∧
      (parts.announced happenings).filterMap Signal.occupancy? = [true, false, true] ∧
      (parts.undergoAll happenings).carousel.hasActivities = true := by
  intro parts launched happenings
  have noCards : parts.carousel = {} := rfl
  obtain ⟨-, last, -⟩ := occupancy_announced_in_turn noCards rfl happenings
  have values : (parts.announced happenings).filterMap Signal.occupancy? = [true, false, true] := by
    decide +kernel
  rw [values] at last
  exact ⟨noCards, rfl, values, last.symm⟩

end Switcher

end TaskSwitcher
