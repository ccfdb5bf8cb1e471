import TaskSwitcher.Proofs.Carousel.Lineage
import TaskSwitcher.Proofs.Switcher.Pictures
import TaskSwitcher.Proofs.Switcher.Reachable

/-!
# Runs of the overview

A run is a list of happenings: events are handled, fresh ones or those that wait, the overview looks at the
registry, its announcements are collected, and the device changes as it pleases. A new overview starts with
a look at the registry. Of the deeds that handling is made of, only the making of a card has to do with who
is on the strip and with what is announced about it.
-/

namespace TaskSwitcher

/-- One thing that happens to the overview or to the device around it. -/
inductive Happening where
  /-- An event is handled that comes at the time `now`, wherever it comes from. -/
  | event (now : Nat) (event : Event)
  /-- The oldest waiting event is handled, if one waits. -/
  | next (now : Nat)
  | sync
  | collect
  /-- The windows, the shell and the mailbox change without the overview. -/
  | device (device : Device)

namespace Switcher

/-- The situation after a happening. -/
def undergo (switcher : Switcher) : Happening → Switcher
  | .event now event => (switcher.handle now event).1
  | .next now => ((switcher.handleNext now).map (·.2)).getD switcher
  | .sync => switcher.syncWindows
  | .collect => switcher.collected
  | .device device => { switcher with toDevice := device }

/-- The situation after several happenings. -/
def undergoAll (switcher : Switcher) (happenings : List Happening) : Switcher :=
  happenings.foldl undergo switcher

variable (switcher : Switcher) {before after : Switcher}

@[simp] theorem undergoAll_cons (first : Happening) (rest : List Happening) :
    switcher.undergoAll (first :: rest) = (switcher.undergo first).undergoAll rest :=
  rfl

/-- The later happenings start where the earlier ones end. -/
theorem undergoAll_append (earlier later : List Happening) :
    switcher.undergoAll (earlier ++ later) = (switcher.undergoAll earlier).undergoAll later :=
  List.foldl_append

/-- Nothing waits, or the event that has waited longest is handled when it waits no more. -/
theorem undergo_next_cases (now : Nat) :
    switcher.undergo (.next now) = switcher ∨
      ∃ event ∈ switcher.mailbox.waiting,
        switcher.undergo (.next now) = (switcher.taken.handle now event).1 := by
  unfold undergo handleNext
  cases waiting : switcher.mailbox.waiting with
  | nil => exact .inl rfl
  | cons first rest => exact .inr ⟨first, List.mem_cons_self, rfl⟩

/-- Whatever happens, the strip stays valid. -/
theorem valid_undergo {switcher : Switcher} (valid : switcher.carousel.Valid) (happening : Happening) :
    (switcher.undergo happening).carousel.Valid := by
  cases happening with
  | event now event => exact valid_handle valid now event
  | next now =>
      rcases switcher.undergo_next_cases now with unchanged | ⟨event, -, handled⟩
      · rwa [unchanged]
      · rw [handled]
        have validTaken : switcher.taken.carousel.Valid := valid
        exact valid_handle validTaken now event
  | sync => exact valid_syncWindows valid
  | collect => exact valid
  | device device => exact valid

end Switcher

/-! ### Deeds that leave the strip alone -/

/-- The same cards are on the strip, in the same slots, and the same is noted about whether there are any. -/
structure Carousel.SameStrip (before after : Carousel) : Prop where
  order : after.order = before.order
  shapes : after.arena.shapes = before.arena.shapes
  hasActivities : after.hasActivities = before.hasActivities
  changes : after.changes = before.changes

namespace Carousel.SameStrip

variable (carousel : Carousel) (handle : Handle) (change : Activity → Activity)

/-- The strip stays the same if nothing is done. -/
theorem refl : SameStrip carousel carousel :=
  ⟨rfl, rfl, rfl, rfl⟩

/-- A change of one card leaves it on the strip. -/
theorem modify : SameStrip carousel (carousel.modify handle change) :=
  ⟨rfl, Arena.shapes_modify .., rfl, rfl⟩

/-- A change of all cards leaves them on the strip. -/
theorem mapActivities : SameStrip carousel (carousel.mapActivities change) :=
  ⟨rfl, Arena.shapes_map .., rfl, rfl⟩

/-- Moving the focus leaves the cards on the strip. -/
theorem focus : SameStrip carousel (carousel.focus handle) := by
  unfold Carousel.focus
  split <;> exact ⟨rfl, rfl, rfl, rfl⟩

/-- Scrolling leaves the cards on the strip. -/
theorem scrollTo : SameStrip carousel (carousel.scrollTo handle) := by
  unfold Carousel.scrollTo
  split <;> exact ⟨rfl, rfl, rfl, rfl⟩

/-- The signal to scroll leaves the cards on the strip. -/
theorem scrollOnly : SameStrip carousel (carousel.scrollOnly handle) := by
  unfold Carousel.scrollOnly
  split <;> exact ⟨rfl, rfl, rfl, rfl⟩

/-- The signal to grab the focus leaves the cards on the strip. -/
theorem grabFocus : SameStrip carousel (carousel.grabFocus handle) := by
  unfold Carousel.grabFocus
  split <;> exact ⟨rfl, rfl, rfl, rfl⟩

variable {before middle after : Carousel}

/-- A strip that stays the same one time and then another stays the same. -/
theorem trans (first : SameStrip before middle) (second : SameStrip middle after) :
    SameStrip before after where
  order := second.order.trans first.order
  shapes := second.shapes.trans first.shapes
  hasActivities := second.hasActivities.trans first.hasActivities
  changes := second.changes.trans first.changes

end Carousel.SameStrip

namespace Switcher

variable {before after : Switcher}

/-- The strip stays the same, and nothing is announced about whether there are cards. -/
structure KeepsStrip (before after : Switcher) : Prop where
  strip : before.carousel.SameStrip after.carousel
  signals : ∃ signals, after.signals = before.signals ++ signals ∧
    signals.filterMap Signal.occupancy? = []

namespace KeepsStrip

/-- What changes no strip and announces nothing keeps the strip. -/
theorem silent (strip : before.carousel.SameStrip after.carousel)
    (signals : after.signals = before.signals) : KeepsStrip before after where
  strip := strip
  signals := ⟨[], by rw [signals, List.append_nil], rfl⟩

/-- A command keeps the strip. -/
theorem command (call : Call) : KeepsStrip before (before.obey call) := by
  cases call <;> exact .silent (.refl _) rfl

/-- A request for a picture changes a card and keeps the strip. -/
theorem requestThumbnail (handle : Handle) :
    KeepsStrip before (before.requestThumbnail handle) := by
  rcases before.requestThumbnail_cases handle with
    unchanged | ⟨picture, window, size, -, requested⟩
  · rw [unchanged]
    exact .silent (.refl _) rfl
  · rw [requested]
    have marked : before.carousel.SameStrip (before.carousel.modify handle
        (·.awaiting (some before.thumbnailer.next))) := .modify ..
    cases picture.pending with
    | none => exact .silent marked rfl
    | some former => exact .silent marked rfl

/-- A touch keeps the strip. -/
theorem touch (touch : Touch before after) : KeepsStrip before after := by
  cases touch with
  | request handle => exact .requestThumbnail handle
  | allocate handle size drawable => exact .silent (.modify ..) rfl
  | area area => exact .silent (.mapActivities ..) rfl
  | scroll handle => exact .silent (.scrollOnly ..) rfl
  | grab handle => exact .silent (.grabFocus ..) rfl
  | command call other => exact .command call
  | emit signal other =>
      refine ⟨.refl _, [signal], rfl, ?_⟩
      rw [List.filterMap_cons_none other, List.filterMap_nil]

end KeepsStrip

/-- Each deed leaves the strip alone, makes a card, or announces what is noted. -/
theorem Deed.keepsStrip_or (deed : Deed before after) :
    KeepsStrip before after ∨ (∃ activity, after = before.createActivity activity) ∨
      after = before.announceOccupancy := by
  cases deed with
  | touch touch => exact .inl (.touch touch)
  | launch appId appInfo startupId now recognised => exact .inr (.inl ⟨_, rfl⟩)
  | add window => exact .inr (.inl ⟨_, rfl⟩)
  | bind handle window activity found splash => exact .inl (.silent (.modify ..) rfl)
  | «show» handle window => exact .inl (.silent (.modify ..) rfl)
  | fullscreen handle fullscreen => exact .inl (.silent (.modify ..) rfl)
  | focus handle =>
      refine .inl (.silent ?_ rfl)
      exact (Carousel.SameStrip.focus _ handle).trans (.scrollTo _ handle)
  | announce => exact .inr (.inr rfl)

end Switcher

end TaskSwitcher
