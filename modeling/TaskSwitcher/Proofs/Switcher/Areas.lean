import TaskSwitcher.Proofs.Switcher.Cards

/-!
# The size that cards assume

A card assumes that its window will fill the usable area of the screen. A new card asks the shell for this
area, and so does a splash when it gets its window; a report that the area has changed is believed by all
cards at once. Besides, a card may be drawn in a size of its own, which is never empty. Nothing else has to do
with the sizes of a card.
-/

namespace TaskSwitcher

namespace Switcher

/-- A property of the size that a card assumes, and of the size that it is drawn in if it is drawn, lasts if it
survives that a card is told of an area or drawn. -/
theorem lasting_of_sizes {areas : Size → Prop} (holds : Size → Option Size → Prop)
    (fresh : ∀ {area}, areas area → holds area none)
    (told : ∀ {area assumed drawn}, areas area → holds assumed drawn → holds area drawn)
    (drawn : ∀ {assumed drawn size}, size.isDrawable = true → holds assumed drawn →
      holds assumed (some size)) :
    Lasting areas fun activity => holds activity.geometry.size activity.allocation where
  launching allowed _ _ _ _ _ := fresh allowed
  running allowed _ _ _ := fresh allowed
  bindWindow former allowed _ := told allowed former
  withArea former allowed := told allowed former
  withAllocation former drawable := drawn drawable former
  withFullscreen former _ := former
  showing former _ := former
  awaiting {activity} former request :=
    Activity.of_outline_eq (motive := fun card => holds card.geometry.size card.allocation)
      (fun _ => .rfl) (activity.outline_awaiting request) former
  receive {activity} former request :=
    Activity.of_outline_eq (motive := fun card => holds card.geometry.size card.allocation)
      (fun _ => .rfl) (activity.outline_receive request) former

/-! ### The usable area -/

/-- The shell has this usable area, and every card assumes that its window will fill it. -/
structure Fills (area : Size) (switcher : Switcher) : Prop where
  shell : switcher.shell.usableArea = area
  cards : ∀ handle activity, switcher.carousel.get? handle = some activity →
    activity.geometry.size = area

/-- Cards that assume this area are made, and kept assuming it, while no other area is spoken of. -/
theorem lasting_area (area : Size) : Lasting (· = area) (·.geometry.size = area) :=
  lasting_of_sizes (fun assumed _ => assumed = area) id (fun allowed _ => allowed)
    fun _ former => former

namespace Fills

variable {area : Size} {switcher after : Switcher} (fills : switcher.Fills area)

include fills

/-- Where all cards fill the area, every card is one that does. -/
theorem upholds : switcher.Upholds (· = area) (·.geometry.size = area) :=
  ⟨fills.shell, fills.cards⟩

omit fills in
/-- Where every card is one that fills the area, all cards do. -/
theorem of_upholds (upholds : switcher.Upholds (· = area) (·.geometry.size = area)) :
    switcher.Fills area :=
  ⟨upholds.shell, upholds.cards⟩

/-- Whether cards fill the area can be read off the cards and the shell. -/
theorem of_same (arena : after.carousel.arena = switcher.carousel.arena)
    (usableArea : after.shell.usableArea = switcher.shell.usableArea) : after.Fills area :=
  of_upholds (fills.upholds.of_same arena usableArea)

/-- Cards that assume the area of the shell go on doing so, unless another area is reported. -/
theorem handle (valid : switcher.carousel.Valid) (now : Nat) {event : Event}
    (other : event.area? = none) : (switcher.handle now event).1.Fills area := by
  refine of_upholds (fills.upholds.handle (lasting_area area) valid now fun reported speaks => ?_)
  rw [other] at speaks
  cases speaks

/-- The cards that a look at the registry makes fill the area as well. -/
theorem syncWindows (valid : switcher.carousel.Valid) : switcher.syncWindows.Fills area :=
  of_upholds (fills.upholds.syncWindows (lasting_area area) valid)

end Fills

/-- A reported area is believed by all cards, and is right if it is that of the shell. -/
theorem fills_handle_of_area {switcher : Switcher} {area : Size} (now : Nat) {event : Event}
    (reported : event.area? = some area) (right : switcher.shell.usableArea = area) :
    (switcher.handle now event).1.Fills area := by
  cases event with
  | ui event =>
      cases event with
      | usableAreaChanged width height =>
          cases reported
          refine ⟨right, fun handle card found => ?_⟩
          obtain ⟨activity, -, rfl⟩ :=
            Option.map_eq_some_iff.1 ((switcher.carousel.get?_mapActivities ..).symm.trans found)
          rfl
      | _ => cases reported
  | _ => cases reported

end Switcher

end TaskSwitcher
