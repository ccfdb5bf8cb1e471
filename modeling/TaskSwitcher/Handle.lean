/-!
# Handles of activities

A handle names one activity for the whole of its life and nothing afterwards. It joins the number of a
storage slot with the version of that slot; the version tells the present user of the slot from all
earlier ones. Versions of slots in use are odd.
-/

namespace TaskSwitcher

/-- The name of an activity: a slot and the version of the slot. Slots are numbered without end. -/
structure Handle where
  slot : Nat
  version : UInt32
deriving DecidableEq

/-- The slot number that stands for no slot where handles come from outside. -/
def Handle.nullSlot : Nat := 4294967295

/-- The handle of no activity. -/
def Handle.null : Handle := ⟨nullSlot, 1⟩

/-- The handle written with this slot and version: there is one null handle only, and the version of any
other is made odd by rounding up. -/
def Handle.normalized (slot version : UInt32) : Handle :=
  if slot.toNat = nullSlot then null
  else ⟨slot.toNat, if version % 2 = 0 then version + 1 else version⟩

/-- The handles that `normalized` produces. -/
def Handle.IsNormal (handle : Handle) : Prop :=
  handle.slot ≤ nullSlot ∧ handle.version % 2 = 1 ∧ (handle.slot = nullSlot → handle.version = 1)

/-- The spelling of a handle in texts. -/
def Handle.text (handle : Handle) : String :=
  if handle.slot = nullSlot then "ActivityId(null)"
  else "ActivityId(" ++ toString handle.slot ++ "v" ++ toString handle.version.toNat ++ ")"

end TaskSwitcher
