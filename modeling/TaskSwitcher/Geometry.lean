import TaskSwitcher.Window

/-!
# Sizes

Sizes are 32-bit numbers that may be zero or negative when they come from outside. Scaling a size stays
within the 32-bit range by stopping at its ends.
-/

namespace TaskSwitcher

/-- A width and a height. -/
structure Size where
  width : Int32
  height : Int32
deriving DecidableEq

/-- The 32-bit number nearest to an integer. -/
def clampedInt32 (value : Int) : Int32 :=
  Int32.ofInt (max (-2147483648) (min 2147483647 value))

/-- The product, or the end of the 32-bit range that it lies beyond. -/
def saturatingProduct (left right : Int32) : Int32 :=
  clampedInt32 (left.toInt * right.toInt)

/-- A size with both sides multiplied by a factor. -/
def Size.scaled (size : Size) (factor : Int32) : Size :=
  ⟨saturatingProduct size.width factor, saturatingProduct size.height factor⟩

/-- Both sides are positive. -/
def Size.isDrawable (size : Size) : Bool :=
  0 < size.width && 0 < size.height

/-- A size cannot be drawn in if one of its sides is not positive. -/
theorem Size.isDrawable_eq_false_iff (size : Size) :
    size.isDrawable = false ↔ size.width ≤ 0 ∨ size.height ≤ 0 := by
  simp only [isDrawable, Bool.and_eq_false_iff, decide_eq_false_iff_not, Int32.not_lt]

/-- What a card assumes about its window: the size the window will take and the state it is in. -/
structure Geometry where
  size : Size
  maximized : Bool := false
  fullscreen : Bool := false
deriving DecidableEq

/-- The geometry of a window that fills an area, in the state the snapshot reports. -/
def Geometry.ofWindow (area : Size) (window : Window) : Geometry :=
  { size := area, maximized := window.maximized, fullscreen := window.fullscreen }

end TaskSwitcher
