import TaskSwitcher.UiEvent

/-!
# The search field of the application grid

The field takes characters that can be seen and gives everything back that it has no use for, so that
the keys can serve navigation while the field is empty.
-/

namespace TaskSwitcher

/-- The text in the search field, and whether the field has the keyboard. -/
structure AppGrid where
  query : String := ""
  focused : Bool := false

namespace AppGrid

/-- Control characters: the general category Cc. -/
def isControl (character : Char) : Bool :=
  character.toNat ≤ 0x1F || (0x7F ≤ character.toNat && character.toNat ≤ 0x9F)

/-- The field emptied and without the keyboard. -/
def reset (_ : AppGrid) : AppGrid := {}

/-- The field with the keyboard. -/
def focusSearch (grid : AppGrid) : AppGrid :=
  { grid with focused := true }

/-- A text without its last character. -/
def dropLast (text : String) : String :=
  String.ofList text.toList.dropLast

/-- The field after an input, and whether it used the input up. -/
def search (grid : AppGrid) : SearchInput → AppGrid × Propagation
  | .char character =>
      if isControl character then (grid, .proceed)
      else ({ query := grid.query.push character, focused := true }, .stop)
  | .backspace =>
      if grid.query = "" then (grid, .proceed)
      else ({ grid with query := dropLast grid.query }, .stop)
  | .escape =>
      if grid.query = "" then (grid, .proceed) else ({ grid with query := "" }, .stop)
  | .other => (grid, .proceed)

end AppGrid

end TaskSwitcher
