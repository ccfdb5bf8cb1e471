import TaskSwitcher.Text.CodePoints
import TaskSwitcher.Text.Cased
import TaskSwitcher.Text.CaseIgnorable
import TaskSwitcher.Text.LowercaseTable

/-!
# Lowercase text

The full lowercase mapping of Unicode on texts. It maps character by character with two exceptions: the
dotted capital I becomes a plain i followed by a combining dot, and the capital sigma becomes the final
form of the letter where it ends a word.
-/

namespace TaskSwitcher.Text

/-- The lowercase form of a character that does not depend on its surroundings. -/
def lowercaseChar (character : Char) : Char :=
  match caseRuns.findSome? (·.image character.toNat) with
  | some point => Char.ofNat point
  | none => character

/-- The next character that is not case-ignorable exists and has a case. -/
def meetsCased (characters : List Char) : Bool :=
  match characters.dropWhile caseIgnorableCharacters.contains with
  | [] => false
  | next :: _ => casedCharacters.contains next

/-- A sigma ends a word when a cased character stands before it and none after it; case-ignorable
characters between do not count. `before` is read backwards, from the sigma towards the start. -/
def endsWord (before after : List Char) : Bool :=
  meetsCased before && !meetsCased after

/-- The lowercase form of one character within its text. -/
def lowercaseAt (before : List Char) (character : Char) (after : List Char) : List Char :=
  if character = 'Σ' then
    [if endsWord before after then 'ς' else 'σ']
  else if character = 'İ' then
    ['i', '\u0307']
  else
    [lowercaseChar character]

/-- The lowercase form of `text`, the reverse of what precedes it being `before`. -/
def lowercaseAfter (before : List Char) : List Char → List Char
  | [] => []
  | character :: after =>
      lowercaseAt before character after ++ lowercaseAfter (character :: before) after

/-- The lowercase form of a text. -/
def lowercase (text : List Char) : List Char :=
  lowercaseAfter [] text

end TaskSwitcher.Text
