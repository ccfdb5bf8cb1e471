import TaskSwitcher.Text.CodePoints
import TaskSwitcher.Text.Combining
import TaskSwitcher.Text.Hidden

/-!
# Quoted text

Event texts show user-supplied strings between quotation marks. Whatever could not be seen, or would be
taken for the end of the quotation, is written as an escape: a short one for the usual control
characters and the backslash, the code point in braces for everything else without a visible form of
its own.
-/

namespace TaskSwitcher.Text

/-- The digits of a code point in lowercase hexadecimal, without leading zeros. -/
def hexDigits (point : Nat) : List Char :=
  Nat.toDigits 16 point

/-- A character by its code point, in the form backslash, `u`, digits in braces. -/
def escapedByNumber (character : Char) : List Char :=
  ['\\', 'u', '\x7b'] ++ hexDigits character.toNat ++ ['\x7d']

/-- A character inside a quotation that ends with `mark`. -/
def escaped (mark character : Char) : List Char :=
  if character = '\x00' then ['\\', '0']
  else if character = '\t' then ['\\', 't']
  else if character = '\r' then ['\\', 'r']
  else if character = '\n' then ['\\', 'n']
  else if character = '\\' then ['\\', '\\']
  else if character = mark then ['\\', mark]
  else if combiningCharacters.contains character || hiddenCharacters.contains character then
    escapedByNumber character
  else [character]

/-- A text between double quotation marks. -/
def quoted (text : String) : String :=
  String.ofList ('"' :: text.toList.flatMap (escaped '"') ++ ['"'])

/-- A single character between apostrophes. -/
def quotedChar (character : Char) : String :=
  String.ofList ('\x27' :: escaped '\x27' character ++ ['\x27'])

end TaskSwitcher.Text
