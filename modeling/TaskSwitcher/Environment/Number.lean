/-!
# Numbers in the values of variables
-/

namespace TaskSwitcher.Environment

/-- The number that decimal digits stand for, of which there is at least one. -/
def digits? (characters : List Char) : Option Nat :=
  if characters.isEmpty || !characters.all Char.isDigit then none
  else some (characters.foldl (fun sum digit => 10 * sum + (digit.toNat - '0'.toNat)) 0)

/-- The integer that a text stands for: an unsigned one of 64 bits, or else a signed one. -/
def integer? (characters : List Char) : Option Int :=
  match characters with
  | '-' :: rest => do
      let magnitude ← digits? rest
      if magnitude ≤ 9223372036854775808 then some (-(magnitude : Int)) else none
  | '+' :: rest => do
      let magnitude ← digits? rest
      if magnitude < 18446744073709551616 then some magnitude else none
  | rest => do
      let magnitude ← digits? rest
      if magnitude < 18446744073709551616 then some magnitude else none

/-- A text without a sign in front. -/
def withoutSign : List Char → List Char
  | '+' :: rest | '-' :: rest => rest
  | characters => characters

/-- Whether a text is an exponent with its mark, or nothing. -/
def isExponentOrEmpty : List Char → Bool
  | [] => true
  | 'e' :: rest | 'E' :: rest => (digits? (withoutSign rest)).isSome
  | _ => false

/-- Whether a text with a point in it is a decimal number. -/
def isPointed (characters : List Char) : Bool :=
  let unsigned := withoutSign characters
  let whole := unsigned.takeWhile Char.isDigit
  match unsigned.drop whole.length with
  | '.' :: rest =>
      let fraction := rest.takeWhile Char.isDigit
      !(whole.isEmpty && fraction.isEmpty) && isExponentOrEmpty (rest.drop fraction.length)
  | _ => false

end TaskSwitcher.Environment
