import TaskSwitcher.Decimal
import TaskSwitcher.Toml.Lexical
import TaskSwitcher.Value

/-!
# Numbers of a document

Integers have 64 bits with a sign. Numbers with a fraction or an exponent must not be so large that they
would be rounded to infinity, which has a word of its own. Digits may be set apart by single underscores
between them.
-/

namespace TaskSwitcher.Toml

/-- Characters of numbers and of the words that stand for values. -/
def isWordCharacter (character : Char) : Bool :=
  character.isAlphanum || character = '_' || character = '+' || character = '-' || character = '.'

/-- The digits of a run in which single underscores set digits apart. -/
def separatedDigits? (isDigit : Char → Bool) : List Char → Option (List Char)
  | [] => none
  | [digit] => if isDigit digit then some [digit] else none
  | digit :: '_' :: rest =>
      if isDigit digit then (separatedDigits? isDigit rest).map (digit :: ·) else none
  | digit :: rest =>
      if isDigit digit then (separatedDigits? isDigit rest).map (digit :: ·) else none

/-- The number that digits of a base stand for. -/
def numeral (base : Nat) (digits : List Char) : Nat :=
  digits.foldl (fun sum digit => base * sum + (hexValue? digit).getD 0) 0

/-- Whether a character is a digit of a base. -/
def isDigitOf (base : Nat) (character : Char) : Bool :=
  (hexValue? character).any (· < base)

/-- The integer, if it fits into 64 bits with a sign. -/
def inRange? (value : Int) : Option Int :=
  if -9223372036854775808 ≤ value ∧ value ≤ 9223372036854775807 then some value else none

/-- The digits of a decimal number without a superfluous zero in front. -/
def decimalDigits? (characters : List Char) : Option (List Char) :=
  match separatedDigits? (isDigitOf 10) characters with
  | some ('0' :: _ :: _) => none
  | digits => digits

/-- The number that the word of a based integer stands for. -/
def based? (base : Nat) (characters : List Char) : Option Int := do
  let digits ← separatedDigits? (isDigitOf base) characters
  inRange? (numeral base digits)

/-- A sign, if there is one, and what follows it. -/
def signed (characters : List Char) : Int × List Char :=
  match characters with
  | '+' :: rest => (1, rest)
  | '-' :: rest => (-1, rest)
  | rest => (1, rest)

/-- The integer that a word stands for. -/
def integer? : List Char → Option Int
  | '0' :: 'x' :: rest => based? 16 rest
  | '0' :: 'o' :: rest => based? 8 rest
  | '0' :: 'b' :: rest => based? 2 rest
  | characters => do
      let (sign, rest) := signed characters
      let digits ← decimalDigits? rest
      inRange? (sign * numeral 10 digits)

/-- The number behind the mark of an exponent. -/
def exponent? : List Char → Option Int
  | 'e' :: rest | 'E' :: rest =>
      (separatedDigits? (isDigitOf 10) (signed rest).2).map fun digits =>
        (signed rest).1 * numeral 10 digits
  | _ => none

/-- The number that a word without sign stands for, if it has a fraction or an exponent. -/
def decimal? (characters : List Char) : Option Decimal := do
  let isBody := fun character => isDigitOf 10 character || character = '_'
  let whole := characters.takeWhile isBody
  let wholeDigits ← decimalDigits? whole
  match characters.drop whole.length with
  | '.' :: rest =>
      let fraction := rest.takeWhile isBody
      let fractionDigits ← separatedDigits? (isDigitOf 10) fraction
      let rest := rest.drop fraction.length
      let exponent ← if rest.isEmpty then some 0 else exponent? rest
      return ⟨numeral 10 (wholeDigits ++ fractionDigits), exponent - fractionDigits.length⟩
  | rest => return ⟨numeral 10 wholeDigits, ← exponent? rest⟩

/-- Whether a word stands for a number with a fraction or an exponent, or for one of the two numbers that
are not finite. A number that is rounded to infinity is refused; one that is rounded to minus infinity
is not. -/
def isFractional (characters : List Char) : Bool :=
  let (sign, unsigned) := signed characters
  unsigned = ['i', 'n', 'f'] || unsigned = ['n', 'a', 'n'] ||
    (decimal? unsigned).any fun number => sign = -1 || !number.isInfinite

/-- The truth value or number that a word stands for. -/
def wordValue? (characters : List Char) : Option Value :=
  if characters = "true".toList then some (.bool true)
  else if characters = "false".toList then some (.bool false)
  else if isFractional characters then some .fractional
  else (integer? characters).map .int

end TaskSwitcher.Toml
