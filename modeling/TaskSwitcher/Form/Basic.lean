import TaskSwitcher.Value

/-!
# Written forms

Every kind of settings, scenario or event has one written form as a tree of values, and a reader for it.
Readers are strict about what they read: a missing part, a value of another kind or a number out of range
makes the whole unreadable. They are lenient about what they do not know: further fields of a record are
ignored. A record with a fixed list of fields may also be written as the list of their values, in order;
what becomes of a longer list depends on where the form was written.
-/

namespace TaskSwitcher.Form

/-- Reads a value of one kind. -/
abbrev Reader (α : Type) := Value → Option α

/-- Reads a truth value. -/
def readBool : Reader Bool
  | .bool value => some value
  | _ => none

/-- Reads a text. -/
def readText : Reader String
  | .text value => some value
  | _ => none

/-- Reads a text of exactly one character. -/
def readChar : Reader Char
  | .text value =>
      match value.toList with
      | [character] => some character
      | _ => none
  | _ => none

/-- Reads a number of 64 bits. -/
def readWord64 : Reader UInt64
  | .int value =>
      if 0 ≤ value ∧ value < 18446744073709551616 then some (UInt64.ofNat value.toNat) else none
  | _ => none

/-- Reads a number of 32 bits. -/
def readWord32 : Reader UInt32
  | .int value => if 0 ≤ value ∧ value < 4294967296 then some (UInt32.ofNat value.toNat) else none
  | _ => none

/-- Reads a signed number of 32 bits. -/
def readSigned32 : Reader Int32
  | .int value =>
      if -2147483648 ≤ value ∧ value ≤ 2147483647 then some (Int32.ofInt value) else none
  | _ => none

/-- Reads a value that may be absent, which is written as null. -/
def readNullable {α : Type} (read : Reader α) : Reader (Option α)
  | .null => some none
  | value => (read value).map some

/-- Reads each item of a list. -/
def readItems {α : Type} (read : Reader α) : List Value → Option (List α)
  | [] => some []
  | value :: rest =>
      match read value, readItems read rest with
      | some first, some others => some (first :: others)
      | _, _ => none

/-- Reads a list. -/
def readList {α : Type} (read : Reader α) : Reader (List α)
  | .list values => readItems read values
  | _ => none

/-- What is done about the values that a list has behind those of all fields. Messages refuse them;
documents leave them unread. -/
inductive Surplus where
  | refused
  | ignored
deriving DecidableEq

/-- The fields of a record, which may also be written as the list of their values. -/
def fields (surplus : Surplus) (names : List String) : Value → Option Fields
  | .record given => some given
  | .list values =>
      if surplus = .refused ∧ names.length < values.length then none else some (names.zip values)
  | _ => none

/-- Reads a field that has to be there. -/
def required {α : Type} (given : Fields) (name : String) (read : Reader α) : Option α :=
  (given.lookup name).bind read

/-- Reads a field that may be missing. -/
def fieldOr {α : Type} (given : Fields) (name : String) (absent : α) (read : Reader α) : Option α :=
  match given.lookup name with
  | none => some absent
  | some value => read value

/-- The kind of a record and the record without it. Written as a list, the kind comes first. -/
def tagged : Value → Option (String × Value)
  | .record given =>
      match given.lookup "kind" with
      | some (.text kind) => some (kind, .record (given.filter fun field => field.1 ≠ "kind"))
      | _ => none
  | .list (.text kind :: values) => some (kind, .list values)
  | _ => none

/-- A choice: either a name alone, or a record with the name as its only field. -/
def choice : Value → Option (String × Option Value)
  | .text name => some (name, none)
  | .record [(name, value)] => some (name, some value)
  | _ => none

/-- Whether a choice comes with nothing, or with null. -/
def isBare : Option Value → Bool
  | none | some .null => true
  | _ => false

/-- The form of a 64-bit number. -/
def ofWord64 (value : UInt64) : Value :=
  .int value.toNat

/-- The form of a 32-bit number. -/
def ofWord32 (value : UInt32) : Value :=
  .int value.toNat

/-- The form of a signed 32-bit number. -/
def ofSigned32 (value : Int32) : Value :=
  .int value.toInt

/-- The form of a value that may be absent. -/
def ofNullable {α : Type} (write : α → Value) : Option α → Value
  | none => .null
  | some value => write value

end TaskSwitcher.Form
