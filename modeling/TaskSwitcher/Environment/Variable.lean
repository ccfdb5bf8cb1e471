import TaskSwitcher.Environment.Number
import TaskSwitcher.Text.Blank
import TaskSwitcher.Toml.Lexical
import TaskSwitcher.Value

/-!
# Settings in environment variables

The name of a variable says which field it sets: two underscores separate the parts of the path to the
field. Its value is read as a truth value, a number, an array in brackets, a table in braces or a string
in quotation marks; everything else is a plain text.
-/

namespace TaskSwitcher.Environment

/-- ASCII blanks. -/
def isSpace (character : Char) : Bool :=
  character = ' ' || character = '\t' || character = '\n' || character = '\x0c' || character = '\r'

/-- The rest after blanks. -/
def skipSpaces (characters : List Char) : List Char :=
  characters.dropWhile isSpace

/-- Characters that separate the parts of arrays and tables. -/
def isSeparator (character : Char) : Bool :=
  character = ',' || character = '\x7b' || character = '\x7d' || character = '[' || character = ']'

/-- Characters of the names in tables. -/
def isNameCharacter (character : Char) : Bool :=
  character.isAlphanum || character = '_' || character = '-'

/-- The value of a text without any marks. -/
def plain (characters : List Char) : Value :=
  if characters.contains '.' && isPointed characters then .fractional
  else
    match integer? characters with
    | some number => .int number
    | none => .text (String.ofList characters)

/-- The rest of a text that begins with the given characters. -/
def after? : List Char → List Char → Option (List Char)
  | [], rest => some rest
  | _ :: _, [] => none
  | expected :: others, character :: rest =>
      if character = expected then after? others rest else none

/-- The characters in front that take `size` bytes of UTF-8 together. There are none if the last byte lies
within a character or behind the end. -/
def takeBytes? (size : Nat) : List Char → Option (List Char)
  | [] => if size = 0 then some [] else none
  | character :: rest =>
      if size = 0 then some []
      else if character.utf8Size ≤ size then
        (takeBytes? (size - character.utf8Size) rest).map (character :: ·)
      else none

/-- A string in quotation marks, read after the opening one. What stands in front of the first escape is
cut down to as many bytes as it has characters, so it is kept whole only if it is ASCII; a string in which
the cut would divide a character is malformed. -/
def quotedContent (characters : List Char) : Option (String × List Char) := do
  let (content, rest) ← Toml.basicContent (characters.length + 1) characters
  let lead := characters.takeWhile fun character => character ≠ '\\' && character ≠ '"'
  let kept ← match characters.drop lead.length with
    | '\\' :: _ => takeBytes? lead.length lead
    | _ => some lead
  return (String.ofList (kept ++ content.drop lead.length), rest)

/-- The name of a field of a table. -/
def fieldName (characters : List Char) : Option (String × List Char) :=
  match characters with
  | '"' :: rest => quotedContent rest
  | characters =>
      let name := characters.takeWhile isNameCharacter
      if name.isEmpty then none else some (String.ofList name, characters.drop name.length)

mutual

/-- Reads a value with the blanks around it. The first argument bounds the number of recursive calls;
twice the number of characters is enough. -/
def value : Nat → List Char → Option (Value × List Char)
  | 0, _ => none
  | bound + 1, characters =>
      let characters := skipSpaces characters
      let read :=
        match after? "true".toList characters, after? "false".toList characters with
        | some rest, _ => some (Value.bool true, rest)
        | none, some rest => some (Value.bool false, rest)
        | none, none =>
            match characters with
            | '[' :: rest => (arrayItems bound rest).map fun (items, rest) => (.list items, rest)
            | '\x7b' :: rest =>
                (tableFields bound [] rest).map fun (fields, rest) => (.record fields, rest)
            | '"' :: rest =>
                (quotedContent rest).map fun (content, rest) => (.text content, rest)
            | '\x27' :: rest =>
                match rest with
                | character :: '\x27' :: rest => some (.text (String.ofList [character]), rest)
                | _ => none
            | characters =>
                let run := characters.takeWhile fun character => !isSeparator character
                some (plain (Text.trim run), characters.drop run.length)
      read.map fun (value, rest) => (value, skipSpaces rest)

/-- Reads the items of an array up to its closing bracket. A comma may follow the last item. -/
def arrayItems : Nat → List Char → Option (List Value × List Char)
  | 0, _ => none
  | bound + 1, characters =>
      match characters with
      | ']' :: rest => some ([], rest)
      | characters => do
          let (first, rest) ← value bound characters
          match rest with
          | ',' :: rest =>
              let (others, rest) ← arrayItems bound rest
              return (first :: others, rest)
          | ']' :: rest => return ([first], rest)
          | _ => none

/-- Reads the fields of a table up to its closing brace and adds them to those read so far. -/
def tableFields : Nat → Fields → List Char → Option (Fields × List Char)
  | 0, _, _ => none
  | bound + 1, fields, characters =>
      match characters with
      | '\x7d' :: rest => some (fields, rest)
      | characters => do
          let (name, rest) ← fieldName (skipSpaces characters)
          match skipSpaces rest with
          | '=' :: rest =>
              let (given, rest) ← value bound rest
              let fields := fields.set name given
              match rest with
              | ',' :: rest => tableFields bound fields rest
              | '\x7d' :: rest => return (fields, rest)
              | _ => none
          | _ => none

end

/-- The value that the text of a variable stands for. A text that is none of the structured forms stands
for itself. -/
def read (text : String) : Value :=
  let characters := text.toList
  match value (2 * characters.length + 2) characters with
  | some (value, []) => value
  | _ => .text text

/-- The value within records that have one field each, along a path. -/
def nest (path : List String) (value : Value) : Value :=
  path.foldr (fun name inner => .record [(name, inner)]) value

/-- The letters by which the names of variables begin. -/
def nameStart : List Char := "overview_".toList

/-- A text with its ASCII capital letters made small. -/
def asciiLower (characters : List Char) : List Char :=
  characters.map Char.toLower

/-- The parts of a name between double underscores or points. -/
def nameParts (characters : List Char) : List (List Char) :=
  go [] characters
where
  /-- The parts, the first of which begins with what was read of it so far, in reverse. -/
  go (current : List Char) : List Char → List (List Char)
    | '_' :: '_' :: rest => current.reverse :: go [] rest
    | '.' :: rest => current.reverse :: go [] rest
    | character :: rest => go (character :: current) rest
    | [] => [current.reverse]

/-- The path of the field that a variable sets, if it sets any. Capital letters in names do not matter. -/
def path? (name : String) : Option (List String) := do
  let rest ← after? nameStart (asciiLower (Text.trim name.toList))
  let parts := nameParts (Text.trim rest)
  if parts.any (·.isEmpty) then none else some (parts.map String.ofList)

/-- The record that variables stand for. Where two of them set the same field the later one counts. -/
def record (assignments : List (String × String)) : Value :=
  assignments.foldl
    (fun below (name, text) =>
      match path? name with
      | none => below
      | some path => below.overlay (nest path (read text)))
    (.record [])

end TaskSwitcher.Environment
