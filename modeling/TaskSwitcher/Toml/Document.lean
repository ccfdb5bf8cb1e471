import TaskSwitcher.Toml.Moment
import TaskSwitcher.Toml.Reserved
import TaskSwitcher.Toml.Tree

/-!
# Reading a document

The accepted language is TOML 1.0 with a limit on how deep values may lie within one another and on the
length of keys. A document is read line by line: headers open tables, entries add values to the table that
was opened last. Reserved names are resolved in the tree that results.
-/

namespace TaskSwitcher.Toml

/-- The rest after blanks, comments and ends of lines, where those do not matter. The first argument
bounds their number. -/
def skipLayout : Nat → List Char → List Char
  | 0, characters => characters
  | bound + 1, characters =>
      match skipSpaces characters with
      | '#' :: rest => skipLayout bound (rest.dropWhile isPlain)
      | rest =>
          match newline? rest with
          | some rest => skipLayout bound rest
          | none => rest

mutual

/-- Reads a value. The first argument bounds the number of recursive calls; twice the number of
characters is enough. The second one limits how many values may lie within one another. -/
def value : Nat → Nat → List Char → Option (Value × List Char)
  | 0, _, _ => none
  | bound + 1, depth, characters =>
      match characters, depth with
      | '"' :: _, _ | '\x27' :: _, _ =>
          (string characters).map fun (content, rest) => (.text content, rest)
      | '[' :: _, 0 | '\x7b' :: _, 0 => none
      | '[' :: rest, depth + 1 =>
          (arrayItems bound depth rest).map fun (items, rest) => (.list items, rest)
      | '\x7b' :: rest, depth + 1 =>
          match skipSpaces rest with
          | '\x7d' :: rest => some (.record [], rest)
          | rest =>
              (inlineEntries bound depth [] rest).map fun (entries, rest) =>
                (.record (Entries.values entries), rest)
      | characters, _ =>
          match afterMoment? characters with
          | some rest => some (moment, rest)
          | none =>
              let word := characters.takeWhile isWordCharacter
              (wordValue? word).map fun value => (value, characters.drop word.length)

/-- Reads the items of an array up to its closing bracket. A comma may follow the last item. -/
def arrayItems : Nat → Nat → List Char → Option (List Value × List Char)
  | 0, _, _ => none
  | bound + 1, depth, characters =>
      match skipLayout characters.length characters with
      | ']' :: rest => some ([], rest)
      | characters => do
          let (first, rest) ← value bound depth characters
          match skipLayout rest.length rest with
          | ']' :: rest => return ([first], rest)
          | ',' :: rest =>
              let (others, rest) ← arrayItems bound depth rest
              return (first :: others, rest)
          | _ => none

/-- Reads the entries of an inline table up to its closing brace and adds them to those read so far. -/
def inlineEntries : Nat → Nat → Entries → List Char → Option (Entries × List Char)
  | 0, _, _, _ => none
  | bound + 1, depth, entries, characters => do
      let ((path, name), rest) ← dottedKey depthLimit characters
      match rest with
      | '=' :: rest =>
          let (given, rest) ← value bound depth (skipSpaces rest)
          let entries ← entries.addValue path name given
          match skipSpaces rest with
          | '\x7d' :: rest => return (entries, rest)
          | ',' :: rest => inlineEntries bound depth entries rest
          | _ => none
      | _ => none

end

/-- The document read so far: the path of the table that was opened last, and the whole tree. -/
structure Document where
  header : List String := []
  entries : Entries := []

/-- The document after one line, read from its first character that is not blank; the rest of the line
remains. -/
def Document.line (document : Document) (characters : List Char) : Option (Document × List Char) :=
  match characters with
  | '[' :: '[' :: rest => do
      let ((path, name), rest) ← dottedKey depthLimit rest
      match rest with
      | ']' :: ']' :: rest =>
          let entries ← document.entries.addRow path name
          return ({ header := path ++ [name], entries }, rest)
      | _ => none
  | '[' :: rest => do
      let ((path, name), rest) ← dottedKey depthLimit rest
      match rest with
      | ']' :: rest =>
          let entries ← document.entries.openTable path name
          return ({ header := path ++ [name], entries }, rest)
      | _ => none
  | characters => do
      let ((path, name), rest) ← dottedKey depthLimit characters
      match rest with
      | '=' :: rest =>
          let rest := skipSpaces rest
          let (given, rest) ← value (2 * rest.length + 2) depthLimit rest
          let entries ← document.entries.addWithin document.header path name given
          return ({ document with entries }, rest)
      | _ => none

/-- Reads the lines of a document. The first argument bounds their number. -/
def Document.lines : Nat → Document → List Char → Option Document
  | 0, _, _ => none
  | bound + 1, document, characters =>
      match skipLayout characters.length characters with
      | [] => some document
      | characters => do
          let (document, rest) ← document.line characters
          match skipComment (skipSpaces rest) with
          | [] => some document
          | rest => Document.lines bound document (← newline? rest)

/-- A text without the mark of the byte order that some editors put in front of it. -/
def withoutMark : List Char → List Char
  | '\uFEFF' :: rest => rest
  | characters => characters

/-- The record that a document stands for, unless it is malformed. -/
def read? (text : String) : Option Value := do
  let characters := withoutMark text.toList
  let document ← Document.lines (characters.length + 1) {} characters
  return .record (← documentMeaning? (Entries.values document.entries))

end TaskSwitcher.Toml
