/-!
# Reading single words of a document

Readers of strings, keys and numbers. Each takes the characters that are left and returns what it has
read together with the rest.
-/

namespace TaskSwitcher.Toml

/-- Blanks within a line. -/
def isSpace (character : Char) : Bool :=
  character = ' ' || character = '\t'

/-- The rest after the blanks within a line. -/
def skipSpaces (characters : List Char) : List Char :=
  characters.dropWhile isSpace

/-- Characters that may stand in comments and literal strings: the tabulator and everything that is not
a control character. -/
def isPlain (character : Char) : Bool :=
  character = '\t' || (0x20 ≤ character.toNat && character.toNat ≠ 0x7F)

/-- The rest of a text that begins with the end of a line, after that end. -/
def newline? : List Char → Option (List Char)
  | '\n' :: rest => some rest
  | '\r' :: '\n' :: rest => some rest
  | _ => none

/-- The rest after a comment, if one stands here. The end of the line remains. -/
def skipComment : List Char → List Char
  | '#' :: rest => rest.dropWhile isPlain
  | characters => characters

/-- The value of a hexadecimal digit. -/
def hexValue? (character : Char) : Option Nat :=
  if '0' ≤ character ∧ character ≤ '9' then some (character.toNat - '0'.toNat)
  else if 'a' ≤ character ∧ character ≤ 'f' then some (character.toNat - 'a'.toNat + 10)
  else if 'A' ≤ character ∧ character ≤ 'F' then some (character.toNat - 'A'.toNat + 10)
  else none

/-- The character with the code point that exactly `count` hexadecimal digits give. -/
def codePoint (count : Nat) (characters : List Char) : Option (Char × List Char) := do
  let digits := characters.take count
  if digits.length ≠ count then none
  let values ← digits.mapM hexValue?
  let point := values.foldl (fun sum digit => 16 * sum + digit) 0
  if point.isValidChar then some (Char.ofNat point, characters.drop count) else none

/-- The character that an escape stands for, read after the backslash. -/
def escape : List Char → Option (Char × List Char)
  | 'b' :: rest => some ('\x08', rest)
  | 't' :: rest => some ('\t', rest)
  | 'n' :: rest => some ('\n', rest)
  | 'f' :: rest => some ('\x0c', rest)
  | 'r' :: rest => some ('\r', rest)
  | '"' :: rest => some ('"', rest)
  | '\\' :: rest => some ('\\', rest)
  | 'u' :: rest => codePoint 4 rest
  | 'U' :: rest => codePoint 8 rest
  | _ => none

/-- The content of a basic string, read after its opening mark. The first argument bounds the number of
characters of the content. -/
def basicContent : Nat → List Char → Option (List Char × List Char)
  | 0, _ => none
  | _ + 1, [] => none
  | _ + 1, '"' :: rest => some ([], rest)
  | bound + 1, '\\' :: rest => do
      let (character, rest) ← escape rest
      let (content, rest) ← basicContent bound rest
      return (character :: content, rest)
  | bound + 1, character :: rest =>
      if isPlain character then do
        let (content, rest) ← basicContent bound rest
        return (character :: content, rest)
      else none

/-- The content of a literal string, read after its opening mark. -/
def literalContent (characters : List Char) : Option (List Char × List Char) :=
  let content := characters.takeWhile fun character => isPlain character && character ≠ '\x27'
  match characters.drop content.length with
  | '\x27' :: rest => some (content, rest)
  | _ => none

/-- The rest after all blanks and ends of lines. The first argument bounds their number. -/
def skipBlankLines : Nat → List Char → List Char
  | 0, characters => characters
  | bound + 1, characters =>
      match characters with
      | ' ' :: rest | '\t' :: rest | '\n' :: rest => skipBlankLines bound rest
      | '\r' :: '\n' :: rest => skipBlankLines bound rest
      | characters => characters

/-- The rest after a backslash at the end of a line and the blanks that follow it. -/
def lineContinuation? (characters : List Char) : Option (List Char) :=
  (newline? (skipSpaces characters)).map fun rest => skipBlankLines rest.length rest

/-- The end of a multi-line string that closes with three of `mark`: up to two more marks in front of
them belong to the content. -/
def closing? (mark : Char) (characters : List Char) : Option (List Char × List Char) :=
  let marks := (characters.take 5).takeWhile (· = mark)
  if 3 ≤ marks.length then some (marks.drop 3, characters.drop marks.length) else none

/-- The content of a multi-line basic string, read after its opening marks. -/
def multilineBasicContent : Nat → List Char → Option (List Char × List Char)
  | 0, _ => none
  | bound + 1, characters =>
      match closing? '"' characters with
      | some closed => some closed
      | none =>
          match characters with
          | [] => none
          | '\\' :: rest =>
              match lineContinuation? rest with
              | some rest => multilineBasicContent bound rest
              | none => do
                  let (character, rest) ← escape rest
                  let (content, rest) ← multilineBasicContent bound rest
                  return (character :: content, rest)
          | character :: rest =>
              match newline? characters with
              | some rest => do
                  let (content, rest) ← multilineBasicContent bound rest
                  return ('\n' :: content, rest)
              | none =>
                  if isPlain character then do
                    let (content, rest) ← multilineBasicContent bound rest
                    return (character :: content, rest)
                  else none

/-- The content of a multi-line literal string, read after its opening marks. -/
def multilineLiteralContent : Nat → List Char → Option (List Char × List Char)
  | 0, _ => none
  | bound + 1, characters =>
      match closing? '\x27' characters with
      | some closed => some closed
      | none =>
          match characters with
          | [] => none
          | character :: rest =>
              match newline? characters with
              | some rest => do
                  let (content, rest) ← multilineLiteralContent bound rest
                  return ('\n' :: content, rest)
              | none =>
                  if isPlain character then do
                    let (content, rest) ← multilineLiteralContent bound rest
                    return (character :: content, rest)
                  else none

/-- The text after the end of a line that directly follows the opening marks of a string. -/
def withoutFirstNewline (characters : List Char) : List Char :=
  (newline? characters).getD characters

/-- A string of any of the four sorts. -/
def string : List Char → Option (String × List Char)
  | '"' :: '"' :: '"' :: rest =>
      let rest := withoutFirstNewline rest
      (multilineBasicContent (rest.length + 1) rest).map fun (content, rest) =>
        (String.ofList content, rest)
  | '\x27' :: '\x27' :: '\x27' :: rest =>
      let rest := withoutFirstNewline rest
      (multilineLiteralContent (rest.length + 1) rest).map fun (content, rest) =>
        (String.ofList content, rest)
  | '"' :: rest =>
      (basicContent (rest.length + 1) rest).map fun (content, rest) => (String.ofList content, rest)
  | '\x27' :: rest =>
      (literalContent rest).map fun (content, rest) => (String.ofList content, rest)
  | _ => none

/-- Characters of keys without marks. -/
def isBareKey (character : Char) : Bool :=
  character.isAlphanum || character = '_' || character = '-'

/-- One part of a key. -/
def simpleKey (characters : List Char) : Option (String × List Char) :=
  match characters with
  | '"' :: rest =>
      (basicContent (rest.length + 1) rest).map fun (content, rest) => (String.ofList content, rest)
  | '\x27' :: rest =>
      (literalContent rest).map fun (content, rest) => (String.ofList content, rest)
  | characters =>
      let name := characters.takeWhile isBareKey
      if name.isEmpty then none else some (String.ofList name, characters.drop name.length)

/-- The greatest number of parts of a key, and of values that lie within one another. -/
def depthLimit : Nat := 79

/-- A key of one or several parts: the parts in front and the last one. Blanks around it are skipped.
The first argument limits the number of parts. -/
def dottedKey : Nat → List Char → Option ((List String × String) × List Char)
  | 0, _ => none
  | bound + 1, characters => do
      let (name, rest) ← simpleKey (skipSpaces characters)
      match skipSpaces rest with
      | '.' :: rest => do
          let ((path, last), rest) ← dottedKey bound rest
          return ((name :: path, last), rest)
      | rest => return (([], name), rest)

end TaskSwitcher.Toml
