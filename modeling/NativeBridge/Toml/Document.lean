import NativeBridge.Toml.Scalar

/-!
# Reading TOML documents

A document is a list of lines: blank ones, comments, headers of tables, headers of arrays of tables,
and definitions. Each line changes the table of the whole document; a line that defines something
twice makes the document invalid.
-/

namespace NativeBridge.Toml

/-! ## Line ends -/

def readBreak : List Char → Option (List Char)
  | '\n' :: rest => some rest
  | '\x0d' :: '\n' :: rest => some rest
  | _ => none

def readLineBreak : List Char → Option (List Char)
  | [] => some []
  | text => readBreak text

def readLineEnd (text : List Char) : Option (List Char) :=
  match skipSpace text with
  | '#' :: rest => readLineBreak (rest.dropWhile isTextChar)
  | rest => readLineBreak rest

def skipBetween : Bool → List Char → Option (List Char)
  | _, '\n' :: rest => skipBetween false rest
  | _, '\x0d' :: '\n' :: rest => skipBetween false rest
  | true, c :: rest => if isTextChar c then skipBetween true rest else none
  | false, c :: rest =>
      if isSpace c then skipBetween false rest
      else if c = '#' then skipBetween true rest
      else some (c :: rest)
  | inComment, [] => if inComment then none else some []

/-! ## Keys -/

def isBareKeyChar (c : Char) : Bool :=
  ('a' ≤ c && c ≤ 'z') || ('A' ≤ c && c ≤ 'Z') || isDigit c || c == '-' || c == '_'

def readKeyPart (text : List Char) : Option (String × List Char) :=
  match text with
  | '"' :: rest => (readBasic (rest.length + 1) rest).map fun (part, rest) => (.ofList part, rest)
  | '\'' :: rest => (readLiteral rest).map fun (part, rest) => (.ofList part, rest)
  | text =>
      match text.takeWhile isBareKeyChar with
      | [] => none
      | part => some (.ofList part, text.dropWhile isBareKeyChar)

def maxLevels : Nat := 79

def readKey : Nat → List Char → Option (List String × List Char)
  | 0, _ => none
  | parts + 1, text => do
      let (part, rest) ← readKeyPart (skipSpace text)
      match skipSpace rest with
      | '.' :: rest =>
          let (further, rest) ← readKey parts rest
          some (part :: further, rest)
      | rest => some ([part], rest)

def splitKey (key : List String) : List String × String := (key.dropLast, key.getLastD "")

/-! ## Values -/

mutual

def readValue : Nat → Nat → List Char → Option (Value × List Char)
  | 0, _, _ => none
  | steps + 1, levels, text =>
      match text with
      | '"' :: _ => (readString text).map fun (s, rest) => (.text (.ofList s), rest)
      | '\'' :: _ => (readString text).map fun (s, rest) => (.text (.ofList s), rest)
      | 't' :: 'r' :: 'u' :: 'e' :: rest => some (.flag true, rest)
      | 'f' :: 'a' :: 'l' :: 's' :: 'e' :: rest => some (.flag false, rest)
      | '[' :: rest =>
          match levels with
          | 0 => none
          | levels + 1 => (readItems steps levels rest).map fun rest => (.array, rest)
      | '\x7b' :: rest =>
          match levels with
          | 0 => none
          | levels + 1 =>
              match skipSpace rest with
              | '\x7d' :: rest => some (.inlineTable, rest)
              | rest => (readPairs steps levels [] rest).map fun rest => (.inlineTable, rest)
      | text => readNumber text

def readItems : Nat → Nat → List Char → Option (List Char)
  | 0, _, _ => none
  | steps + 1, levels, text => do
      match ← skipBetween false text with
      | ']' :: rest => some rest
      | text =>
          let (_, rest) ← readValue steps levels text
          match ← skipBetween false rest with
          | ',' :: rest => readItems steps levels rest
          | ']' :: rest => some rest
          | _ => none

def readPairs : Nat → Nat → Entries → List Char → Option (List Char)
  | 0, _, _, _ => none
  | steps + 1, levels, entries, text => do
      let (key, rest) ← readKey maxLevels text
      let rest ← readMark '=' rest
      let (value, rest) ← readValue steps levels (skipSpace rest)
      let (path, key) := splitKey key
      let entries ← entries.define path key value
      match skipSpace rest with
      | ',' :: rest => readPairs steps levels entries rest
      | '\x7d' :: rest => some rest
      | _ => none

end

/-! ## Documents -/

structure Reading where
  entries : Entries := []
  opened : List String := []

def readHeader (isArray : Bool) (reading : Reading) (text : List Char) :
    Option (Reading × List Char) := do
  let (key, rest) ← readKey maxLevels text
  let rest ← readMark ']' rest
  let rest ← if isArray then readMark ']' rest else some rest
  let rest ← readLineEnd rest
  let (path, last) := splitKey key
  let entries ← if isArray then reading.entries.openArray path last
    else reading.entries.openTable path last
  some ({ entries, opened := key }, rest)

def readDefinition (reading : Reading) (text : List Char) : Option (Reading × List Char) := do
  let (key, rest) ← readKey maxLevels text
  let rest ← readMark '=' rest
  let text := skipSpace rest
  let (value, rest) ← readValue (2 * text.length + 2) maxLevels text
  let rest ← readLineEnd rest
  let (path, last) := splitKey key
  let entries ← reading.entries.defineIn reading.opened path last value
  some ({ reading with entries }, rest)

def readDocumentLines : Nat → Reading → List Char → Option Entries
  | 0, _, _ => none
  | steps + 1, reading, text =>
      match skipSpace text with
      | [] => some reading.entries
      | '\n' :: rest => readDocumentLines steps reading rest
      | '\x0d' :: '\n' :: rest => readDocumentLines steps reading rest
      | '#' :: rest => do
          let rest ← readLineBreak (rest.dropWhile isTextChar)
          readDocumentLines steps reading rest
      | '[' :: '[' :: rest => do
          let (reading, rest) ← readHeader true reading rest
          readDocumentLines steps reading rest
      | '[' :: rest => do
          let (reading, rest) ← readHeader false reading rest
          readDocumentLines steps reading rest
      | text => do
          let (reading, rest) ← readDefinition reading text
          readDocumentLines steps reading rest

def parse (text : String) : Option Entries :=
  let chars := match text.toList with
    | '\uFEFF' :: rest => rest
    | chars => chars
  readDocumentLines (chars.length + 1) {} chars

end NativeBridge.Toml
