import MetaParity.Toml.Scalar

/-!
# Documents of settings

A TOML document: lines of keys with their values under headers that open tables. A header in double brackets opens one
more table of an array.
-/

namespace MetaParity.Toml

def skipComment? : List Char → Option (List Char)
  | '#' :: rest => some (rest.dropWhile isPlain)
  | text => some text

/-- Text behind a line's end: blanks, a comment, and a line break unless the text is over. -/
def lineEnd? (text : List Char) : Option (List Char) := do
  match ← skipComment? (skipBlanks text) with
  | [] => return []
  | rest => lineBreak? rest

def skipTrivia : Nat → List Char → List Char
  | 0, text => text
  | fuel + 1, text =>
    match skipBlanks text with
    | '#' :: rest => skipTrivia fuel (rest.dropWhile isPlain)
    | rest =>
      match lineBreak? rest with
      | some rest => skipTrivia fuel rest
      | none => rest

/-- How many parts a dotted key may have, and how many arrays and tables in braces may stand within each other. -/
def maxDepth : Nat := 79

/-- A key of at most so many parts: the last one, and the dotted keys before it, with the blanks around them. -/
def keyUpTo? : Nat → Reader (List String × String)
  | 0, _ => none
  | parts + 1, text => do
    let (first, rest) ← simpleKey? (skipBlanks text)
    match skipBlanks rest with
    | '.' :: rest =>
      let ((path, last), rest) ← keyUpTo? parts rest
      return ((first :: path, last), rest)
    | rest => return (([], first), rest)

def key? : Reader (List String × String) := keyUpTo? maxDepth

mutual

/-- A value within which so many arrays and tables in braces may stand in each other. -/
def value? : Nat → Nat → Reader Value
  | 0, _, _ => none
  | fuel + 1, depth, text =>
    match text, depth with
    | '[' :: _, 0 | '\x7b' :: _, 0 => none
    | '[' :: rest, depth + 1 => do
      let (elements, rest) ← elements? fuel depth (skipTrivia rest.length rest)
      return (.array .inline elements, rest)
    | '\x7b' :: rest, depth + 1 =>
      match skipBlanks rest with
      | '\x7d' :: rest => some (.table .inline [], rest)
      | rest => do
        let (entries, rest) ← pairs? fuel depth [] rest
        return (.table .inline entries, rest)
    | '"' :: _, _ | '\'' :: _, _ => (string? text).map fun (text, rest) => (.string text, rest)
    | text, _ => word? text

def elements? : Nat → Nat → Reader (List Value)
  | 0, _, _ => none
  | _, _, ']' :: rest => some ([], rest)
  | fuel + 1, depth, text => do
    let (element, rest) ← value? fuel depth text
    match skipTrivia rest.length rest with
    | ']' :: rest => return ([element], rest)
    | ',' :: rest =>
      let (elements, rest) ← elements? fuel depth (skipTrivia rest.length rest)
      return (element :: elements, rest)
    | _ => failure

def pairs? : Nat → Nat → Entries → Reader Entries
  | 0, _, _, _ => none
  | fuel + 1, depth, entries, text => do
    let ((path, key), rest) ← key? text
    match rest with
    | '=' :: rest =>
      let (value, rest) ← value? fuel depth (skipBlanks rest)
      let entries ← entries.insert? key value path
      match skipBlanks rest with
      | '\x7d' :: rest => return (entries, rest)
      | ',' :: rest => pairs? fuel depth entries rest
      | _ => failure
    | _ => failure

end

/-- What has been read of a document: its entries, and the header whose table is being filled. -/
structure Reading where
  header : List String := []
  entries : Entries := []

/-- Reads one line that is not blank: a header, or a key with its value. -/
def statement? (reading : Reading) (text : List Char) : Option (Reading × List Char) := do
  match text with
  | '[' :: '[' :: rest =>
    let ((path, last), rest) ← key? rest
    match rest with
    | ']' :: ']' :: rest =>
      let header := path ++ [last]
      return ({ header, entries := ← reading.entries.openElement? header }, ← lineEnd? rest)
    | _ => failure
  | '[' :: rest =>
    let ((path, last), rest) ← key? rest
    match rest with
    | ']' :: rest =>
      let header := path ++ [last]
      return ({ header, entries := ← reading.entries.openTable? header }, ← lineEnd? rest)
    | _ => failure
  | text =>
    let ((path, key), rest) ← key? text
    match rest with
    | '=' :: rest =>
      let (value, rest) ← value? rest.length maxDepth (skipBlanks rest)
      let entries ← Entries.within? (Entries.insert? key value path) reading.header reading.entries
      return ({ reading with entries }, ← lineEnd? rest)
    | _ => failure

def statements? : Nat → Reading → List Char → Option Reading
  | 0, _, _ => none
  | fuel + 1, reading, text =>
    match skipTrivia text.length text with
    | [] => some reading
    | text => do
      let (reading, rest) ← statement? reading text
      statements? fuel reading rest

/-- The entries of a document. A mark of the byte order at its front is passed over. -/
def parse? (text : String) : Option Entries :=
  let text := match text.toList with
    | '\ufeff' :: rest => rest
    | text => text
  (statements? (text.length + 1) {} text).map (·.entries)

end MetaParity.Toml
