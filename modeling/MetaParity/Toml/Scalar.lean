import MetaParity.Toml.Moment
import MetaParity.Toml.Number
import MetaParity.Toml.Table

/-!
# Scalars

Keys, strings, and the words that stand for values without quotes.
-/

namespace MetaParity.Toml

/-- Whether a character may stand in a comment or a string as it is: no control character but the tab. -/
def isPlain (c : Char) : Bool := c = '\t' || (0x20 ≤ c.toNat && c.toNat ≠ 0x7f)

def numbered? (count : Nat) (text : List Char) : Option (Char × List Char) := do
  let digits := text.take count
  if digits.length < count then failure
  let code ← digits.foldlM (fun number c => (hexValue? c).map (16 * number + ·)) 0
  if code.isValidChar then return (Char.ofNat code, text.drop count) else failure

def escape? : Reader Char
  | 'b' :: rest => some ('\x08', rest)
  | 't' :: rest => some ('\t', rest)
  | 'n' :: rest => some ('\n', rest)
  | 'f' :: rest => some ('\x0c', rest)
  | 'r' :: rest => some ('\r', rest)
  | '"' :: rest => some ('"', rest)
  | '\\' :: rest => some ('\\', rest)
  | 'u' :: rest => numbered? 4 rest
  | 'U' :: rest => numbered? 8 rest
  | _ => none

/-- The rest of a string on one line, up to its closing quote. Where `escapes` is set a backslash opens an escape. -/
def lineString (quote : Char) (escapes : Bool) : Nat → Reader (List Char)
  | 0, _ | _, [] => none
  | fuel + 1, c :: rest =>
    if c = quote then some ([], rest)
    else if c = '\\' ∧ escapes then do
      let (escaped, rest) ← escape? rest
      let (text, rest) ← lineString quote escapes fuel rest
      return (escaped :: text, rest)
    else if isPlain c then do
      let (text, rest) ← lineString quote escapes fuel rest
      return (c :: text, rest)
    else none

def skipLines : List Char → List Char
  | ' ' :: rest | '\t' :: rest | '\n' :: rest => skipLines rest
  | '\r' :: '\n' :: rest => skipLines rest
  | text => text

/-- The rest of a string over several lines, up to its three closing quotes; one or two more belong to the string. A
backslash at the end of a line joins it to the text that follows. -/
def linesString (quote : Char) (escapes : Bool) : Nat → Reader (List Char)
  | 0, _ | _, [] => none
  | fuel + 1, c :: rest =>
    if c = quote then
      let quotes := ((c :: rest).takeWhile (· = quote)).length
      if 3 ≤ quotes then
        let kept := min (quotes - 3) 2
        some (List.replicate kept quote, (c :: rest).drop (kept + 3))
      else do
        let (text, rest) ← linesString quote escapes fuel rest
        return (c :: text, rest)
    else if c = '\\' ∧ escapes then
      match lineBreak? (skipBlanks rest) with
      | some rest => linesString quote escapes fuel (skipLines rest)
      | none => do
        let (escaped, rest) ← escape? rest
        let (text, rest) ← linesString quote escapes fuel rest
        return (escaped :: text, rest)
    else
      match lineBreak? (c :: rest) with
      | some rest => do
        let (text, rest) ← linesString quote escapes fuel rest
        return ('\n' :: text, rest)
      | none =>
        if isPlain c then do
          let (text, rest) ← linesString quote escapes fuel rest
          return (c :: text, rest)
        else none

def dropLineBreak (text : List Char) : List Char :=
  (lineBreak? text).getD text

def lineString? : Reader String
  | '"' :: rest => (lineString '"' true (rest.length + 1) rest).map fun (text, rest) => (.ofList text, rest)
  | '\'' :: rest => (lineString '\'' false (rest.length + 1) rest).map fun (text, rest) => (.ofList text, rest)
  | _ => none

def string? : Reader String
  | '"' :: '"' :: '"' :: rest =>
    (linesString '"' true (rest.length + 1) (dropLineBreak rest)).map fun (text, rest) => (.ofList text, rest)
  | '\'' :: '\'' :: '\'' :: rest =>
    (linesString '\'' false (rest.length + 1) (dropLineBreak rest)).map fun (text, rest) => (.ofList text, rest)
  | text => lineString? text

def isBareKey (c : Char) : Bool := c.isAlphanum || c = '_' || c = '-'

def simpleKey? (text : List Char) : Option (String × List Char) :=
  let bare := text.takeWhile isBareKey
  if bare.isEmpty then lineString? text else some (.ofList bare, text.dropWhile isBareKey)

def isWord (c : Char) : Bool := isBareKey c || c = '+' || c = '.' || c = ':'

/-- A truth value, a number, a date or a time. A time may follow its date behind one space. -/
def word? : Reader Value := fun text =>
  let word := text.takeWhile isWord
  let rest := text.dropWhile isWord
  match String.ofList word, integerOf? word with
  | "true", _ => some (.boolean true, rest)
  | "false", _ => some (.boolean false, rest)
  | _, some value => some (.integer value, rest)
  | name, none =>
    if isFloat word || isMoment word then
      match rest with
      | ' ' :: more =>
        let time := more.takeWhile isWord
        if isDate word && isOffsetTime time then some (.other (name ++ " " ++ .ofList time), more.dropWhile isWord)
        else some (.other name, rest)
      | _ => some (.other name, rest)
    else none

end MetaParity.Toml
