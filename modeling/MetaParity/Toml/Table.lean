/-!
# Tables of settings

The values that a TOML document holds, and the rules by which headers and keys build up its tables: no key is given
twice, and a table that was opened by a header, or written in braces, is not opened again.
-/

namespace MetaParity.Toml

/-- How a table or an array came to be. -/
inductive Origin where
  | header
  /-- A header named a table inside it. -/
  | implied
  /-- A dotted key led through it. -/
  | dotted
  | inline
deriving DecidableEq, Inhabited

/-- A value of a document; the entries of a table keep their order. -/
inductive Value where
  | string (text : String)
  | integer (value : Int)
  | boolean (value : Bool)
  /-- A float, a date or a time, as it is written. No setting takes one. -/
  | other (word : String)
  | array (origin : Origin) (elements : List Value)
  | table (origin : Origin) (entries : List (String × Value))
deriving Inhabited

abbrev Entries := List (String × Value)

namespace Entries

def replace (key : String) (value : Value) (entries : Entries) : Entries :=
  entries.map fun entry => if entry.1 = key then (key, value) else entry

def add? (key : String) (value : Value) (entries : Entries) : Option Entries :=
  match entries.lookup key with
  | none => some (entries ++ [(key, value)])
  | some _ => none

/-- Adds a key behind the dotted keys that lead to it. Tables on the way come into being as needed; one that stands
there already must not have been closed by a header or braces. Of tables under one header in double brackets, the way
leads through the last. -/
def insert? (key : String) (value : Value) : List String → Entries → Option Entries
  | [], entries => entries.add? key value
  | first :: path, entries => do
    match entries.lookup first with
    | none => return entries ++ [(first, .table .dotted (← insert? key value path []))]
    | some (.table .dotted inner) => return entries.replace first (.table .dotted (← insert? key value path inner))
    | some (.table .implied inner) =>
      if path.isEmpty then none
      else return entries.replace first (.table .implied (← insert? key value path inner))
    | some (.array .header elements) =>
      match elements.getLast? with
      | some (.table origin inner) =>
        if path.isEmpty then none
        else
          let last := Value.table origin (← insert? key value path inner)
          return entries.replace first (.array .header (elements.dropLast ++ [last]))
      | _ => none
    | some _ => none

/-- Changes the table that a header's last key stands in; tables on the way come into being as needed. -/
def atParent? (change : String → Entries → Option Entries) : List String → Entries → Option Entries
  | [], _ => none
  | [key], entries => change key entries
  | first :: path, entries =>
    match entries.lookup first with
    | none => (atParent? change path []).map fun inner => entries ++ [(first, .table .implied inner)]
    | some (.table .inline _) => none
    | some (.table origin inner) =>
      (atParent? change path inner).map fun inner => entries.replace first (.table origin inner)
    | some (.array .header elements) =>
      match elements.getLast? with
      | some (.table origin inner) =>
        (atParent? change path inner).map fun inner =>
          entries.replace first (.array .header (elements.dropLast ++ [.table origin inner]))
      | _ => none
    | some _ => none

/-- Opens the table of a header. It must be new, or so far only implied. -/
def openTable? : List String → Entries → Option Entries :=
  atParent? fun key entries =>
    match entries.lookup key with
    | none => some (entries ++ [(key, .table .header [])])
    | some (.table .implied inner) => some (entries.replace key (.table .header inner))
    | some _ => none

/-- Opens another table under a header in double brackets. Nothing else must stand there. -/
def openElement? : List String → Entries → Option Entries :=
  atParent? fun key entries =>
    match entries.lookup key with
    | none => some (entries ++ [(key, .array .header [.table .header []])])
    | some (.array .header elements) => some (entries.replace key (.array .header (elements ++ [.table .header []])))
    | some _ => none

def within? (change : Entries → Option Entries) : List String → Entries → Option Entries
  | [], entries => change entries
  | first :: path, entries =>
    match entries.lookup first with
    | some (.table origin inner) =>
      (within? change path inner).map fun inner => entries.replace first (.table origin inner)
    | some (.array origin elements) =>
      match elements.getLast? with
      | some (.table inside inner) =>
        (within? change path inner).map fun inner =>
          entries.replace first (.array origin (elements.dropLast ++ [.table inside inner]))
      | _ => none
    | _ => none

end Entries

end MetaParity.Toml
