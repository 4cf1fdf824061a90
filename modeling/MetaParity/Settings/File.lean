import MetaParity.Settings.Arguments
import MetaParity.Toml.Document

/-!
# Settings files

A settings file is a TOML document with a table for each side and each command. Every setting may be left out; a key
that names none is an error. The settings of a table may also be listed in an array, in the order in which they are
declared; what the array holds beyond them does not matter.
-/

namespace MetaParity.Settings

open Toml

structure VerifyFile where
  images : List String := []
  imagesDirectory : Option String := none
  bufferCapacity : Option Nat := none
  scenarios : List Scenario := []
  strictReset : Option Bool := none
  failFast : Option Bool := none
  format : Option ReportFormat := none
  output : Option String := none
  showPassed : Option Bool := none
deriving DecidableEq

structure PerfFile where
  library : Option String := none
  image : Option String := none
  warmup : Option Int32 := none
  iterations : Option Int32 := none
  workloads : List Workload := []
  json : Option String := none
deriving DecidableEq

structure SettingsFile where
  verbose : Option Nat := none
  logFormat : Option LogFormat := none
  color : Option ColorMode := none
  baseline : FactoryChoice := {}
  current : FactoryChoice := {}
  verify : VerifyFile := {}
  perf : PerfFile := {}
deriving DecidableEq

abbrev Decoder (α : Type) := Value → Option α

namespace Decoder

def text : Decoder String
  | .string text => some text
  | _ => none

def boolean : Decoder Bool
  | .boolean value => some value
  | _ => none

def natural (bound : Nat) : Decoder Nat
  | .integer value => if 0 ≤ value ∧ value ≤ bound then some value.toNat else none
  | _ => none

def iterations : Decoder Int32
  | .integer value => if -0x80000000 ≤ value ∧ value < 0x80000000 then some (.ofInt value) else none
  | _ => none

/-- One of a few words: the word itself, or a table with nothing but an empty entry under it. -/
def word (ofName? : String → Option α) : Decoder α
  | .string name => ofName? name
  | .table _ [(name, .table _ [])] | .table _ [(name, .array _ [])] => ofName? name
  | _ => none

def list (element : Decoder α) : Decoder (List α)
  | .array _ elements => elements.mapM element
  | _ => none

end Decoder

/-- The values of the named settings of a table, none of which must be missing from the list of names. -/
def settingsOf? (names : List String) (entries : Entries) : Option (List (Option Value)) :=
  if entries.all fun entry => names.contains entry.1 then some (names.map (entries.lookup ·)) else none

/-- The values of the named settings of a table or an array. -/
def fieldsOf? (names : List String) : Value → Option (List (Option Value))
  | .table _ entries => settingsOf? names entries
  | .array _ elements => some (names.zipIdx.map fun name => elements[name.2]?)
  | _ => none

/-- A setting among those of a table; one that is missing stays open. -/
def optional? (fields : List (Option Value)) (position : Nat) (decode : Decoder α) : Option (Option α) :=
  match fields[position]?.join with
  | none => some none
  | some value => (decode value).map some

def defaulted? (fields : List (Option Value)) (position : Nat) (missing : α) (decode : Decoder α) : Option α :=
  (optional? fields position decode).map (·.getD missing)

def FactoryChoice.decode : Decoder FactoryChoice := fun value => do
  let fields ← fieldsOf? ["library", "symbol", "abi"] value
  return {
    library := ← optional? fields 0 Decoder.text
    symbol := ← optional? fields 1 Decoder.text
    abi := ← optional? fields 2 (Decoder.word Native.FactoryAbi.ofName?) }

def VerifyFile.decode : Decoder VerifyFile := fun value => do
  let fields ← fieldsOf? ["images", "images_dir", "buffer_capacity", "scenarios", "strict_reset", "fail_fast", "format",
    "output", "show_passed"] value
  return {
    images := ← defaulted? fields 0 [] (Decoder.list Decoder.text)
    imagesDirectory := ← optional? fields 1 Decoder.text
    bufferCapacity := ← optional? fields 2 (Decoder.natural 0xffffffffffffffff)
    scenarios := ← defaulted? fields 3 [] (Decoder.list (Decoder.word Scenario.ofName?))
    strictReset := ← optional? fields 4 Decoder.boolean
    failFast := ← optional? fields 5 Decoder.boolean
    format := ← optional? fields 6 (Decoder.word ReportFormat.ofName?)
    output := ← optional? fields 7 Decoder.text
    showPassed := ← optional? fields 8 Decoder.boolean }

def PerfFile.decode : Decoder PerfFile := fun value => do
  let fields ← fieldsOf? ["library", "image", "warmup", "iterations", "scenarios", "json"] value
  return {
    library := ← optional? fields 0 Decoder.text
    image := ← optional? fields 1 Decoder.text
    warmup := ← optional? fields 2 Decoder.iterations
    iterations := ← optional? fields 3 Decoder.iterations
    workloads := ← defaulted? fields 4 [] (Decoder.list (Decoder.word Workload.ofName?))
    json := ← optional? fields 5 Decoder.text }

def SettingsFile.decode (entries : Entries) : Option SettingsFile := do
  let fields ← settingsOf? ["verbose", "log_format", "color", "baseline", "current", "verify", "perf"] entries
  return {
    verbose := ← optional? fields 0 (Decoder.natural maxVerbosity)
    logFormat := ← optional? fields 1 (Decoder.word LogFormat.ofName?)
    color := ← optional? fields 2 (Decoder.word ColorMode.ofName?)
    baseline := ← defaulted? fields 3 {} FactoryChoice.decode
    current := ← defaulted? fields 4 {} FactoryChoice.decode
    verify := ← defaulted? fields 5 {} VerifyFile.decode
    perf := ← defaulted? fields 6 {} PerfFile.decode }

def SettingsFile.parse? (text : String) : Option SettingsFile := do
  SettingsFile.decode (← Toml.parse? text)

end MetaParity.Settings
