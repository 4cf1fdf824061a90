import MetaParity.Text.Basic
import MetaParity.Text.Lowercase
import MetaParity.Text.Quoted

/-!
# Scenarios

The twelve correctness scenarios and their names. A name is read leniently: blanks around it, letter case, and the
choice between a hyphen and an underscore do not matter.
-/

namespace MetaParity

/-- A correctness scenario: one way to list what a session holds. -/
inductive Scenario where
  | typeDefs
  | typeRefs
  | typeSpecs
  | moduleRefs
  | typeHierarchy
  | members
  | resetEnum
  | signatures
  | sigFromToken
  | userStrings
  | propertiesEvents
  | signatureBlobs
deriving DecidableEq, Inhabited

structure UnknownScenario where
  text : String
deriving DecidableEq

def UnknownScenario.message (unknown : UnknownScenario) : String :=
  "unknown scenario: " ++ Text.quoted unknown.text

namespace Scenario

def all : List Scenario :=
  [typeDefs, typeRefs, typeSpecs, moduleRefs, typeHierarchy, members, resetEnum, signatures, sigFromToken,
   userStrings, propertiesEvents, signatureBlobs]

def name : Scenario → String
  | typeDefs => "type_defs"
  | typeRefs => "type_refs"
  | typeSpecs => "type_specs"
  | moduleRefs => "module_refs"
  | typeHierarchy => "type_hierarchy"
  | members => "members"
  | resetEnum => "reset_enum"
  | signatures => "signatures"
  | sigFromToken => "sig_from_token"
  | userStrings => "user_strings"
  | propertiesEvents => "properties_events"
  | signatureBlobs => "signature_blobs"

def ofName? (name : String) : Option Scenario :=
  all.find? (·.name == name)

/-- A spelling brought to the form of the names: no blanks around it, lower case, underscores for hyphens. -/
def normalized (spelling : String) : String :=
  .ofList ((Text.lowerCase (Text.trimBlanks spelling.toList)).map fun c => if c = '-' then '_' else c)

def parse (spelling : String) : Except UnknownScenario Scenario :=
  match ofName? (normalized spelling) with
  | some scenario => .ok scenario
  | none => .error ⟨spelling⟩

end Scenario

end MetaParity
