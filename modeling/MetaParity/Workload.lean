import MetaParity.Scenario
import MetaParity.Side

/-!
# Benchmark workloads

The five workloads of a benchmark library, each exported once for either side.
-/

namespace MetaParity

inductive Workload where
  | createImport
  | enumTypeDefs
  | getScopeProps
  | enumUserStrings
  | getCustomAttributeByName
deriving DecidableEq, Inhabited

namespace Workload

def all : List Workload :=
  [createImport, enumTypeDefs, getScopeProps, enumUserStrings, getCustomAttributeByName]

def name : Workload → String
  | createImport => "CreateImport"
  | enumTypeDefs => "EnumTypeDefs"
  | getScopeProps => "GetScopeProps"
  | enumUserStrings => "EnumUserStrings"
  | getCustomAttributeByName => "GetCustomAttributeByName"

def exportName (workload : Workload) (side : Side) : String :=
  match side with
  | .baseline => "PerfBaseline" ++ workload.name
  | .current => "PerfCurrent" ++ workload.name

def ofName? (name : String) : Option Workload :=
  all.find? (·.name == name)

/-- The workload that a spelling names: blanks around it and the case of ASCII letters do not matter. -/
def parse (spelling : String) : Except UnknownScenario Workload :=
  let wanted := (Text.trimBlanks spelling.toList).map Char.toLower
  match all.find? (·.name.toList.map Char.toLower == wanted) with
  | some workload => .ok workload
  | none => .error ⟨spelling⟩

end Workload

end MetaParity
