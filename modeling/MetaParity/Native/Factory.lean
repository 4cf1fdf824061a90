import MetaParity.Side
import MetaParity.Text.Lowercase
import MetaParity.Text.Quoted

/-!
# Dispenser factories

A native library exports a factory for its dispenser. Two calling conventions are in use, one of which takes a class
identifier first.
-/

namespace MetaParity.Native

inductive FactoryAbi where
  | classFactory
  | interface
deriving DecidableEq, Inhabited

namespace FactoryAbi

def standard : FactoryAbi := classFactory

def name : FactoryAbi → String
  | classFactory => "class-factory"
  | interface => "interface"

def ofName? (name : String) : Option FactoryAbi :=
  [classFactory, interface].find? (·.name == name)

/-- The convention that a spelling names; letter case does not matter, nor does the choice between a hyphen and an
underscore. -/
def parse (spelling : String) : Except String FactoryAbi :=
  let wanted := String.ofList ((Text.lowerCase spelling.toList).map fun c => if c = '_' then '-' else c)
  if wanted == "class-factory" || wanted == "classfactory" then .ok classFactory
  else if wanted == "interface" then .ok interface
  else .error ("unknown factory ABI " ++ Text.quoted wanted ++ " (expected class-factory or interface)")

end FactoryAbi

/-- Where the dispenser factory of one side is found. -/
structure Factory where
  library : String
  symbol : String
  abi : FactoryAbi
deriving DecidableEq

/-- The export and convention that a side's library has unless told otherwise. -/
def Factory.ofSide (side : Side) (library : String) : Factory :=
  match side with
  | .baseline => ⟨library, "MetaDataGetDispenser", .classFactory⟩
  | .current => ⟨library, "GetDispenser", .interface⟩

end MetaParity.Native
