import MetaParity.Token

/-!
# Queries

What an enumeration asks for: one of thirteen kinds of elements, seven of them below the element that a token names.
-/

namespace MetaParity

inductive Kind where
  | typeDefs
  | typeRefs
  | typeSpecs
  | moduleRefs
  | signatures
  | userStrings
  | interfaceImpls
  | methods
  | fields
  | params
  | members
  | properties
  | events
deriving DecidableEq, Inhabited

namespace Kind

def all : List Kind :=
  [typeDefs, typeRefs, typeSpecs, moduleRefs, signatures, userStrings, interfaceImpls, methods, fields, params,
   members, properties, events]

def name : Kind → String
  | typeDefs => "TypeDefs"
  | typeRefs => "TypeRefs"
  | typeSpecs => "TypeSpecs"
  | moduleRefs => "ModuleRefs"
  | signatures => "Signatures"
  | userStrings => "UserStrings"
  | interfaceImpls => "InterfaceImpls"
  | methods => "Methods"
  | fields => "Fields"
  | params => "Params"
  | members => "Members"
  | properties => "Properties"
  | events => "Events"

/-- The native call that enumerates a kind. -/
def callName (kind : Kind) : String :=
  "Enum" ++ kind.name

end Kind

inductive Query where
  | typeDefs
  | typeRefs
  | typeSpecs
  | moduleRefs
  | signatures
  | userStrings
  | interfaceImpls (type : Token)
  | methods (type : Token)
  | fields (type : Token)
  | params (method : Token)
  | members (type : Token)
  | properties (type : Token)
  | events (type : Token)
deriving DecidableEq, Inhabited

namespace Query

def kind : Query → Kind
  | typeDefs => .typeDefs
  | typeRefs => .typeRefs
  | typeSpecs => .typeSpecs
  | moduleRefs => .moduleRefs
  | signatures => .signatures
  | userStrings => .userStrings
  | interfaceImpls _ => .interfaceImpls
  | methods _ => .methods
  | fields _ => .fields
  | params _ => .params
  | members _ => .members
  | properties _ => .properties
  | events _ => .events

/-- The token below which a query looks, for the kinds that have one. -/
def scope? : Query → Option Token
  | typeDefs | typeRefs | typeSpecs | moduleRefs | signatures | userStrings => none
  | interfaceImpls token | methods token | fields token | params token | members token | properties token
  | events token => some token

/-- The query of a kind below a token; kinds without a scope ignore the token. -/
def ofKind (kind : Kind) (scope : Token) : Query :=
  match kind with
  | .typeDefs => typeDefs
  | .typeRefs => typeRefs
  | .typeSpecs => typeSpecs
  | .moduleRefs => moduleRefs
  | .signatures => signatures
  | .userStrings => userStrings
  | .interfaceImpls => interfaceImpls scope
  | .methods => methods scope
  | .fields => fields scope
  | .params => params scope
  | .members => members scope
  | .properties => properties scope
  | .events => events scope

def text (query : Query) : String :=
  match query.scope? with
  | none => query.kind.callName
  | some token => query.kind.callName ++ "(" ++ token.text ++ ")"

end Query

end MetaParity
