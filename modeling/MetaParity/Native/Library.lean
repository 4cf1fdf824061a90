import MetaParity.Files
import MetaParity.Native.Component
import MetaParity.Native.Factory
import MetaParity.Native.Session

/-!
# Native libraries

Loading a library by its path, and acquiring the dispenser that one of its factories hands out. An installed library is
loaded by the path of its file, which has to show that it is one: a bare name is not looked for. The same file loaded
twice is the same library, with one state.
-/

namespace MetaParity.Native

/-! ## Factories -/

inductive LibraryError where
  | notLoaded (path : String)
  | missingExport (path symbol : String)
  | factoryFailed (symbol : String) (status : Status)
  | nullInterface (symbol : String)
deriving DecidableEq, Inhabited

def LibraryError.message : LibraryError → String
  | notLoaded path => s!"failed to load {path}"
  | missingExport path symbol => s!"{path} does not export {symbol}"
  | factoryFailed symbol status => s!"{symbol} failed with status {status.text}"
  | nullInterface symbol => s!"{symbol} returned a null interface"

structure Library (ω : Type) where
  path : String
  component : Component ω

structure HeldDispenser (ω : Type) extends Dispenser ω where
  object : Pointer
  release : ω → ω

namespace Library

def load (libraries : Libraries ω) (path : String) : Except LibraryError (Library ω) :=
  match libraries path with
  | some component => .ok { path, component }
  | none => .error (.notLoaded path)

def tagged (library : Library ω) : String :=
  s!"NativeModule \x7b path: {Text.quoted library.path}, .. \x7d"

def require (library : Library ω) (symbol : String) : Except LibraryError Unit :=
  if library.component.exports symbol then .ok () else .error (.missingExport library.path symbol)

/-- The class that a factory of a convention is asked for. -/
def objectClass? : FactoryAbi → Option Guid
  | .classFactory => some .dispenserClass
  | .interface => none

def dispenser (library : Library ω) (side : Side) (symbol : String) (abi : FactoryAbi) (state : ω) :
    Except LibraryError (HeldDispenser ω) × ω :=
  match library.require symbol with
  | .error error => (.error error, state)
  | .ok () =>
    let (reply, state) := library.component.answer (.factory symbol (objectClass? abi) .dispenser) state
    if reply.status.isFailure then (.error (.factoryFailed symbol reply.status), state)
    else if reply.object.isNull then (.error (.nullInterface symbol), state)
    else
      (.ok { library.component.dispenserOf side reply.object with
        object := reply.object
        release := library.component.release .dispenser reply.object }, state)

end Library

def Factory.acquire (factory : Factory) (libraries : Libraries ω) (side : Side) (state : ω) :
    Except LibraryError (HeldDispenser ω) × ω :=
  match Library.load libraries factory.library with
  | .error error => (.error error, state)
  | .ok library => library.dispenser side factory.symbol factory.abi state

/-! ## Installed libraries -/

def Component.empty : Component ω where
  exports _ := false
  answer _ state := ({ status := .fail }, state)
  pageLimit _ := 0

/-- The libraries whose files stand at given places. The empty path stands for the running program. -/
def Libraries.installed [Inhabited σ] (files : Files) (components : List (Place × Component σ)) :
    Libraries (List σ) :=
  fun path =>
    if path = "" then some .empty
    else if path.toList.contains '/' then
      match files.resolve path with
      | .ok (place, .file _) =>
        (components.findIdx? (·.1 = place)).bind fun position =>
          components[position]?.map (·.2.within (.nth position))
      | _ => none
    else none

end MetaParity.Native
