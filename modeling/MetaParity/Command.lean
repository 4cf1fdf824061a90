import MetaParity.Console
import MetaParity.Image
import MetaParity.Native.Library
import MetaParity.Run

/-!
# Commands

What a command acts on, and the steps it is made of: writing to the console or to a file, calling a library, holding a
dispenser. A step that fails ends the command; what was held by then is given back, and what was written stays written.
-/

namespace MetaParity

inductive CommandError where
  | noDispenser (side : Side) (library : String) (error : Native.LibraryError)
  | noBenchmarkDispenser (error : Native.LibraryError)
  | noBenchmarkLibrary (path : String) (error : Native.LibraryError)
  | image (error : ImageError)
  | noImages
  | benchmark (failure : Failure)
  | notCreated (path : String) (error : FileError)
  /-- An enumeration was given up. -/
  | endless
deriving DecidableEq

def CommandError.message : CommandError → String
  | noDispenser side library error => s!"acquiring the {side.name} dispenser from {library}: {error.message}"
  | noBenchmarkDispenser error => s!"acquiring the baseline dispenser: {error.message}"
  | noBenchmarkLibrary path error => s!"loading benchmark library {path}: {error.message}"
  | image error => error.explanation
  | noImages => "no metadata images found"
  | benchmark failure => failure.message
  | notCreated path error => s!"creating {path}: {error.message}"
  | endless => "an enumeration does not end"

/-- What a command acts on: the files, the text it wrote to the console, and the state of the libraries. -/
structure World (ω : Type) where
  files : Files
  console : Console := []
  native : ω

abbrev Action (ω : Type) := ExceptT CommandError (StateM (World ω))

namespace Action

def ofExcept (error : ε → CommandError) (result : Except ε α) : Action ω α :=
  ExceptT.mk (pure (result.mapError error))

def print (text : Console) : Action ω Unit :=
  modify fun world => { world with console := world.console ++ text }

def write (path text : String) : Action ω Unit := do
  let files ← ofExcept (.notCreated path) ((← get).files.write path text.toUTF8.toList)
  modify fun world => { world with files }

/-- Writes to a file if one is named, without colours, and to the console otherwise. -/
def deliver (output : Option String) (text : Console) : Action ω Unit :=
  match output with
  | some path => write path (text.render false)
  | none => print text

def call (operation : ω → α × ω) : Action ω α :=
  modifyGet fun world =>
    let (answer, native) := operation world.native
    (answer, { world with native })

/-- Calls a library, and goes on with what it answers unless that is an error. -/
def callOrEnd (error : ε → CommandError) (operation : ω → Except ε α × ω) : Action ω α := do
  ofExcept error (← call operation)

def drive (computation : Run.RunM ω α) : Action ω α := do
  match ← call computation.run with
  | some result => return result
  | none => throw .endless

/-- Does something with a dispenser, which is given back however that ends. -/
def holding (dispenser : Native.HeldDispenser ω) (action : Action ω α) : Action ω α :=
  ExceptT.mk fun world =>
    let (result, world) := action.run.run world
    (result, { world with native := dispenser.release world.native })

end Action

end MetaParity
