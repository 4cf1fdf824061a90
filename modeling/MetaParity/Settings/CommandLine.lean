import MetaParity.Settings.Parameter

/-!
# Command lines

A command line is read word by word: options with their values, flags, and what stands in a place of its own. The value
of an option is looked at when the next one begins, so that an argument that nobody knows is complained about first.
The subcommand reads the words after its name, by its own parameters.
-/

namespace MetaParity.Settings

/-- The values given for parameters, by name, in the order in which they were given. -/
abbrev Given := List (String × List String)

namespace Given

def has (given : Given) (name : String) : Bool :=
  (given.lookup name).isSome

def add (name : String) (values : List String) : Given → Given
  | [] => [(name, values)]
  | (other, held) :: rest =>
    if other = name then (name, held ++ values) :: rest else (other, held) :: add name values rest

end Given

/-- A command or subcommand: its parameters and the subcommands it has. -/
structure Level where
  parameters : List Parameter
  subcommands : List String := []

namespace Level

def root : Level where
  parameters := Parameter.common ++ [.help, .version]
  subcommands := ["verify", "perf", "help"]

def verify : Level where
  parameters := Parameter.verify ++ Parameter.common ++ [.help]

def perf : Level where
  parameters := Parameter.perf ++ Parameter.common ++ [.help]

end Level

structure Reading where
  given : Given := []
  /-- The parameter whose values have not been looked at yet. -/
  pending : Option (Parameter × List String) := none
  /-- Whether the next word is a value, unless it is an option. -/
  awaiting : Bool := false
  /-- Whether every word to come stands in a place of its own. -/
  trailing : Bool := false

namespace Reading

def take (reading : Reading) (parameter : Parameter) (values : List String) : Except Refusal Reading := do
  let known := reading.given.has parameter.name
  let check (form : Form) : Except Refusal Unit :=
    match values.findSome? form.refusal? with
    | some refusal => throw refusal
    | none => return ()
  let held (values : List String) : Reading :=
    { reading with given := reading.given.add parameter.name values }
  match parameter.action with
  | .help => throw .helpWanted
  | .version => throw .versionWanted
  | .count => return held [""]
  | .switch => if known then throw .repeated else return held ["true"]
  | .one form =>
    if values.isEmpty then throw .invalidValue
    if known then throw .repeated
    check form
    return held values
  | .many form =>
    if values.isEmpty then throw .invalidValue
    check form
    return held values

def settle (reading : Reading) : Except Refusal Reading :=
  match reading.pending with
  | none => .ok reading
  | some (parameter, values) => { reading with pending := none, awaiting := false }.take parameter values

/-- Meets an option, perhaps with a value attached to it. -/
def meet (reading : Reading) (parameter : Parameter) (attached : Option String) : Except Refusal Reading := do
  match parameter.action.takesValue, attached with
  | true, some value => (← reading.settle).take parameter [value]
  | true, none => return { ← reading.settle with pending := some (parameter, []), awaiting := true }
  | false, some _ => throw .unneededValue
  | false, none => (← reading.settle).take parameter []

def long (level : Level) (reading : Reading) (text : List Char) : Except Refusal Reading :=
  let name := String.ofList (text.takeWhile (· ≠ '='))
  let attached := match text.dropWhile (· ≠ '=') with
    | [] => none
    | _ :: value => some (String.ofList value)
  match level.parameters.find? fun parameter => !parameter.positional && parameter.name = name with
  | some parameter => reading.meet parameter attached
  | none => .error .unknownArgument

/-- Meets options under their short names, one character each, read behind their hyphen. An option that takes a value
takes the rest of the word. -/
def short (level : Level) (reading : Reading) : List Char → Except Refusal Reading
  | [] => .ok reading
  | c :: rest =>
    match level.parameters.find? (·.short = some c) with
    | none => .error .unknownArgument
    | some parameter =>
      if parameter.action.takesValue then
        reading.meet parameter (match rest with
          | [] => none
          | '=' :: value => some (.ofList value)
          | value => some (.ofList value))
      else do short level (← reading.meet parameter none) rest

def place (level : Level) (reading : Reading) (word : String) : Except Refusal Reading := do
  match level.parameters.find? (·.positional) with
  | none =>
    if level.subcommands.isEmpty || (reading.trailing && level.subcommands.contains word) then throw .unknownArgument
    else throw .unknownSubcommand
  | some parameter =>
    match parameter.action, reading.pending with
    | .many _, some (other, values) =>
      if other = parameter then return { reading with pending := some (parameter, values ++ [word]) }
      else return { ← reading.settle with pending := some (parameter, [word]) }
    | .many _, none => return { reading with pending := some (parameter, [word]) }
    | _, pending =>
      if reading.given.has parameter.name || pending.any (·.1 = parameter) then throw .unknownArgument
      else return { ← reading.settle with pending := some (parameter, [word]) }

def step (level : Level) (reading : Reading) (word : String) : Except Refusal Reading :=
  if reading.trailing then reading.place level word
  else match word.toList with
    | ['-', '-'] => .ok { reading with trailing := true }
    | '-' :: '-' :: text => reading.long level text
    | '-' :: c :: text => reading.short level (c :: text)
    | _ =>
      match reading.awaiting, reading.pending with
      | true, some (parameter, _) => .ok { reading with pending := some (parameter, [word]), awaiting := false }
      | _, _ => reading.place level word

end Reading

namespace Level

/-- Reads words up to a subcommand; answers it with the words behind it. -/
def read (level : Level) (reading : Reading) : List String → Except Refusal (Reading × Option (String × List String))
  | [] => .ok (reading, none)
  | word :: rest =>
    if !reading.trailing && !reading.awaiting && level.subcommands.contains word then .ok (reading, some (word, rest))
    else do level.read (← reading.step level word) rest

def environment (level : Level) (defined : List (String × String)) (given : Given) : Except Refusal Given :=
  level.parameters.foldlM (fun found parameter =>
    match parameter.environment.bind (defined.lookup ·) with
    | none => .ok found
    | some value =>
      if given.has parameter.name then .ok found
      else match parameter.action.form.refusal? value with
        | some refusal => .error refusal
        | none => .ok (found.add parameter.name [value])) []

def finish (level : Level) (defined : List (String × String)) (reading : Reading) :
    Except Refusal (Given × Given) := do
  let given := (← reading.settle).given
  return (given, ← level.environment defined given)

end Level

/-- Where the values of a command come from: the words behind the subcommand, those before it, and the environment. -/
structure Sources where
  inner : Given
  outer : Given
  environment : Given

namespace Sources

/-- The values of a parameter, from the first source that gives any. -/
def values (sources : Sources) (name : String) : List String :=
  ((sources.inner.lookup name <|> sources.outer.lookup name <|> sources.environment.lookup name)).getD []

def value? (sources : Sources) (name : String) (read? : String → Option α) : Option α :=
  (sources.values name).head?.bind read?

end Sources

def helpOn : List String → Refusal
  | [] => .helpWanted
  | [word] => if Level.root.subcommands.contains word then .helpWanted else .unknownSubcommand
  | _ => .unknownSubcommand

def sources (words : List String) (defined : List (String × String)) : Except Refusal (String × Sources) := do
  let (root, next) ← Level.root.read {} words
  match next with
  | none =>
    let (given, environment) ← Level.root.finish defined root
    throw (if given.isEmpty && environment.isEmpty then .nothingGiven else .missingSubcommand)
  | some (name, rest) =>
    if name = "help" then throw (helpOn rest)
    let level := if name = "verify" then Level.verify else Level.perf
    let (reading, _) ← level.read {} rest
    let (inner, environment) ← level.finish defined reading
    let (outer, _) ← Level.root.finish defined root
    return (name, { inner, outer, environment })

end MetaParity.Settings
