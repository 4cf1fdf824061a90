/-!
# Choices

The settings that take one of a few words.
-/

namespace MetaParity.Settings

inductive LogFormat where
  | text
  | json
deriving DecidableEq, Inhabited

namespace LogFormat

def all : List LogFormat := [text, json]

def name : LogFormat → String
  | text => "text"
  | json => "json"

def title : LogFormat → String
  | text => "Text"
  | json => "Json"

def ofName? (name : String) : Option LogFormat :=
  all.find? (·.name == name)

end LogFormat

inductive ColorMode where
  | auto
  | always
  | never
deriving DecidableEq, Inhabited

namespace ColorMode

def all : List ColorMode := [auto, always, never]

def name : ColorMode → String
  | auto => "auto"
  | always => "always"
  | never => "never"

def title : ColorMode → String
  | auto => "Auto"
  | always => "Always"
  | never => "Never"

def ofName? (name : String) : Option ColorMode :=
  all.find? (·.name == name)

/-- Whether text is coloured on a console that shows colours or does not. -/
def colors (mode : ColorMode) (console : Bool) : Bool :=
  match mode with
  | auto => console
  | always => true
  | never => false

end ColorMode

inductive ReportFormat where
  | human
  | json
deriving DecidableEq, Inhabited

namespace ReportFormat

def all : List ReportFormat := [human, json]

def name : ReportFormat → String
  | human => "human"
  | json => "json"

def ofName? (name : String) : Option ReportFormat :=
  all.find? (·.name == name)

end ReportFormat

end MetaParity.Settings
