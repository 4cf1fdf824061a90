/-!
# Console text

Text some parts of which are painted. Where colours are wanted, escape sequences around a painted part switch the
colour on and off; elsewhere they are left out.
-/

namespace MetaParity

inductive Color where
  | red
  | green
  | yellow
  | cyan
  | white
deriving DecidableEq, Inhabited

/-- The number of a colour in an escape sequence. -/
def Color.number : Color → Nat
  | red => 1
  | green => 2
  | yellow => 3
  | cyan => 6
  | white => 7

inductive Span where
  | plain (text : String)
  | painted (color : Color) (bold : Bool) (text : String)
deriving DecidableEq, Inhabited

abbrev Console := List Span

namespace Span

def text : Span → String
  | plain text => text
  | painted _ _ text => text

/-- The sequence that ends every painting. -/
def reset : String := "\x1b[0m"

def colored : Span → String
  | plain text => text
  | painted color bold text =>
    reset ++ (if bold then "\x1b[1m" else "") ++ "\x1b[3" ++ Nat.repr color.number ++ "m" ++ text ++ reset

end Span

namespace Console

def render (colors : Bool) (console : Console) : String :=
  String.join (console.map fun span => if colors then span.colored else span.text)

def line (text : String) : Console :=
  [.plain (text ++ "\n")]

end Console

end MetaParity
