import MetaParity.Text.Basic

/-!
# Statuses

The code that every native call answers with. Only its sign matters: a negative code is a failure.
-/

namespace MetaParity

structure Status where
  code : Int32
deriving DecidableEq, Inhabited

namespace Status

def ok : Status := ⟨0⟩

def fail : Status := ⟨0x80004005⟩

def pointer : Status := ⟨0x80004003⟩

def invalidArgument : Status := ⟨0x80070057⟩

def recordNotFound : Status := ⟨0x80131130⟩

/-- Whether the status is a failure: its code is negative. -/
def isFailure (status : Status) : Bool :=
  status.code < 0

def isSuccess (status : Status) : Bool :=
  !status.isFailure

def toExcept (status : Status) : Except Status Unit :=
  if status.isFailure then .error status else .ok ()

def text (status : Status) : String :=
  "0x" ++ Hex.fixed 8 status.code.toUInt32.toNat

def tagged (status : Status) : String :=
  "Status(" ++ status.text ++ ")"

end Status

end MetaParity
