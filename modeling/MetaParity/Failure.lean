import MetaParity.Compare
import MetaParity.Status
import MetaParity.Workload

/-!
# Failures

Everything that can go wrong while sessions are driven or compared. A failure ends its scenario; nothing is retried.
-/

namespace MetaParity

inductive Failure where
  | openFailed (what : String) (status : Status)
  | pagingFailed (query : Query) (status : Status)
  | pageOverrun (query : Query) (returned capacity : Nat)
  | countFailed (query : Query) (status : Status)
  | countMismatch (query : Query) (reported produced : Nat)
  | resetFailed (query : Query) (offset : Nat) (status : Status)
  | replayInconsistent (side : Side) (detail : String)
  | lookupFailed (token : Token) (status : Status)
  | diverged (divergence : Divergence)
  | initializationFailed (status : Status)
  | benchmarkFailed (workload : Workload) (side : Side) (status : Status)
deriving DecidableEq

namespace Failure

def message : Failure → String
  | openFailed what status => what ++ " failed with status " ++ status.text
  | pagingFailed query status => query.text ++ " failed while paging with status " ++ status.text
  | pageOverrun query returned capacity =>
    query.text ++ " returned " ++ Nat.repr returned ++ " items into a buffer of " ++ Nat.repr capacity
  | countFailed query status => "counting " ++ query.text ++ " failed with status " ++ status.text
  | countMismatch query reported produced =>
    query.text ++ " reported " ++ Nat.repr reported ++ " items but produced " ++ Nat.repr produced
  | resetFailed query offset status =>
    "reset of " ++ query.text ++ " to offset " ++ Nat.repr offset ++ " failed with status " ++ status.text
  | replayInconsistent side detail => "reset replay on " ++ side.name ++ " session is inconsistent: " ++ detail
  | lookupFailed token status => "signature lookup for " ++ token.text ++ " failed with status " ++ status.text
  | diverged divergence => divergence.text
  | initializationFailed status => "Initialization failed: " ++ status.text
  | benchmarkFailed workload side status =>
    "Failure " ++ status.text ++ " in " ++ side.name ++ " " ++ workload.name

def status? : Failure → Option Status
  | openFailed _ status | pagingFailed _ status | countFailed _ status | resetFailed _ _ status
  | lookupFailed _ status | initializationFailed status | benchmarkFailed _ _ status => some status
  | pageOverrun .. | countMismatch .. | replayInconsistent .. | diverged _ => none

/-- Whether the two sides disagreed, as opposed to a failure of one. -/
def isMismatch : Failure → Bool
  | diverged _ => true
  | _ => false

end Failure

end MetaParity
