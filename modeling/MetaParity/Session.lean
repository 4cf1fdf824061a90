import MetaParity.Failure
import MetaParity.Import

/-!
# Sessions

Dispensers open sessions over the bytes of an image; a run holds one session of either side over the same bytes.
-/

namespace MetaParity

/-- An import that a dispenser opened and that is given back when it is done with. -/
structure Session (ω : Type) extends Import ω where
  release : ω → ω

structure Dispenser (ω : Type) where
  side : Side
  openScope : Bytes → ω → Except Failure (Session ω) × ω

structure SessionPair (ω : Type) where
  baseline : Session ω
  current : Session ω

namespace SessionPair

def session (pair : SessionPair ω) : Side → Session ω
  | .baseline => pair.baseline
  | .current => pair.current

def release (pair : SessionPair ω) (state : ω) : ω :=
  pair.current.release (pair.baseline.release state)

end SessionPair

structure DispenserPair (ω : Type) where
  baseline : Dispenser ω
  current : Dispenser ω

namespace DispenserPair

def dispenser (pair : DispenserPair ω) : Side → Dispenser ω
  | .baseline => pair.baseline
  | .current => pair.current

/-- Opens a session of either side, the baseline first. If the current side fails, the baseline session is given back
before the failure is. -/
def openScope (pair : DispenserPair ω) (image : Bytes) (state : ω) : Except Failure (SessionPair ω) × ω :=
  match pair.baseline.openScope image state with
  | (.error failure, state) => (.error failure, state)
  | (.ok baseline, state) =>
    match pair.current.openScope image state with
    | (.error failure, state) => (.error failure, baseline.release state)
    | (.ok current, state) => (.ok ⟨baseline, current⟩, state)

end DispenserPair

end MetaParity
