import Newswire.Rejection.Backoff
import Newswire.Settings

/-!
# Runs

A run handles one event. It is a plan that breaks off at the first error; what was done before stays
done.
-/

namespace Newswire

abbrev Run := ExceptT Error Plan

namespace Run

/-- What a run is given besides its event. -/
structure Setup where
  settings : Settings.Delivery := {}
  /-- When the run takes place. -/
  now : Instant := ⟨0⟩
  /-- When the lease of the feed is asked for. -/
  asked : Instant := now
  /-- Who holds the lease of the feed during the run; no two runs are the same holder. -/
  holder : String := ""
  deriving Repr, DecidableEq, Inhabited

/-- A step of a run that uses the stores. The error of a call that does not answer names the
step. -/
def store {α : Type} (step : String) (act : Store.Action α) : Run α :=
  .mk ((·.mapError (·.error step)) <$> act.run)

/-- Counts a rejection that is given by its code. -/
def registerCode (threshold : Nat) (feed : String) (scope : Scope) (code : String) (now : Instant) :
    Run (Option DisableRequest) := do
  let r ← .mk (pure (Rejection.parse code))
  store "retry increment" (Backoff.register threshold feed scope r now)

end Run

end Newswire
