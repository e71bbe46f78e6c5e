import Newswire.Dispatch.Move
import Newswire.Run.Handling

/-!
# Serving events one by one

A service handles every event before it turns to the next one. This is one of the histories that the
moves of submitters and workers permit.
-/

namespace Newswire.Dispatch

/-- What a run came to. -/
abbrev Result := Except Error Run.Report

structure Service where
  world : World := {}
  state : State Result := {}
  deriving Inhabited

namespace Service

/-- Handles an event and gives what has been reported since. -/
def serve (c : Settings.Dispatch) (setup : Run.Setup) (around : Surroundings) (v : Service)
    (e : Event.Input) : List (Reported Result) × Service :=
  let (result, world) := (Run.handle setup e).run.run around v.world
  let state := (v.state.moveAll? c (v.state.courseOf e result)).getD v.state
  (state.results.drop v.state.results.length, ⟨world, state⟩)

end Service

end Newswire.Dispatch
