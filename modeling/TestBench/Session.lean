import TestBench.Execution

/-! Sessions: steps taken one after the other on one host, each with one of several contexts. A
fault ends its step and nothing else. A step leaves every context but its own as it was. -/
namespace TestBench

/-- A host with the contexts that look at it, and the modules. -/
structure Session where
  host : Host
  contexts : List Context
  imports : Imports

/-- A step, and the number of the context it is taken with. -/
structure Turn where
  context : Nat
  step : Step

/-- What comes of a turn: the trace of its step and what it put out. -/
structure Taken where
  record : Record
  events : List Event

namespace Session

/-- A session whose contexts write to the channels given. -/
def begin (host : Host) (channels : List Channel) (imports : Imports) : Session :=
  ⟨host, channels.map .new, imports⟩

def take (tree : FileTree) (s : Session) (turn : Turn) : Taken × Session :=
  let context := s.contexts.getD turn.context (.new s.host.channel)
  let d := turn.step.run tree ⟨s.host, context, s.imports⟩
  (⟨.mk turn.step d.result d.scene.snapshot d.inner, d.events⟩,
    ⟨d.scene.host, s.contexts.set turn.context d.scene.context, d.scene.imports⟩)

def run (tree : FileTree) : Session → List Turn → List Taken × Session
  | s, [] => ([], s)
  | s, turn :: turns =>
    let (taken, s) := s.take tree turn
    let (rest, s) := run tree s turns
    (taken :: rest, s)

end Session
end TestBench
