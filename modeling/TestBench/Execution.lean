import TestBench.Assertion
import TestBench.Import

/-! Carrying out the steps of a test. The toggle that a preserved list of steps begins with is there
again when the list ends, however it ends; and no step takes back a failure or a suppressed error.
-/
namespace TestBench

/-- What a step works on: the host, a context, and the modules. -/
structure Scene where
  host : Host
  context : Context
  imports : Imports

/-- What shows of a scene after a step. -/
structure Snapshot where
  failed : Bool
  reports : Value
  suppressed : Nat

def Scene.snapshot (s : Scene) : Snapshot :=
  ⟨s.context.failed, s.host.reports, s.host.suppressed⟩

/-- The trace of a step that was begun: how it ended, what showed then, and the traces of the steps
inside it. -/
inductive Record
  | mk (step : Step) (result : Except Fault Reply) (after : Snapshot) (inner : List Record)

namespace Record

def step : Record → Step
  | .mk s _ _ _ => s

def result : Record → Except Fault Reply
  | .mk _ r _ _ => r

def after : Record → Snapshot
  | .mk _ _ a _ => a

def inner : Record → List Record
  | .mk _ _ _ i => i

end Record

structure Done where
  result : Except Fault Reply
  scene : Scene
  events : List Event
  inner : List Record

/-- What comes of a list of steps: the fault that ended it, if one did. -/
structure Progress where
  fault : Option Fault
  scene : Scene
  events : List Event
  records : List Record

def Asserted.done (a : Asserted) (s : Scene) : Done :=
  ⟨a.result.map .verdict, { s with context := a.context }, a.events, []⟩

def Scene.emit (s : Scene) (events : List Event) : Done := ⟨.ok .nothing, s, events, []⟩

def Scene.toggle (s : Scene) (b : Bool) : Done :=
  ⟨.ok .nothing, { s with host := s.host.withReports b }, [], []⟩

/-- The failure of a context cannot be taken back or made up. -/
def failedIsReadOnly : Fault :=
  .say "AttributeError" "property 'failed' of 'AssertionContext' object has no setter"

def Action.run (tree : FileTree) (s : Scene) : Action → Done
  | .assertTrue condition message => (s.context.assertTrue condition message).done s
  | .assertEqual left right message => (s.context.assertEqual left right message).done s
  | .assertFail message => (s.context.assertFail message).done s
  | .assertReports message => (s.context.assertTrue s.host.reports message).done s
  | .silence => s.toggle false
  | .unsilence => s.toggle true
  | .setReports value =>
    match value.truth with
    | .ok b => s.toggle b
    | .error f => ⟨.error f, s, [], []⟩
  | .setFailed => ⟨.error failedIsReadOnly, s, [], []⟩
  | .blank => s.emit s.context.channel.blank
  | .printError message => s.emit (s.context.channel.error message)
  | .pushError message =>
    let (result, host, events) := s.host.pushError message
    ⟨result.map fun _ => .nothing, { s with host }, events, []⟩
  | .channelBlank => s.emit s.context.channel.blank
  | .channelWrite message => s.emit (s.context.channel.write message)
  | .channelError message => s.emit (s.context.channel.error message)
  | .print message => s.emit [.printed message]
  | .load name =>
    let loading := s.imports.importModule tree name
    ⟨loading.result.map fun _ => .text name, { s with imports := loading.imports }, [], []⟩
  | .raise fault => ⟨.error fault, s, [], []⟩

/-- The scene with the toggle of another moment. -/
def Scene.restore (s : Scene) (reports : Value) : Scene :=
  { s with host := { s.host with reports } }

/-- Steps inside a step that keeps the toggle. A fault goes through unchanged. -/
def Progress.preserving (p : Progress) (reports : Value) : Done :=
  ⟨match p.fault with
    | none => .ok (.verdict true)
    | some f => .error f,
   p.scene.restore reports, p.events, p.records⟩

/-- Steps inside a step that survives an ordinary fault and answers what it was. Telling that may
go wrong in its turn. -/
def Progress.surviving (p : Progress) : Done :=
  ⟨match p.fault with
    | none => .ok .nothing
    | some f => if f.ordinary then f.line.map .text else .error f,
   p.scene, p.events, p.records⟩

/-- Does this end of a step leave out the rest of its list? -/
def Step.leaves (step : Step) (result : Except Fault Reply) : Bool :=
  step.bails && match result with
    | .ok (.verdict false) => true
    | _ => false

mutual

def Step.run (tree : FileTree) : Step → Scene → Done
  | .act action _, s => action.run tree s
  | .preserved steps _, s => (runAll tree steps s).preserving s.host.reports
  | .attempt steps _, s => (runAll tree steps s).surviving
termination_by structural step => step

/-- Carry out steps in turn, up to a fault or to one that bails and answers no. -/
def runAll (tree : FileTree) : List Step → Scene → Progress
  | [], s => ⟨none, s, [], []⟩
  | step :: steps, s =>
    let d := Step.run tree step s
    let record := Record.mk step d.result d.scene.snapshot d.inner
    match d.result with
    | .error f => ⟨some f, d.scene, d.events, [record]⟩
    | .ok reply =>
      if step.leaves (.ok reply) then ⟨none, d.scene, d.events, [record]⟩
      else
        let rest := runAll tree steps d.scene
        ⟨rest.fault, rest.scene, d.events ++ rest.events, record :: rest.records⟩
termination_by structural steps => steps

end

/-- Call something with a context. A call that it refuses is a fault. -/
def Callable.run (tree : FileTree) (s : Scene) : Callable → Progress
  | .test steps => runAll tree steps s
  | .other refusal => ⟨refusal.map (.say "TypeError"), s, [], []⟩

end TestBench
