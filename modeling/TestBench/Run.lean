import TestBench.Trial

/-! A run: tests tried one after the other, in the order given, with a line for each. The user's
wish to stop ends the run early and keeps what was gathered. The outcomes are those of the first
targets, in order, and the counts agree with the lines. -/
namespace TestBench

structure Summary where
  outcomes : List Outcome
  interrupted : Bool
  deriving DecidableEq, Repr

namespace Summary

def passedCount (s : Summary) : Nat := (s.outcomes.filter Outcome.passed).length

def failedCount (s : Summary) : Nat := s.outcomes.length - s.passedCount

/-- Did the whole run go through, and every test pass? -/
def allPassed (s : Summary) : Bool := !s.interrupted && s.outcomes.all Outcome.passed

/-- A summary as a value, with its counts. -/
def asDict (s : Summary) : Value :=
  .dict [(.text "outcomes", .list (s.outcomes.map Outcome.asDict)),
    (.text "passed", .int s.passedCount), (.text "failed", .int s.failedCount),
    (.text "interrupted", .bool s.interrupted)]

end Summary

/-- What comes of some tests of a run: the fault that cut them short, if one did, the bench
afterwards, and a trial for every test begun. -/
structure Series where
  fault : Option Fault
  bench : Bench
  outcomes : List Outcome
  trials : List Trial
  events : List Event

structure Run where
  result : Except Fault Summary
  bench : Bench
  trials : List Trial
  events : List Event

namespace Run

/-- The line of a test that is done, the `index`-th of `total`. -/
def statusLine (index total : Nat) (outcome : Outcome) (name : String) : String :=
  "  [" ++ toString index ++ "/" ++ toString total ++ "] "
    ++ (if outcome.passed then "PASS" else "FAIL") ++ "  " ++ name

def opening (total : Nat) : List Event :=
  [.printed ("Running " ++ toString total ++ " test(s)..."),
    .logged ⟨.debug, "Starting run of " ++ toString total ++ " test(s)", none⟩]

/-- What is told when the user stops a run. -/
def interruption (done total : Nat) : Event :=
  .logged ⟨.warning, "Run interrupted by user (Ctrl+C) after " ++ toString done ++ " of "
    ++ toString total ++ " test(s)", none⟩

def closing (s : Summary) : Event :=
  .logged ⟨.debug, "Run finished: " ++ toString s.passedCount ++ " passed, "
    ++ toString s.failedCount ++ " failed", none⟩

/-- Try the tests from the `index`-th of `total` on, until a trial has no outcome. -/
def series (tree : FileTree) (total : Nat) : Nat → Bench → List Target → Series
  | _, b, [] => ⟨none, b, [], [], []⟩
  | index, b, target :: targets =>
    let trial := b.runTest tree target
    match trial.result with
    | .error f => ⟨some f, trial.bench, [], [trial], trial.events⟩
    | .ok outcome =>
      let rest := series tree total (index + 1) trial.bench targets
      ⟨rest.fault, rest.bench, outcome :: rest.outcomes, trial :: rest.trials,
        trial.events ++ .printed (statusLine index total outcome target.name) :: rest.events⟩

def finish (total : Nat) (s : Series) (summary : Summary) : Run :=
  ⟨.ok summary, s.bench, s.trials,
    opening total ++ s.events ++
      (if summary.interrupted then [interruption summary.outcomes.length total] else []) ++
      [closing summary]⟩

def of (tree : FileTree) (b : Bench) (targets : List Target) : Run :=
  let total := targets.length
  let s := series tree total 1 b targets
  match s.fault with
  | none => finish total s ⟨s.outcomes, false⟩
  | some f =>
    if f.isInterrupt then finish total s ⟨s.outcomes, true⟩
    else ⟨.error f, s.bench, s.trials, opening total ++ s.events⟩

end Run
end TestBench
