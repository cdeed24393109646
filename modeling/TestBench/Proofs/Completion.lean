import TestBench.Proofs.Series

/-! When a run goes through. What a test lets out is told unless it is not ordinary or has no text that
can be made up; one fault of that kind takes down the whole run. -/
namespace TestBench

/-- A fault that a bench can tell of: an ordinary one, with a text that can be made up. -/
def Fault.Tellable (f : Fault) : Prop := f.ordinary = true ∧ ∃ text, f.text = .ok text

/-- What an outcome has to say of its test: its name and, if a fault left the test, that it did not
pass, and what the fault was. -/
structure Outcome.Reports (tree : FileTree) (e : Bench × Target) (o : Outcome) : Prop where
  name : o.name = e.2.name
  fault : ∀ f, (e.1.call tree e.2).fault = some f → o.passed = false ∧
    ∃ text, f.text = .ok text ∧ o.error = some (f.kind ++ ": " ++ String.ofList text)

variable {tree : FileTree} {b : Bench} {target : Target}

lemma reports_of_outcome {outcome : Outcome} (h : (b.runTest tree target).result = .ok outcome) :
    outcome.Reports tree (b,target) := by
  obtain ⟨_,hname,hpassed⟩ := told_of_outcome h
  refine ⟨hname,fun f hf => ?_⟩
  obtain ⟨_,text,htext,herror⟩ := error_of_fault h hf
  refine ⟨?_,text,htext,herror⟩
  rw [hpassed,herror]
  exact Bool.and_false _

/-- A trial has an outcome if and only if what its test lets out can be told. -/
lemma exists_outcome_iff : (∃ o, (b.runTest tree target).result = .ok o) ↔
    ∀ f, (b.call tree target).fault = some f → f.Tellable := by
  constructor
  · rintro ⟨o,ho⟩ f hf
    obtain ⟨hordinary,text,htext,_⟩ := error_of_fault ho hf
    exact ⟨hordinary,text,htext⟩
  · intro h
    cases ht : (b.call tree target).told with
    | ok error =>
      obtain ⟨duration,hr⟩ := runTest_of_told ht
      exact ⟨_,hr⟩
    | error g =>
      cases hf : (b.call tree target).fault with
      | none =>
        rw [Progress.told_eq_ok_none.mpr hf] at ht
        contradiction
      | some f =>
        obtain ⟨hordinary,text,htext⟩ := h f hf
        have hline := Fault.told_eq_ok.mpr ⟨hordinary,text,htext,rfl⟩
        rw [Progress.told_eq_ok_some.mpr ⟨f,hf,hline⟩] at ht
        contradiction

/-- A run has a summary that is not interrupted, with one outcome for every test in order, if and only
if every fault that a test lets out can be told. -/
theorem run_completes_iff (tree : FileTree) (b : Bench) (targets : List Target) :
    (∃ outcomes, (Run.of tree b targets).result = .ok ⟨outcomes,false⟩ ∧
      (Run.of tree b targets).trials = (onBenches tree b targets).map (tried tree) ∧
      List.Forall₂ (Outcome.Reports tree · ·) (onBenches tree b targets) outcomes) ↔
    ∀ e ∈ onBenches tree b targets, ∀ f, (e.1.call tree e.2).fault = some f → f.Tellable := by
  have hthrough : (Run.tests tree b targets).fault = none ↔
      ∀ e ∈ onBenches tree b targets, ∃ o, (tried tree e).result = .ok o :=
    Run.series_goes_through_iff
  constructor
  · rintro ⟨outcomes,hr,_,_⟩ e he
    have hnone := (Run.of_result_eq_iff.mp hr).1
    exact exists_outcome_iff.mp (hthrough.mp hnone e he)
  · intro h
    have hnone := hthrough.mpr fun e he => exists_outcome_iff.mpr (h e he)
    obtain ⟨htrials,houtcomes⟩ := Run.series_of_no_fault hnone
    refine ⟨_,Run.of_result_of_no_fault hnone,?_,houtcomes.imp fun e o ho => reports_of_outcome ho⟩
    rw [Run.of_trials]
    exact htrials

/-- A value that cannot be shown, inside an ordinary fault: telling of the fault fails, and the run has
no summary, although no test asked for an end. -/
theorem run_lost_to_unshown :
    let silent : Value := .object (.raises (Fault.say "RuntimeError" "no text")) none (.gives true)
    let target : Target := ⟨"b",.test [.act (.raise ⟨"ValueError",[silent]⟩) false]⟩
    let b : Bench := ⟨.shared,.standard,⟨[],[]⟩,⟨[]⟩⟩
    (∀ e ∈ onBenches .empty b [target], ∀ f, (e.1.call .empty e.2).fault = some f →
      f.kind ∉ ["KeyboardInterrupt","SystemExit","GeneratorExit"]) ∧
    ¬∃ summary, (Run.of .empty b [target]).result = .ok summary := by
  intro silent target b
  constructor
  · intro e he f hf
    obtain rfl : e = (b,target) := List.mem_singleton.mp he
    obtain rfl := Option.some.inj hf
    decide
  · rintro ⟨summary,h⟩
    have hlost : (Run.of .empty b [target]).result =
        .error (Fault.say "RuntimeError" "no text") := rfl
    rw [hlost] at h
    contradiction

end TestBench
