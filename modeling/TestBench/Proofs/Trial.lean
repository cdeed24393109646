import Mathlib.Tactic.Common
import TestBench.Trial

/-! What a trial makes of the call of a test. It has an outcome if there is nothing to tell of a fault,
or if that can be told; otherwise it lets a fault through. Either way the host is the one that the
call left, but for its toggle. -/
namespace TestBench

def Bench.call (tree : FileTree) (b : Bench) (target : Target) : Progress :=
  target.callable.run tree b.scene

/-- What a bench can tell of a fault that left a test: a line, if it is ordinary and has a text. If
not, a fault is let through. -/
def Fault.told (f : Fault) : Except Fault String := if f.ordinary then f.line else .error f

def Progress.told (p : Progress) : Except Fault (Option String) :=
  match p.fault with
  | none => .ok none
  | some f => f.told.map some

/-- What a bench reports of the fault that left a test, if there was one. -/
def Bench.escapeReport (b : Bench) (name : String) (p : Progress) : List Event :=
  match p.fault with
  | none => []
  | some f =>
    match f.line with
    | .ok line => b.faultReport name f.kind line
    | .error _ => []

namespace Clock

/-- A clock that was read some more times. -/
def after (c : Clock) : ℕ → Clock
  | 0 => c
  | n+1 => c.read.2.after n

/-- The time between the next two readings of a clock. -/
def lap (c : Clock) : Double := c.read.2.read.1.sub c.read.1

end Clock

variable {tree : FileTree} {b : Bench} {target : Target}

lemma Clock.after_succ (c : Clock) (n : ℕ) : c.after (n+1) = c.read.2.after n := rfl

lemma Clock.after_add (c : Clock) (m n : ℕ) : c.after (m+n) = (c.after m).after n := by
  induction m generalizing c with
  | zero => rw [Nat.zero_add,Clock.after]
  | succ m ih => rw [Nat.succ_add,after_succ,after_succ,ih]

/-- A trial either concludes with what there is to tell, or is given up. -/
theorem runTest_cases (tree : FileTree) (b : Bench) (target : Target) :
    (∃ error, (b.call tree target).told = .ok error ∧
      b.runTest tree target = b.conclude target.name b.clock.read.1 b.clock.read.2
        (b.call tree target) error (b.escapeReport target.name (b.call tree target))) ∨
    (∃ f, (b.call tree target).told = .error f ∧
      b.runTest tree target = b.abandon b.clock.read.2 (b.call tree target) f) := by
  cases hf : (target.callable.run tree b.scene).fault with
  | none =>
    refine .inl ⟨none,?_,?_⟩
    · simp [Progress.told,Bench.call,hf]
    · simp [Bench.runTest,Bench.call,Bench.escapeReport,hf]
  | some f =>
    by_cases ho : f.ordinary = true
    · cases hl : f.line with
      | ok line =>
        refine .inl ⟨some line,?_,?_⟩
        · simp [Progress.told,Fault.told,Bench.call,Except.map,hf,ho,hl]
        · simp [Bench.runTest,Bench.call,Bench.escapeReport,hf,ho,hl]
      | error g =>
        refine .inr ⟨g,?_,?_⟩
        · simp [Progress.told,Fault.told,Bench.call,Except.map,hf,ho,hl]
        · simp [Bench.runTest,Bench.call,hf,ho,hl]
    · refine .inr ⟨f,?_,?_⟩
      · simp [Progress.told,Fault.told,Bench.call,Except.map,hf,ho]
      · simp [Bench.runTest,Bench.call,hf,ho]

lemma runTest_of_told {error : Option String} (h : (b.call tree target).told = .ok error) :
    ∃ duration, (b.runTest tree target).result = .ok ⟨target.name,
      !(b.call tree target).scene.context.failed && error.isNone,error,duration⟩ := by
  rcases runTest_cases tree b target with ⟨error',ht,hr⟩ | ⟨f,ht,hr⟩
  · obtain rfl : error = error' := Except.ok.inj (h.symm.trans ht)
    rw [hr]
    exact ⟨_,rfl⟩
  · rw [h] at ht
    contradiction

lemma runTest_of_untold {f : Fault} (h : (b.call tree target).told = .error f) :
    (b.runTest tree target).result = .error f := by
  rcases runTest_cases tree b target with ⟨error,ht,hr⟩ | ⟨g,ht,hr⟩
  · rw [h] at ht
    contradiction
  · obtain rfl : f = g := Except.error.inj (h.symm.trans ht)
    rw [hr]
    rfl

lemma told_of_outcome {outcome : Outcome} (h : (b.runTest tree target).result = .ok outcome) :
    (b.call tree target).told = .ok outcome.error ∧ outcome.name = target.name ∧
      outcome.passed = (!(b.call tree target).scene.context.failed && outcome.error.isNone) := by
  cases ht : (b.call tree target).told with
  | error f =>
    rw [runTest_of_untold ht] at h
    contradiction
  | ok error =>
    obtain ⟨duration,hr⟩ := runTest_of_told ht
    obtain rfl := Except.ok.inj (hr.symm.trans h)
    exact ⟨rfl,rfl,rfl⟩

/-- A trial leaves the host as the call left it, with the toggle of before. -/
@[simp] lemma runTest_host : (b.runTest tree target).bench.host =
    { (b.call tree target).scene.host with reports := b.host.reports } := by
  rcases runTest_cases tree b target with ⟨error,_,hr⟩ | ⟨f,_,hr⟩ <;> rw [hr] <;> rfl

@[simp] lemma runTest_channel : (b.runTest tree target).bench.channel = b.channel := by
  rcases runTest_cases tree b target with ⟨error,_,hr⟩ | ⟨f,_,hr⟩ <;> rw [hr] <;> rfl

@[simp] lemma runTest_records : (b.runTest tree target).records = (b.call tree target).records := by
  rcases runTest_cases tree b target with ⟨error,_,hr⟩ | ⟨f,_,hr⟩ <;> rw [hr] <;> rfl

@[simp] lemma runTest_shown : (b.runTest tree target).shown = (b.call tree target).events := by
  rcases runTest_cases tree b target with ⟨error,_,hr⟩ | ⟨f,_,hr⟩ <;> rw [hr] <;> rfl

lemma Fault.told_eq_ok {f : Fault} {line : String} : f.told = .ok line ↔
    f.ordinary = true ∧ ∃ text, f.text = .ok text ∧ line = f.kind ++ ": " ++ String.ofList text := by
  unfold Fault.told Fault.line
  by_cases ho : f.ordinary = true
  · cases f.text <;> simp [ho,Except.map,eq_comm]
  · simp [ho]

lemma Progress.told_eq_ok_none {p : Progress} : p.told = .ok none ↔ p.fault = none := by
  unfold Progress.told
  cases p.fault with
  | none => simp
  | some f => cases h : f.told <;> simp [Except.map,h]

lemma Progress.told_eq_ok_some {p : Progress} {line : String} :
    p.told = .ok (some line) ↔ ∃ f, p.fault = some f ∧ f.told = .ok line := by
  unfold Progress.told
  cases p.fault with
  | none => simp
  | some f => cases h : f.told <;> simp [Except.map,h]

/-- What an outcome tells of a fault that left the test: it is ordinary, and there are its kind and its
text. -/
lemma error_of_fault {outcome : Outcome} (h : (b.runTest tree target).result = .ok outcome)
    {f : Fault} (hf : (b.call tree target).fault = some f) : f.ordinary = true ∧
      ∃ text, f.text = .ok text ∧ outcome.error = some (f.kind ++ ": " ++ String.ofList text) := by
  obtain ⟨ht,_,_⟩ := told_of_outcome h
  cases he : outcome.error with
  | none =>
    rw [he,Progress.told_eq_ok_none,hf] at ht
    contradiction
  | some line =>
    rw [he,Progress.told_eq_ok_some] at ht
    obtain ⟨g,hg,hline⟩ := ht
    obtain rfl : f = g := Option.some.inj (hf.symm.trans hg)
    obtain ⟨ho,text,htext,rfl⟩ := Fault.told_eq_ok.mp hline
    exact ⟨ho,text,htext,rfl⟩

lemma error_eq_none_iff {outcome : Outcome} (h : (b.runTest tree target).result = .ok outcome) :
    outcome.error = none ↔ ¬∃ f, (b.call tree target).fault = some f ∧ f.ordinary = true := by
  constructor
  · rintro he ⟨f,hf,_⟩
    obtain ⟨_,text,_,hsome⟩ := error_of_fault h hf
    rw [he] at hsome
    contradiction
  · intro hnot
    obtain ⟨ht,_,_⟩ := told_of_outcome h
    cases hf : (b.call tree target).fault with
    | none =>
      rw [Progress.told,hf] at ht
      exact (Except.ok.inj ht).symm
    | some f => exact (hnot ⟨f,hf,(error_of_fault h hf).1⟩).elim

/-- A trial with an outcome reads the clock twice, and reports what left the test and the verdict. -/
lemma runTest_of_outcome {o : Outcome} (h : (b.runTest tree target).result = .ok o) :
    o.duration = .measured b.clock.lap ∧ (b.runTest tree target).bench.clock = b.clock.after 2 ∧
      (b.runTest tree target).report = b.escapeReport o.name (b.call tree target) ++
        [.logged (Bench.verdictRecord o.name o.passed b.clock.lap)] := by
  rcases runTest_cases tree b target with ⟨error,_,hr⟩ | ⟨f,_,hr⟩
  · rw [hr] at h ⊢
    obtain rfl := Except.ok.inj h
    exact ⟨rfl,rfl,rfl⟩
  · rw [hr] at h
    cases h

/-- A trial without an outcome reads the clock once, and reports nothing. -/
lemma runTest_of_fault {f : Fault} (h : (b.runTest tree target).result = .error f) :
    (b.runTest tree target).bench.clock = b.clock.after 1 ∧ (b.runTest tree target).report = [] := by
  rcases runTest_cases tree b target with ⟨error,_,hr⟩ | ⟨g,_,hr⟩
  · rw [hr] at h
    cases h
  · rw [hr]
    exact ⟨rfl,rfl⟩

end TestBench
