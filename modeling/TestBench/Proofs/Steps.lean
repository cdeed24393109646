import Mathlib.Tactic.Common
import TestBench.Execution

/-! What a run of steps comes to. A list goes on behind a step unless a fault or a bail cuts it
short, and the steps inside a step begin in its own scene. -/
namespace TestBench

def Step.body : Step → List Step
  | .act _ _ => []
  | .preserved steps _ => steps
  | .attempt steps _ => steps

/-- The steps that calling something takes. -/
def Callable.steps : Callable → List Step
  | .test steps => steps
  | .other _ => []

def faultIn {α : Type} : Except Fault α → Option Fault
  | .error f => some f
  | .ok _ => none

/-- The list of a step goes on behind it. -/
def Step.GoesOn (tree : FileTree) (step : Step) (s : Scene) : Prop :=
  ∃ reply, (step.run tree s).result = .ok reply ∧ step.leaves (.ok reply) = false

def Step.recorded (tree : FileTree) (step : Step) (s : Scene) : Record :=
  .mk step (step.run tree s).result (step.run tree s).scene.snapshot (step.run tree s).inner

/-- A run of steps comes to a step in the scene in which that begins. -/
inductive Reaches (tree : FileTree) : List Step → Scene → Step → Scene → Prop
  | first {step steps s} : Reaches tree (step :: steps) s step s
  | inside {step steps s t u} (h : Reaches tree step.body s t u) :
      Reaches tree (step :: steps) s t u
  | behind {step steps s t u} (on : step.GoesOn tree s)
      (h : Reaches tree steps (step.run tree s).scene t u) : Reaches tree (step :: steps) s t u

variable {tree : FileTree}

@[simp] lemma run_act (a : Action) (bails : Bool) (s : Scene) :
    (Step.act a bails).run tree s = a.run tree s := by rw [Step.run]

@[simp] lemma run_preserved (steps : List Step) (bails : Bool) (s : Scene) :
    (Step.preserved steps bails).run tree s =
      (runAll tree steps s).preserving s.host.reports := by rw [Step.run]

@[simp] lemma run_attempt (steps : List Step) (bails : Bool) (s : Scene) :
    (Step.attempt steps bails).run tree s = (runAll tree steps s).surviving := by rw [Step.run]

@[simp] lemma runAll_nil (s : Scene) : runAll tree [] s = ⟨none,s,[],[]⟩ := by rw [runAll]

@[simp] lemma call_scene (callable : Callable) (s : Scene) :
    (callable.run tree s).scene = (runAll tree callable.steps s).scene := by
  cases callable with
  | test steps => rfl
  | other refusal => rw [Callable.steps,runAll_nil,Callable.run]

@[simp] lemma call_records (callable : Callable) (s : Scene) :
    (callable.run tree s).records = (runAll tree callable.steps s).records := by
  cases callable with
  | test steps => rfl
  | other refusal => rw [Callable.steps,runAll_nil,Callable.run]

lemma runAll_of_goesOn {step : Step} {s : Scene} (h : step.GoesOn tree s) (steps : List Step) :
    runAll tree (step :: steps) s =
      let rest := runAll tree steps (step.run tree s).scene
      ⟨rest.fault,rest.scene,(step.run tree s).events ++ rest.events,
        step.recorded tree s :: rest.records⟩ := by
  obtain ⟨reply,hr,hl⟩ := h
  rw [runAll]
  simp only [hr,hl,Step.recorded]
  rfl

lemma runAll_of_not_goesOn {step : Step} {s : Scene} (h : ¬step.GoesOn tree s)
    (steps : List Step) :
    runAll tree (step :: steps) s =
      ⟨faultIn (step.run tree s).result,(step.run tree s).scene,(step.run tree s).events,
        [step.recorded tree s]⟩ := by
  rw [runAll]
  cases hr : (step.run tree s).result with
  | error f => simp only [Step.recorded,faultIn,hr]
  | ok reply =>
    have hl : step.leaves (.ok reply) = true := by
      by_contra hl
      exact h ⟨reply,hr,by simpa using hl⟩
    simp only [Step.recorded,faultIn,hr,hl,if_true]

/-- Induction on a run: a statement holds of a list in a scene if it holds of what is inside the
first step and, where the list goes on, of what is behind it. -/
@[elab_as_elim]
theorem runAll_induction (tree : FileTree) {P : List Step → Scene → Prop} (nil : ∀ s, P [] s)
    (cons : ∀ step steps s, P step.body s →
      (step.GoesOn tree s → P steps (step.run tree s).scene) → P (step :: steps) s)
    (steps : List Step) (s : Scene) : P steps s := by
  refine Step.rec_1 (motive_1 := fun step => ∀ s, P step.body s)
    (motive_2 := fun steps => ∀ s, P steps s) ?_ ?_ ?_ nil ?_ steps s
  · intro _ _ s
    exact nil s
  · intro _ _ ih
    exact ih
  · intro _ _ ih
    exact ih
  · intro step steps hbody hrest s
    exact cons step steps s (hbody s) fun _ => hrest _

/-- A run of steps comes to a step of which something holds in its scene. -/
def ComesTo (tree : FileTree) (P : Step → Scene → Prop) (steps : List Step) (s : Scene) : Prop :=
  ∃ step t, Reaches tree steps s step t ∧ P step t

@[simp] lemma not_comesTo_nil (P : Step → Scene → Prop) (s : Scene) : ¬ComesTo tree P [] s := by
  rintro ⟨step,t,h,_⟩
  cases h

lemma comesTo_cons {P : Step → Scene → Prop} {step : Step} {steps : List Step} {s : Scene} :
    ComesTo tree P (step :: steps) s ↔ P step s ∨ ComesTo tree P step.body s ∨
      (step.GoesOn tree s ∧ ComesTo tree P steps (step.run tree s).scene) := by
  constructor
  · rintro ⟨t,u,h,hP⟩
    cases h with
    | first => exact .inl hP
    | inside h => exact .inr (.inl ⟨t,u,h,hP⟩)
    | behind on h => exact .inr (.inr ⟨on,t,u,h,hP⟩)
  · rintro (hP | ⟨t,u,h,hP⟩ | ⟨on,t,u,h,hP⟩)
    · exact ⟨step,s,.first,hP⟩
    · exact ⟨t,u,.inside h,hP⟩
    · exact ⟨t,u,.behind on h,hP⟩

/-- A relation of scenes that lasts through every action, and through setting the toggle back. -/
structure Lasting (tree : FileTree) (R : Scene → Scene → Prop) : Prop where
  refl : ∀ s, R s s
  trans : ∀ {s t u}, R s t → R t u → R s u
  act : ∀ a s, R s (Action.run tree s a).scene
  restore : ∀ {s t}, R s t → R s (t.restore s.host.reports)

namespace Lasting

lemma run_of_body {R : Scene → Scene → Prop} (hR : Lasting tree R) {step : Step} {s : Scene}
    (h : R s (runAll tree step.body s).scene) : R s (step.run tree s).scene := by
  cases step with
  | act a bails =>
    rw [run_act]
    exact hR.act a s
  | preserved steps bails =>
    rw [run_preserved]
    exact hR.restore h
  | attempt steps bails =>
    rw [run_attempt]
    exact h

theorem of_runAll {R : Scene → Scene → Prop} (hR : Lasting tree R) (steps : List Step) (s : Scene) :
    R s (runAll tree steps s).scene := by
  induction steps, s using runAll_induction tree with
  | nil s => exact hR.refl s
  | cons step steps s hbody hrest =>
    have hstep := hR.run_of_body hbody
    by_cases on : step.GoesOn tree s
    · rw [runAll_of_goesOn on]
      exact hR.trans hstep (hrest on)
    · rw [runAll_of_not_goesOn on]
      exact hstep

theorem of_run {R : Scene → Scene → Prop} (hR : Lasting tree R) (step : Step) (s : Scene) :
    R s (step.run tree s).scene := hR.run_of_body (hR.of_runAll step.body s)

end Lasting
end TestBench
