import Mathlib.Tactic.Common
import TestBench.Expansion.Basic

/-! What the expansion of a template does besides giving a text. It assigns, in order, what its references
and their modifiers do, up to where it fails, and the environment afterwards has nothing else new. -/
namespace TestBench

/-- The environment after texts are set, one after the other. -/
def Environment.setAll (env : Environment) (sets : List (String × String)) : Environment :=
  sets.foldl (fun env e => env.set e.1 e.2) env

@[simp] lemma Environment.setAll_nil (env : Environment) : env.setAll [] = env := rfl

@[simp] lemma Environment.setAll_append (env : Environment) (sets sets' : List (String × String)) :
    env.setAll (sets ++ sets') = (env.setAll sets).setAll sets' := List.foldl_append

/-- What a reference itself assigns: its variable, if it is asked to and that has no text to use. -/
def Expanded.assigned (name : List Char) (use : Use) (value : Option (List Char))
    (modifier : List Char) : List (String × String) :=
  if use = .orAssign ∧ isAny value = false ∧ isStorable modifier = true then
    [(String.ofList name,String.ofList modifier)]
  else []

mutual

/-- The assignments that are made while a piece is expanded: those of its modifier, and its own if the
modifier expands. -/
def Piece.assignments : Piece → Environment → List (String × String)
  | .char _, _ => []
  | .broken, _ => []
  | .reference name indirect use modifier, env =>
    match Expanded.lookUp env name indirect with
    | none => []
    | some value =>
      Piece.allAssignments false modifier env ++
        match (Piece.expandAll false modifier env).text with
        | none => []
        | some text => Expanded.assigned name use value text

/-- The assignments that are made while pieces are expanded, up to the end of the first that fails. -/
def Piece.allAssignments (strict : Bool) : List Piece → Environment → List (String × String)
  | [], _ => []
  | piece :: pieces, env =>
    piece.assignments env ++
      match (piece.expand strict env).text with
      | none => []
      | some _ => Piece.allAssignments strict pieces (piece.expand strict env).environment

end

/-- The assignments that are made while a text is expanded, whether that fails or not. -/
def assignments (s : String) (env : Environment) : List (String × String) :=
  Piece.allAssignments true (Piece.readAll s.toList) env

/-- Induction over pieces: a reference has a property if the pieces of its modifier do. -/
@[elab_as_elim]
theorem Piece.pieces_induction {motive : Piece → Prop} (char : ∀ c, motive (.char c))
    (reference : ∀ name indirect use modifier, (∀ x ∈ modifier, motive x) →
      motive (.reference name indirect use modifier)) (broken : motive .broken) :
    ∀ piece, motive piece
  | .char c => char c
  | .reference name indirect use modifier => reference name indirect use modifier fun x _ =>
      pieces_induction char reference broken x
  | .broken => broken
termination_by piece => piece

namespace Expanded

/-- The modifier applied, the environment has what the reference assigns and nothing else new. -/
lemma apply_environment (strict : Bool) (env : Environment) (name : List Char) (use : Use)
    (value : Option (List Char)) (modifier : List Char) :
    (apply strict env name use value modifier).environment =
      env.setAll (assigned name use value modifier) := by
  cases use with
  | value => cases value <;> rfl
  | orAssign =>
    rw [apply,assigned]
    cases isAny value <;> cases isStorable modifier <;> rfl
  | _ => rfl

end Expanded

namespace Piece

lemma expandAll_environment_of {pieces : List Piece} (h : ∀ x ∈ pieces, ∀ strict env,
      (x.expand strict env).environment = env.setAll (x.assignments env)) (strict : Bool)
    (env : Environment) :
    (expandAll strict pieces env).environment = env.setAll (allAssignments strict pieces env) := by
  induction pieces generalizing env with
  | nil => rfl
  | cons piece pieces ih =>
    obtain ⟨hpiece,hpieces⟩ := List.forall_mem_cons.mp h
    rw [expandAll,allAssignments,Environment.setAll_append,← hpiece strict env]
    cases (piece.expand strict env).text with
    | none => rfl
    | some text => exact ih hpieces _

lemma expand_environment (piece : Piece) : ∀ strict env,
    (piece.expand strict env).environment = env.setAll (piece.assignments env) := by
  induction piece using pieces_induction with
  | char c => exact fun _ _ => rfl
  | broken => exact fun _ _ => rfl
  | reference name indirect use modifier ih =>
    intro strict env
    have hmodifier := expandAll_environment_of ih false env
    rw [expand,assignments]
    cases Expanded.lookUp env name indirect with
    | none => rfl
    | some value =>
      simp only [Environment.setAll_append,← hmodifier]
      cases (expandAll false modifier env).text with
      | none => rfl
      | some text => exact Expanded.apply_environment strict _ name use value text

end Piece

/-- Expanding a text assigns what its references do, and leaves the rest of the environment alone. -/
theorem expand_environment (s : String) (env : Environment) :
    (expand s env).environment = env.setAll (assignments s env) :=
  Piece.expandAll_environment_of (fun piece _ => piece.expand_environment) true env

end TestBench
