import Mathlib.Data.List.Forall2
import TestBench.Target

/-! Resolving targets in turn. Every attempt but the last one gives a target of its name, and the
attempts end with the first that gives none. -/
namespace TestBench

variable {tree : FileTree} {directories specs : List String} {spec : String} {m : Imports}

/-- The import that a target asks for, with new directories before the search path. -/
def importFor (tree : FileTree) (directories : List String) (spec : String) (m : Imports) : Loading :=
  { m with searchPath := newDirectories directories m.searchPath ++ m.searchPath }.importModule tree
    (splitTarget spec).1

/-- What an import leaves when the new directories are taken away again. -/
def afterImport (tree : FileTree) (directories : List String) (spec : String) (m : Imports) :
    Imports :=
  let after := (importFor tree directories spec m).imports
  { after with searchPath :=
      withoutDirectories (newDirectories directories m.searchPath) after.searchPath }

lemma resolve_of_malformed (h : isTarget spec = false) :
    resolve tree directories spec m = ⟨.error (.malformed spec),m,[]⟩ := by
  simp [resolve,h]

lemma resolve_of_unimportable {f : Fault} (ht : isTarget spec = true)
    (h : (importFor tree directories spec m).result = .error f) :
    resolve tree directories spec m = ⟨.error (importFault spec (splitTarget spec).1 f),
      afterImport tree directories spec m,(importFor tree directories spec m).begun⟩ := by
  unfold importFor at h
  simp [resolve,afterImport,importFor,ht,h]

lemma resolve_of_imported (ht : isTarget spec = true)
    (h : (importFor tree directories spec m).result = .ok ()) :
    resolve tree directories spec m =
      ⟨pick tree spec (splitTarget spec).1 (splitTarget spec).2 (afterImport tree directories spec m),
        afterImport tree directories spec m,(importFor tree directories spec m).begun⟩ := by
  unfold importFor at h
  simp [resolve,afterImport,importFor,ht,h]

lemma pick_name {module function : String} {found : Target × Attribute}
    (h : pick tree spec module function m = .ok found) : found.1.name = spec := by
  unfold pick at h
  cases ha : m.ask tree (.ofText module) function with
  | error f =>
    rw [ha] at h
    contradiction
  | ok a =>
    by_cases hn : a.isNone = true
    · simp [ha,hn] at h
    · cases hc : a.callable? function with
      | none => simp [ha,hn,hc] at h
      | some callable =>
        simp only [ha,hn,hc] at h
        rw [← Except.ok.inj h]

/-- A target has the name by which it was asked for. -/
lemma resolve_name {found : Target × Attribute}
    (h : (resolve tree directories spec m).result = .ok found) : found.1.name = spec := by
  by_cases ht : isTarget spec = true
  · cases hi : (importFor tree directories spec m).result with
    | error f =>
      rw [resolve_of_unimportable ht hi] at h
      contradiction
    | ok _ =>
      rw [resolve_of_imported ht hi] at h
      exact pick_name h
  · rw [resolve_of_malformed (by simpa using ht)] at h
    contradiction

lemma resolveAll_of_target {found : Target × Attribute}
    (h : (resolve tree directories spec m).result = .ok found) :
    resolveAll tree directories (spec :: specs) m =
      let rest := resolveAll tree directories specs (resolve tree directories spec m).imports
      ⟨rest.result.map (found.1 :: ·),rest.imports,
        resolve tree directories spec m :: rest.attempts⟩ := by
  simp only [resolveAll,h]

lemma resolveAll_of_fault {f : ResolveFault}
    (h : (resolve tree directories spec m).result = .error f) :
    resolveAll tree directories (spec :: specs) m =
      ⟨.error f,(resolve tree directories spec m).imports,[resolve tree directories spec m]⟩ := by
  simp only [resolveAll,h]

/-- Targets that are all resolved have the names asked for, and an attempt for each. -/
theorem resolveAll_eq_ok {targets : List Target}
    (h : (resolveAll tree directories specs m).result = .ok targets) :
    targets.map Target.name = specs ∧
      List.Forall₂ (fun a t => a.result.map Prod.fst = .ok t)
        (resolveAll tree directories specs m).attempts targets := by
  induction specs generalizing m targets with
  | nil =>
    obtain rfl := Except.ok.inj h
    exact ⟨rfl,.nil⟩
  | cons spec specs ih =>
    cases hr : (resolve tree directories spec m).result with
    | error f =>
      rw [resolveAll_of_fault hr] at h
      contradiction
    | ok found =>
      rw [resolveAll_of_target hr] at h ⊢
      cases hrest : (resolveAll tree directories specs
          (resolve tree directories spec m).imports).result with
      | error f =>
        simp [hrest,Except.map] at h
      | ok rest =>
        simp only [hrest,Except.map,Except.ok.injEq] at h
        subst h
        obtain ⟨hnames,hattempts⟩ := ih hrest
        refine ⟨?_,.cons (by rw [hr]; rfl) hattempts⟩
        rw [List.map_cons,resolve_name hr,hnames]

lemma no_fault_of_targets {attempts : List Resolved} {targets : List Target}
    (h : List.Forall₂ (fun a t => a.result.map Prod.fst = .ok t) attempts targets) :
    ∀ a ∈ attempts, ∀ f, a.result ≠ .error f := by
  induction h with
  | nil => simp
  | cons ht _ ih =>
    refine List.forall_mem_cons.mpr ⟨?_,ih⟩
    intro f hf
    rw [hf] at ht
    cases ht

/-- Resolving fails as an attempt fails. -/
theorem resolveAll_eq_error {f : ResolveFault} :
    (resolveAll tree directories specs m).result = .error f ↔
      ∃ a ∈ (resolveAll tree directories specs m).attempts, a.result = .error f := by
  induction specs generalizing m with
  | nil => simp [resolveAll]
  | cons spec specs ih =>
    cases hr : (resolve tree directories spec m).result with
    | error g =>
      rw [resolveAll_of_fault hr]
      simp [hr]
    | ok found =>
      rw [resolveAll_of_target hr]
      have h := ih (m := (resolve tree directories spec m).imports)
      simp only [List.mem_cons,exists_eq_or_imp,hr,reduceCtorEq,false_or,← h]
      cases (resolveAll tree directories specs (resolve tree directories spec m).imports).result <;>
        simp [Except.map]

/-- Resolving that fails splits at the first target that is not resolved. Those before it are, and none
behind it is attempted. -/
theorem resolveAll_splits {f : ResolveFault}
    (h : (resolveAll tree directories specs m).result = .error f) :
    ∃ front bad behind targets, specs = front ++ bad :: behind ∧
      (resolveAll tree directories front m).result = .ok targets ∧
      (resolve tree directories bad (resolveAll tree directories front m).imports).result = .error f ∧
      (resolveAll tree directories specs m).attempts =
        (resolveAll tree directories front m).attempts ++
          [resolve tree directories bad (resolveAll tree directories front m).imports] := by
  induction specs generalizing m with
  | nil => cases h
  | cons spec specs ih =>
    cases hr : (resolve tree directories spec m).result with
    | error g =>
      rw [resolveAll_of_fault hr] at h ⊢
      obtain rfl := Except.error.inj h
      exact ⟨[],spec,specs,[],rfl,rfl,hr,rfl⟩
    | ok found =>
      rw [resolveAll_of_target hr] at h ⊢
      have hrest : (resolveAll tree directories specs
          (resolve tree directories spec m).imports).result = .error f := by
        cases hs : (resolveAll tree directories specs
            (resolve tree directories spec m).imports).result with
        | ok targets => simp [hs,Except.map] at h
        | error g => simpa [hs,Except.map] using h
      obtain ⟨front,bad,behind,targets,rfl,hfront,hbad,hattempts⟩ := ih hrest
      refine ⟨spec :: front,bad,behind,found.1 :: targets,rfl,?_,?_,?_⟩
      · rw [resolveAll_of_target hr]
        simp [hfront,Except.map]
      · rw [resolveAll_of_target hr]
        exact hbad
      · rw [resolveAll_of_target hr]
        simp [hattempts]

end TestBench
