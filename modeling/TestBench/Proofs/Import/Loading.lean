import TestBench.Proofs.Computation
import TestBench.Proofs.Import.Rules

/-! Every import goes by the rules, whichever modules are asked for and whatever the files hold; and a module
that has been imported is known. -/
namespace TestBench

/-- What is found is what there is: a script is a file of the tree, and a fault is an ordinary one. -/
def Found.IsSound (t : FileTree) : Found → Prop
  | .script _ _ s => ∃ way, t.script? way = some s
  | .fault f => f.ordinary = true
  | .portions _ => True
  | .nothing => True

namespace Imports

variable {t : FileTree} {load : ModuleName → Imports → Loading}

lemma nameFault_ordinary {name : String} {f : Fault} (h : nameFault? name = some f) :
    f.ordinary = true := by
  unfold nameFault? at h
  split at h
  · obtain rfl := Option.some.inj h
    rfl
  · split at h
    · obtain rfl := Option.some.inj h
      rfl
    · contradiction

lemma malformedScript_ordinary (file : String) (malformation : Malformation) :
    (malformedScript file malformation).ordinary = true := by
  cases malformation <;> rfl

/-- A way of loading modules: it goes by the rules, down to some depth. -/
structure IsLoad (t : FileTree) (load : ModuleName → Imports → Loading) : Prop where
  depth : ∃ depth, load = Imports.load t depth
  loads : ∀ name m, Loads t m (load name m)

lemma loads_named (h : IsLoad t load) (name : String) (m : Imports) :
    Loads t m (loadNamed load name m) := by
  unfold loadNamed
  cases hf : nameFault? name with
  | none => exact h.loads _ m
  | some f => exact .refuse m (.inl (nameFault_ordinary hf))

lemma loads_all (h : IsLoad t load) (names : List String) (m : Imports) :
    Loads t m (loadAll load names m) := by
  induction names generalizing m with
  | nil => exact .still m
  | cons name names ih =>
    have hone := loads_named h name m
    rw [loadAll]
    cases hr : (loadNamed load name m).result with
    | ok _ => exact hone.next hr (ih _)
    | error f =>
      dsimp only
      rwa [← hr]

lemma isSound_findIn (t : FileTree) (directory key : String) : (findIn t directory key).IsSound t := by
  unfold findIn
  split
  · show Fault.ordinary _ = true
    rfl
  · split
    · trivial
    · dsimp only
      split
      · rename_i script hs
        exact ⟨_,hs⟩
      · split
        · rename_i script hs
          exact ⟨_,hs⟩
        · split <;> trivial

lemma isSound_find (t : FileTree) (key : String) (ds : List String) : (find t key ds).IsSound t := by
  induction ds with
  | nil => trivial
  | cons directory more ih =>
    have hd := isSound_findIn t directory key
    rw [find]
    generalize findIn t directory key = found at hd ⊢
    cases found with
    | script es file script => exact hd
    | fault f => exact hd
    | portions es =>
      dsimp only
      split
      · trivial
      · trivial
      · exact ih
    | nothing => exact ih

lemma script_of_find {key file : String} {ds : List String} {es : Option (List String)} {script : Script}
    (h : find t key ds = .script es file script) : ∃ way, t.script? way = some script := by
  have hs := isSound_find t key ds
  rwa [h] at hs

variable {m m' : Imports} {name : ModuleName}

/-- One state is another with modules learned anew that were known already, and have what they had. -/
structure Renews (t : FileTree) (m m' : Imports) : Prop where
  isKnown : ∀ n, m'.isKnown n = m.isKnown n
  loads : ∀ l, Loads t m' l → Loads t m l

lemma Renews.refl (t : FileTree) (m : Imports) : Renews t m m := ⟨fun _ => rfl,fun _ => id⟩

lemma Renews.renew (h : Renews t m m') (name : ModuleName) (ds : List String) :
    Renews t m (m'.renew name ds) := by
  unfold Imports.renew
  cases hm : m'.module? name with
  | none => exact h
  | some module =>
    have hk : m'.isKnown name = true := by simp [Imports.isKnown,hm]
    refine ⟨fun n => ?_,fun l hl => h.loads l (.learn name _ (fun e he => .inl ?_) hl)⟩
    · rw [isKnown_relearn hk,h.isKnown]
    · exact ⟨_,mem_of_find? hm,he⟩

section Directories

variable {child : String} {parent : ModuleName} {ds : List String} {f : Fault}

lemma lookUp_eq_ok {known : Module} {found : Found} (h : lookUp name known found m = .ok (ds,m')) :
    m' = m ∨ m' = m.renew name ds := by
  unfold lookUp at h
  split at h
  · cases h
  · obtain ⟨rfl,rfl⟩ := Prod.mk.inj (Except.ok.inj h)
    exact .inr rfl
  · exact .inl (Prod.mk.inj (Except.ok.inj h)).2.symm

/-- The directories of a package come from its path, or else are looked up in those above. -/
lemma directories_eq_ok (h : directories t load (child :: parent) m = .ok (ds,m')) :
    ∃ m₁, (m₁ = m ∨ ∃ es, directories t load parent m = .ok (es,m₁)) ∧
      (m' = m₁ ∨ m' = m₁.renew (child :: parent) ds) := by
  rw [directories] at h
  split at h
  · cases h
  · obtain ⟨path,-,h⟩ := bind_eq_ok.mp h
    split at h
    · dsimp only at h
      split at h
      · exact ⟨m,.inl rfl,lookUp_eq_ok h⟩
      · obtain ⟨⟨es,m₁⟩,ha,h⟩ := bind_eq_ok.mp h
        exact ⟨m₁,.inr ⟨es,ha⟩,lookUp_eq_ok h⟩
    · obtain ⟨es,-,h⟩ := bind_eq_ok.mp h
      exact ⟨m,.inl rfl,.inl (Prod.mk.inj (Except.ok.inj h)).2.symm⟩

/-- Looking up the directories of a package learns nothing but namespaces that are known already. -/
lemma renews_directories {name : ModuleName} (h : directories t load name m = .ok (ds,m')) :
    Renews t m m' := by
  induction name generalizing m ds m' with
  | nil =>
    obtain ⟨-,rfl⟩ := Prod.mk.inj (Except.ok.inj h)
    exact .refl t m
  | cons child parent ih =>
    obtain ⟨m₁,hm₁,hm'⟩ := directories_eq_ok h
    have habove : Renews t m m₁ := by
      obtain rfl | ⟨es,ha⟩ := hm₁
      · exact .refl t m₁
      · exact ih ha
    obtain rfl | rfl := hm'
    · exact habove
    · exact habove.renew _ _

/-- What asking a known module goes wrong with is ordinary, or comes of something that it has. -/
lemma canRaise_of_ask (h : IsLoad t load) {module : Module} {key : String}
    (hm : m.module? name = some module) (hf : module.ask (loadNamed load) m key = .error f) :
    t.CanRaise m f := by
  obtain ⟨depth,rfl⟩ := h.depth
  obtain rfl | ⟨hook,hhook,hf⟩ := Module.ask_eq_error hf
  · exact .inl rfl
  · exact .inr ⟨_,holds_of_own? hm hhook,.inl ⟨rfl,depth,m,hf⟩⟩

lemma lookUp_eq_error {known : Module} {found : Found} (hs : found.IsSound t)
    (h : lookUp name known found m = .error f) : f.ordinary = true := by
  unfold lookUp at h
  split at h
  · obtain rfl := Except.error.inj h
    exact hs
  · cases h
  · cases h

/-- What keeps a package from being looked into is ordinary, or comes of something that a module has. -/
lemma canRaise_of_directories (hl : IsLoad t load) (h : directories t load name m = .error f) :
    t.CanRaise m f := by
  induction name generalizing m with
  | nil => cases h
  | cons child parent ih =>
    rw [directories] at h
    split at h
    · obtain rfl := Except.error.inj h
      exact .inl rfl
    · rename_i module hm
      obtain h | ⟨path,-,h⟩ := bind_eq_error.mp h
      · exact canRaise_of_ask hl hm h
      · split at h
        · dsimp only at h
          split at h
          · exact .inl (lookUp_eq_error (isSound_find t child _) h)
          · obtain h | ⟨e,-,h⟩ := bind_eq_error.mp h
            · exact ih h
            · exact .inl (lookUp_eq_error (isSound_find t child _) h)
        · obtain h | ⟨es,-,h⟩ := bind_eq_error.mp h
          · exact .inl (Attribute.ordinary_of_listed h)
          · cases h

/-- What a package takes of what is found in it is that, and no other thing. -/
lemma kept_eq_ok {path origin : Attribute} {found found' : Found}
    (h : kept path origin found = .ok found') : found' = found := by
  unfold kept at h
  split at h
  · exact (Except.ok.inj h).symm
  · cases h
  · split at h
    · cases h
    · obtain ⟨-,-,rfl⟩ := map_eq_ok.mp h
      rfl
  · obtain ⟨-,-,rfl⟩ := map_eq_ok.mp h
    rfl

lemma kept_eq_error {path origin : Attribute} {found : Found} (hs : found.IsSound t)
    (h : kept path origin found = .error f) : f.ordinary = true ∨ origin.note = .error f := by
  unfold kept at h
  split at h
  · cases h
  · obtain rfl := Except.error.inj h
    exact .inl hs
  · split at h
    · obtain rfl := Except.error.inj h
      exact .inl rfl
    · exact .inr (map_eq_error.mp h)
  · exact .inr (map_eq_error.mp h)

/-- What is found in a package is found in some directories, and finding it renews namespaces only. -/
lemma findWithin_eq_ok {package : Module} {found : Found}
    (h : findWithin t load child parent package m = .ok (found,m')) :
    Renews t m m' ∧ ∃ ds, found = find t child ds := by
  unfold findWithin at h
  split at h
  · cases h
  · obtain ⟨origin,-,h⟩ := bind_eq_ok.mp h
    dsimp only at h
    split at h
    all_goals
      obtain ⟨⟨es,m₁⟩,hd,h⟩ := bind_eq_ok.mp h
      obtain ⟨found',hf,h⟩ := bind_eq_ok.mp h
      obtain ⟨rfl,rfl⟩ := Prod.mk.inj (Except.ok.inj h)
      refine ⟨?_,_,kept_eq_ok hf⟩
    · obtain ⟨-,rfl⟩ := Prod.mk.inj (Except.ok.inj hd)
      exact .refl t m
    · exact renews_directories hd

/-- What keeps a name from being found in a package is ordinary, or comes of something that a module has. -/
lemma canRaise_of_findWithin (hl : IsLoad t load) {package : Module} (hp : m.module? parent = some package)
    (h : findWithin t load child parent package m = .error f) : t.CanRaise m f := by
  unfold findWithin at h
  split at h
  · rename_i g hg
    obtain rfl := Except.error.inj h
    split
    · exact .inl rfl
    · exact canRaise_of_ask hl hp hg
  · obtain h | ⟨origin,ho,h⟩ := bind_eq_error.mp h
    · exact canRaise_of_ask hl hp h
    · -- The origin that takes a note is one that the package has, or it is tame.
      have of_kept {path : Attribute} {e : List String × Imports}
          (hf : (do return (← kept path origin (find t child e.1),e.2)) = .error f) :
          t.CanRaise m f := by
        obtain hf | ⟨found,-,hf⟩ := bind_eq_error.mp hf
        · obtain hf | hf := kept_eq_error (isSound_find t child _) hf
          · exact .inl hf
          · obtain ho | ho := Module.own_or_tame_of_ask ho
            · exact .inr ⟨_,holds_of_own? hp ho,.inr ⟨rfl,hf⟩⟩
            · exact .inl (ho.note f hf)
        · cases hf
      dsimp only at h
      split at h
      all_goals obtain hd | ⟨e,-,h⟩ := bind_eq_error.mp h
      · cases hd
      · exact of_kept h
      · exact canRaise_of_directories hl hd
      · exact of_kept h

end Directories

lemma loads_settle {l : Loading} (h : Loads t m l) (name : ModuleName) :
    Loads t m ⟨l.result,l.imports.settle name,l.begun⟩ := by
  unfold settle
  split
  · exact h
  · split
    · refine h.define _ _ fun a ha => .inr ?_
      rw [List.mem_singleton.mp ha]
      exact Attribute.tame_origin false
    · exact h

lemma isKnown_settle {n : ModuleName} : (m.settle name).isKnown n = m.isKnown n := by
  unfold settle
  split
  · rfl
  · split
    · exact isKnown_define
    · rfl

lemma loads_attach {l : Loading} (h : Loads t m l) (hl : l.result = .ok ()) (child : String)
    (parent : ModuleName) : Loads t m (attach child parent l) := by
  unfold attach
  split
  · exact h
  · split
    · rw [← List.append_nil l.begun]
      exact h.next hl (.refuse l.imports (.inl rfl))
    · refine h.define _ _ fun a ha => .inr ?_
      rw [List.mem_singleton.mp ha]
      exact Attribute.tame_submodule _

lemma isKnown_attach {l : Loading} {child : String} {parent n : ModuleName} :
    (attach child parent l).imports.isKnown n = l.imports.isKnown n := by
  unfold attach
  split
  · rfl
  · split
    · rfl
    · exact isKnown_define

lemma begun_attach {l : Loading} {child : String} {parent : ModuleName} :
    (attach child parent l).begun = l.begun := by
  unfold attach
  split
  · rfl
  · split <;> rfl

/-- A module has only what is tame before its script begins. -/
lemma tame_of_newModule {directories : Option (List String)} :
    ∀ e ∈ (newModule name directories).attributes, e.2.Tame := by
  refine tame_of_birthmarks fun a ha => ?_
  obtain ⟨ds,-,rfl⟩ := Option.map_eq_some_iff.mp ha
  exact Attribute.tame_value rfl

/-- A script that is run for a module goes by the rules of what it imports, and fails as they do or by its
own fault. -/
lemma runScript_cases (h : IsLoad t load) (name : ModuleName) (file : String)
    {way : List String} {script : Script} (hs : t.script? way = some script) (m : Imports) :
    Loads t (script.opened m) (runScript load name file script m) ∨
      ∃ l f, Loads t (script.opened m) l ∧ l.result = .ok () ∧ script.fault = some f ∧
        runScript load name file script m = ⟨.error f,l.imports,l.begun⟩ := by
  cases hm : script.malformation with
  | some malformation =>
    left
    have ho : script.opened m = m := by simp [Script.opened,Script.pops,hm]
    simp only [runScript,hm,ho]
    exact .refuse m (.inl (malformedScript_ordinary file malformation))
  | none =>
    have ho : script.opened m = if script.popsPath then m.popPath else m := by
      simp [Script.opened,Script.pops,hm]
    have hl := loads_all h script.imports (script.opened m)
    simp only [runScript,hm,← ho]
    cases hr : (loadAll load script.imports (script.opened m)).result with
    | error f => exact .inl (hl.of_result hr)
    | ok _ =>
      have hd := hl.define name script.attributes fun e he => .inl ⟨way,script,hs,he⟩
      rw [hr] at hd
      cases hf : script.fault with
      | none => exact .inl hd
      | some f => exact .inr ⟨_,f,hd,rfl,rfl,rfl⟩

lemma loads_make (h : IsLoad t load) {child : String} {parent : ModuleName}
    (ds : List String) (hn : m.isKnown (child :: parent) = false) :
    Loads t m (make load child parent (find t child ds) m) := by
  cases hf : find t child ds with
  | nothing => exact .refuse m (.inl rfl)
  | fault f =>
    have hs := isSound_find t child ds
    rw [hf] at hs
    exact .refuse m (.inl hs)
  | portions es =>
    refine .learn _ _ (fun a ha => .inr ?_) (loads_attach (.still _) rfl child parent)
    refine tame_of_birthmarks (fun a ha => ?_) a ha
    obtain rfl := Option.mem_some_iff.mp ha
    exact Attribute.tame_portions
  | script es file script =>
    obtain ⟨way,hs⟩ := script_of_find hf
    rw [make]
    obtain hl | ⟨l,f,hl,hr,hf,he⟩ := runScript_cases h (child :: parent) file hs
      (m.learn (child :: parent) (newModule (child :: parent) es))
    · split
      · rename_i f hr
        exact hl.fail _ _ tame_of_newModule hn hs hr
      · rename_i hr
        exact loads_attach (loads_settle (.make _ _ tame_of_newModule hn hs hl hr) _) rfl child parent
    · have hm := hl.raise (child :: parent) _ tame_of_newModule hn hs hr hf
      rw [he]
      exact hm

lemma loads_makeIn (h : IsLoad t load) {child : String} {parent : ModuleName}
    (hn : m.isKnown (child :: parent) = false) : Loads t m (makeIn t load child parent m) := by
  unfold makeIn
  cases hp : m.module? parent with
  | none => exact .refuse m (.inl rfl)
  | some package =>
    cases hw : findWithin t load child parent package m with
    | error f => simpa only [hw] using Loads.refuse m (canRaise_of_findWithin h hp hw)
    | ok e =>
      obtain ⟨hr,ds,hf⟩ := findWithin_eq_ok (show _ = Except.ok (e.1,e.2) from hw)
      simp only [hw,hf]
      exact hr.loads _ (loads_make h ds ((hr.isKnown _).trans hn))

lemma loads_loadWith (h : IsLoad t load) (name : ModuleName) (m : Imports) :
    Loads t m (loadWith t load name m) := by
  induction name with
  | nil => exact .still m
  | cons child parent ih =>
    rw [loadWith]
    by_cases hn : m.isKnown (child :: parent) = true
    · rw [if_pos hn]
      exact .still m
    · rw [if_neg hn]
      rw [Bool.not_eq_true] at hn
      by_cases ht : isTop parent = true
      · rw [if_pos ht]
        exact loads_make h _ hn
      · rw [if_neg ht]
        cases hr : (loadWith t load parent m).result with
        | error f =>
          simp only [hr]
          exact ih.of_result hr
        | ok _ =>
          simp only [hr]
          split
          · exact ih.of_result hr
          · rename_i hn
            exact ih.next hr (loads_makeIn h (by simpa using hn))

lemma IsLoad.loadWith (h : IsLoad t load) : IsLoad t (Imports.loadWith t load) where
  depth := by
    obtain ⟨depth,rfl⟩ := h.depth
    exact ⟨depth+1,rfl⟩
  loads := loads_loadWith h

end Imports
end TestBench
