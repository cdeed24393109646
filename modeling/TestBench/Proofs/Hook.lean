import Mathlib.Tactic.Common
import TestBench.Import

/-! What asking a module can go wrong with. A fault of it is ordinary, or it comes of something that a script
has put in the place of a hook or of an origin. -/
namespace TestBench

lemma mem_of_find? {κ α : Type} [BEq κ] [LawfulBEq κ] {entries : List (κ × α)} {key : κ} {a : α}
    (h : (entries.find? fun e => e.1 == key).map Prod.snd = some a) : (key,a) ∈ entries := by
  obtain ⟨e,he,rfl⟩ := Option.map_eq_some_iff.mp h
  have hkey : e.1 = key := by simpa using List.find?_some he
  rw [← hkey]
  exact List.mem_of_find?_eq_some he

/-- What a module has by a name ends with a fault when it is asked for something: a hook when it is called,
with the imports that a tree gives it, and an origin when what is being made is noted in it. -/
def FileTree.Raises (t : FileTree) (e : String × Attribute) (f : Fault) : Prop :=
  (e.1 = Imports.hookName ∧
    ∃ depth m, e.2.answer (Imports.loadNamed (Imports.load t depth)) m = .error f) ∨
  (e.1 = Imports.originName ∧ e.2.note = .error f)

/-- Whatever is made of something, its faults are ordinary. -/
structure Attribute.Tame (a : Attribute) : Prop where
  answer : ∀ bring m f, a.answer bring m = .error f → f.ordinary = true
  note : ∀ f, a.note = .error f → f.ordinary = true

lemma FileTree.Raises.ordinary {t : FileTree} {e : String × Attribute} {f : Fault} (h : t.Raises e f)
    (he : e.2.Tame) : f.ordinary = true := by
  obtain ⟨-,depth,m,h⟩ | ⟨-,h⟩ := h
  · exact he.answer _ m f h
  · exact he.note f h

namespace Attribute

/-- What cannot be called is tame if it takes a note, or refuses it with an ordinary fault. -/
lemma tame_of_uncallable {a : Attribute} (hc : a.callable? Imports.hookName = none)
    (hn : a.note = .ok () ∨ ∃ f, a.note = .error f ∧ f.ordinary = true) : a.Tame where
  answer bring m f h := by
    rw [Attribute.answer,hc] at h
    obtain rfl := Except.error.inj h
    rfl
  note f h := by
    obtain hn | ⟨g,hg,ho⟩ := hn
    · cases hn.symm.trans h
    · obtain rfl := Except.error.inj (hg.symm.trans h)
      exact ho

lemma tame_submodule (name : ModuleName) : (submodule name).Tame :=
  tame_of_uncallable rfl (.inr ⟨_,rfl,rfl⟩)

lemma tame_origin (underWay : Bool) : (origin underWay).Tame := tame_of_uncallable rfl (.inl rfl)

lemma tame_portions : portions.Tame := tame_of_uncallable rfl (.inr ⟨_,rfl,rfl⟩)

lemma tame_thing (type : String) : (thing type).Tame := tame_of_uncallable rfl (.inr ⟨_,rfl,rfl⟩)

/-- A value whose truth can be told raises ordinary faults only. -/
lemma tame_value {v : Value} {b : Bool} (hv : v.truth = .ok b) : (value v).Tame := by
  refine tame_of_uncallable rfl ?_
  simp only [note,hv,bind,Except.bind]
  cases b with
  | false => exact .inl rfl
  | true => exact .inr ⟨_,rfl,rfl⟩

/-- What a module has from its type refuses to be called, or answers with something. -/
lemma tame_inherited (isType : Bool) (refusal : Option String) : (inherited isType refusal).Tame where
  answer bring m f h := by
    cases refusal with
    | none => cases h
    | some refusal =>
      obtain rfl := Except.error.inj h
      rfl
  note f h := by
    obtain rfl := Except.error.inj h
    rfl

/-- What a hook gives raises ordinary faults only. -/
lemma tame_of_answer {bring : String → Imports → Loading} {m : Imports} {hook a : Attribute}
    (h : hook.answer bring m = .ok a) : a.Tame := by
  unfold answer at h
  split at h
  · cases h
  · rename_i steps _
    cases hr : (runAllOnText bring steps m).1 with
    | error f =>
      rw [hr] at h
      cases h
    | ok _ =>
      rw [hr] at h
      obtain rfl := Except.ok.inj h
      split
      · exact tame_thing _
      · exact tame_value rfl
  · cases h
  · obtain rfl := Except.ok.inj h
    exact tame_thing _

lemma ordinary_of_listed {a : Attribute} {f : Fault} (h : a.listed = .error f) : f.ordinary = true := by
  unfold listed at h
  split at h
  · split at h
    · cases h
    · obtain rfl := Except.error.inj h
      rfl
  · obtain rfl := Except.error.inj h
    rfl

end Attribute

namespace Imports

variable {name : String} {a : Attribute}

lemma tame_of_inherited (h : inherited? name = some a) : a.Tame := by
  obtain ⟨e,-,rfl⟩ := Option.map_eq_some_iff.mp h
  exact Attribute.tame_inherited _ _

lemma tame_of_reserved (h : reserved? name = some a) : a.Tame := by
  unfold reserved? at h
  split at h
  · obtain rfl := Option.some.inj h
    exact Attribute.tame_inherited _ _
  · split at h
    · obtain rfl := Option.some.inj h
      exact Attribute.tame_value rfl
    · cases h

/-- What a module has before its script begins is tame, and its path too if there is one. -/
lemma tame_of_birthmarks {module : ModuleName} {hasScript : Bool} {path : Option Attribute}
    (hpath : ∀ a ∈ path, a.Tame) : ∀ e ∈ birthmarks module hasScript path, e.2.Tame := by
  intro e he
  rcases List.mem_append.mp he with he | he
  · rcases List.mem_append.mp he with he | he
    · rcases List.mem_cons.mp he with rfl | he
      · exact Attribute.tame_value rfl
      · rcases List.mem_cons.mp he with rfl | he
        · exact Attribute.tame_value rfl
        · rw [List.mem_singleton.mp he]
          exact Attribute.tame_origin hasScript
    · obtain ⟨a,ha,rfl⟩ := List.mem_map.mp he
      exact hpath a (Option.mem_toList.mp ha)
  · obtain ⟨n,-,rfl⟩ := List.mem_map.mp he
    exact Attribute.tame_value rfl

end Imports

namespace Module

variable {module : Module} {name : String} {a : Attribute} {f : Fault}

/-- Asking a module goes wrong for want of what is asked for, or as its hook does. -/
lemma ask_eq_error {bring : String → Imports → Loading} {m : Imports}
    (h : module.ask bring m name = .error f) :
    f = module.lacks name ∨
      ∃ hook, module.own? Imports.hookName = some hook ∧ hook.answer bring m = .error f := by
  unfold ask at h
  split at h
  · cases h
  · split at h
    · rename_i hook hhook
      exact .inr ⟨hook,hhook,h⟩
    · exact .inl (Except.error.inj h).symm

/-- What a module gives when it is asked has a name in it, or is tame. -/
lemma own_or_tame_of_ask {bring : String → Imports → Loading} {m : Imports}
    (h : module.ask bring m name = .ok a) : module.own? name = some a ∨ a.Tame := by
  unfold ask at h
  split at h
  · rename_i b hb
    obtain rfl := Except.ok.inj h
    unfold attribute? at hb
    obtain hb | ⟨-,hb⟩ := Option.or_eq_some_iff.mp hb
    · exact .inr (Imports.tame_of_reserved hb)
    · exact (Option.or_eq_some_iff.mp hb).imp_right fun hb => Imports.tame_of_inherited hb.2
  · split at h
    · exact .inr (Attribute.tame_of_answer h)
    · cases h

end Module

end TestBench
