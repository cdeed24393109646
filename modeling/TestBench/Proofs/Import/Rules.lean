import TestBench.Proofs.Hook

/-! What importing does. It goes by a few rules: modules are learned, scripts are begun and end well or are
forgotten again, and imports follow each other. So what each rule keeps is kept whatever is imported,
whatever the scripts say and however it ends. -/
namespace TestBench

namespace Imports

variable {m : Imports} {name n : ModuleName}

/-- Something that a known module has, with the name that it goes by. -/
def Holds (m : Imports) (e : String × Attribute) : Prop := ∃ k ∈ m.modules, e ∈ k.2.attributes

variable {e : String × Attribute}

lemma holds_of_own? {module : Module} {key : String} {a : Attribute} (h : m.module? name = some module)
    (ha : module.own? key = some a) : m.Holds (key,a) := ⟨_,mem_of_find? h,mem_of_find? ha⟩

lemma isKnown_iff : m.isKnown name = true ↔ ∃ e ∈ m.modules, e.1 = name := by
  simp [isKnown,module?,List.find?_isSome]

lemma isKnown_learn {module : Module} :
    (m.learn name module).isKnown n = true ↔ n = name ∨ m.isKnown n = true := by
  rw [isKnown_iff,isKnown_iff]
  constructor
  · rintro ⟨e,he,rfl⟩
    rcases List.mem_append.mp he with he | he
    · exact .inr ⟨e,(List.mem_filter.mp he).1,rfl⟩
    · exact .inl (by rw [List.mem_singleton.mp he])
  · rintro (rfl | ⟨e,he,rfl⟩)
    · exact ⟨(n,module),by simp [learn],rfl⟩
    · by_cases hn : e.1 = name
      · exact ⟨(name,module),by simp [learn],hn.symm⟩
      · exact ⟨e,by simp [learn,he,hn],rfl⟩

/-- What is learned anew was known before. -/
lemma isKnown_relearn {module : Module} (hk : m.isKnown name = true) :
    (m.learn name module).isKnown n = m.isKnown n := by
  apply Bool.eq_iff_iff.mpr
  rw [isKnown_learn]
  exact ⟨fun h => h.elim (fun hn => hn ▸ hk) id,.inr⟩

lemma isKnown_forget : (m.forget name).isKnown n = true ↔ n ≠ name ∧ m.isKnown n = true := by
  rw [isKnown_iff,isKnown_iff]
  constructor
  · rintro ⟨e,he,rfl⟩
    obtain ⟨he,hn⟩ := List.mem_filter.mp he
    exact ⟨by simpa using hn,e,he,rfl⟩
  · rintro ⟨hn,e,he,rfl⟩
    exact ⟨e,List.mem_filter.mpr ⟨he,by simpa using hn⟩,rfl⟩

lemma isKnown_define {attributes : List (String × Attribute)} :
    (m.define name attributes).isKnown n = m.isKnown n := by
  unfold define
  cases hm : m.module? name with
  | none => rfl
  | some module =>
    exact isKnown_relearn (by simp [isKnown,hm])

end Imports

namespace Script

/-- What there is when a script that has been begun asks for its imports. -/
def opened (script : Script) (m : Imports) : Imports := if script.pops then m.popPath else m

lemma isKnown_opened {script : Script} {m : Imports} {n : ModuleName} :
    (script.opened m).isKnown n = m.isKnown n := by
  unfold opened
  split <;> rfl

end Script

/-- Something that a script of a tree defines, with its name. -/
def FileTree.Defines (t : FileTree) (e : String × Attribute) : Prop :=
  ∃ way script, t.script? way = some script ∧ e ∈ script.attributes

/-- Something that is tame, or that a module has or a script of a tree defines. -/
def FileTree.Explains (t : FileTree) (m : Imports) (e : String × Attribute) : Prop :=
  m.Holds e ∨ t.Defines e ∨ e.2.Tame

/-- A fault that asking the modules that are known can end with: an ordinary one, or one that comes of
something that they have. -/
def FileTree.CanRaise (t : FileTree) (m : Imports) (f : Fault) : Prop :=
  f.ordinary = true ∨ ∃ e, m.Holds e ∧ t.Raises e f

/-- A fault that is ordinary, or the fault of a script that was begun, or that comes of something that a
module had before or a script of the tree defines. -/
def FileTree.Traces (t : FileTree) (m : Imports) (begun : List Begun) (f : Fault) : Prop :=
  f.ordinary = true ∨ (∃ b ∈ begun, b.script.fault = some f) ∨
    ∃ e, (m.Holds e ∨ t.Defines e) ∧ t.Raises e f

section Sources

variable {t : FileTree} {m m' : Imports} {name : ModuleName} {module : Module} {e : String × Attribute}

/-- A fault is traced further back, over what explains all that the modules have by then. -/
lemma FileTree.Traces.back {begun begun' : List Begun} {f : Fault} (h : t.Traces m' begun f)
    (hm : ∀ e, m'.Holds e → t.Explains m e) (hb : begun ⊆ begun') : t.Traces m begun' f := by
  obtain ho | ⟨b,hmem,hf⟩ | ⟨e,hs | hs,hr⟩ := h
  · exact .inl ho
  · exact .inr (.inl ⟨b,hb hmem,hf⟩)
  · obtain hs | hs | hs := hm e hs
    · exact .inr (.inr ⟨e,.inl hs,hr⟩)
    · exact .inr (.inr ⟨e,.inr hs,hr⟩)
    · exact .inl (hr.ordinary hs)
  · exact .inr (.inr ⟨e,.inr hs,hr⟩)

end Sources

/-- The rules of importing. A module is learned before its script is begun. It is forgotten if the script
fails in the end, or by something that it imports. An import can also fail as something does that a module
has in the place of a hook or of its origin. -/
inductive Loads (t : FileTree) : Imports → Loading → Prop
  | still (m) : Loads t m ⟨.ok (),m,[]⟩
  | refuse (m) {f} (hf : t.CanRaise m f) : Loads t m ⟨.error f,m,[]⟩
  | learn {m l} (name module) (ha : ∀ e ∈ module.attributes, m.Holds e ∨ e.2.Tame)
      (h : Loads t (m.learn name module) l) : Loads t m l
  | define {m l} (h : Loads t m l) (name attributes)
      (ha : ∀ e ∈ attributes, t.Defines e ∨ e.2.Tame) :
      Loads t m ⟨l.result,l.imports.define name attributes,l.begun⟩
  | next {m l l'} (h : Loads t m l) (hl : l.result = .ok ()) (h' : Loads t l.imports l') :
      Loads t m ⟨l'.result,l'.imports,l.begun ++ l'.begun⟩
  | make {m l way script} (name module) (ha : ∀ e ∈ module.attributes, e.2.Tame)
      (hn : m.isKnown name = false) (hs : t.script? way = some script)
      (h : Loads t (script.opened (m.learn name module)) l) (hl : l.result = .ok ()) :
      Loads t m ⟨.ok (),l.imports,⟨name,script⟩ :: l.begun⟩
  | fail {m l way script f} (name module) (ha : ∀ e ∈ module.attributes, e.2.Tame)
      (hn : m.isKnown name = false) (hs : t.script? way = some script)
      (h : Loads t (script.opened (m.learn name module)) l) (hl : l.result = .error f) :
      Loads t m ⟨.error f,l.imports.forget name,⟨name,script⟩ :: l.begun⟩
  | raise {m l way script f} (name module) (ha : ∀ e ∈ module.attributes, e.2.Tame)
      (hn : m.isKnown name = false) (hs : t.script? way = some script)
      (h : Loads t (script.opened (m.learn name module)) l) (hl : l.result = .ok ())
      (hf : script.fault = some f) :
      Loads t m ⟨.error f,l.imports.forget name,⟨name,script⟩ :: l.begun⟩

namespace Loads

variable {t : FileTree} {m : Imports} {l : Loading} {n : ModuleName}

lemma of_result {r : Except Fault Unit} (h : Loads t m l) (hr : l.result = r) :
    Loads t m ⟨r,l.imports,l.begun⟩ := by
  rw [← hr]
  exact h

/-- A module that is known stays known. -/
theorem isKnown (h : Loads t m l) (hk : m.isKnown n = true) : l.imports.isKnown n = true := by
  -- A script that fails is forgotten, but it was begun for a module that was not known.
  have apart : ∀ {m : Imports} {name : ModuleName}, m.isKnown name = false → m.isKnown n = true →
      n ≠ name := by
    rintro m name hn hk rfl
    rw [hn] at hk
    contradiction
  induction h with
  | still m => exact hk
  | refuse m hf => exact hk
  | learn name module ha h ih => exact ih (Imports.isKnown_learn.mpr (.inr hk))
  | define h name attributes ha ih => exact Imports.isKnown_define.trans (ih hk)
  | next h hl h' ih ih' => exact ih' (ih hk)
  | make name module ha hn hs h hl ih =>
    exact ih (Script.isKnown_opened.trans (Imports.isKnown_learn.mpr (.inr hk)))
  | fail name module ha hn hs h hl ih
  | raise name module ha hn hs h hl hf ih =>
    refine Imports.isKnown_forget.mpr ⟨apart hn hk,ih ?_⟩
    exact Script.isKnown_opened.trans (Imports.isKnown_learn.mpr (.inr hk))

end Loads

end TestBench
