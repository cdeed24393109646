import Mathlib.Data.List.Infix
import TestBench.Proofs.Import.Loading

/-! How often scripts are run. An import begins a script only for a module that is not known, and so for
each module at most once; and only for names that it was asked for by its own name or by a script. A script
that came to its end has made a module that stays known. -/
namespace TestBench

namespace Loads

variable {t : FileTree} {m : Imports} {l : Loading} {n : ModuleName}

lemma isKnown_before (h : Loads t m l) (hn : l.imports.isKnown n = false) : m.isKnown n = false := by
  rw [Bool.eq_false_iff] at hn ⊢
  exact fun hk => hn (h.isKnown hk)

lemma isKnown_before_learn {name : ModuleName} {module : Module}
    (hn : (m.learn name module).isKnown n = false) : n ≠ name ∧ m.isKnown n = false := by
  rw [Bool.eq_false_iff] at hn ⊢
  exact ⟨fun he => hn (Imports.isKnown_learn.mpr (.inl he)),
    fun hk => hn (Imports.isKnown_learn.mpr (.inr hk))⟩

/-- A script is begun only for a module that is not known. -/
theorem begun_unknown (h : Loads t m l) : ∀ b ∈ l.begun, m.isKnown b.name = false := by
  induction h with
  | still m => simp
  | refuse m hf => simp
  | learn name module ha h ih => exact fun b hb => (isKnown_before_learn (ih b hb)).2
  | define h name attributes ha ih => exact ih
  | next h hl h' ih ih' =>
    intro b hb
    exact (List.mem_append.mp hb).elim (ih b) fun hb => h.isKnown_before (ih' b hb)
  | make name module ha hn hs h hl ih
  | fail name module ha hn hs h hl ih
  | raise name module ha hn hs h hl hf ih =>
    intro b hb
    rcases List.mem_cons.mp hb with rfl | hb
    · exact hn
    · exact (isKnown_before_learn (Script.isKnown_opened.symm.trans (ih b hb))).2

/-- A script that a module's script has begun, if only in the end, was begun for another module. -/
lemma begun_ne {name : ModuleName} {module : Module} {script : Script}
    (h : Loads t (script.opened (m.learn name module)) l) : ∀ b ∈ l.begun, b.name ≠ name :=
  fun b hb => (isKnown_before_learn (Script.isKnown_opened.symm.trans (h.begun_unknown b hb))).1

/-- An import that goes well leaves a module for every script that it began. -/
theorem begun_known (h : Loads t m l) (hr : l.result = .ok ()) :
    ∀ b ∈ l.begun, l.imports.isKnown b.name = true := by
  induction h with
  | still m => simp
  | refuse m hf => contradiction
  | learn name module ha h ih => exact ih hr
  | define h name attributes ha ih => exact fun b hb => Imports.isKnown_define.trans (ih hr b hb)
  | next h hl h' ih ih' =>
    intro b hb
    exact (List.mem_append.mp hb).elim (fun hb => h'.isKnown (ih hl b hb)) (ih' hr b)
  | make name module ha hn hs h hl ih =>
    intro b hb
    rcases List.mem_cons.mp hb with rfl | hb
    · exact h.isKnown (Script.isKnown_opened.trans (Imports.isKnown_learn.mpr (.inl rfl)))
    · exact ih hl b hb
  | fail name module ha hn hs h hl ih => contradiction
  | raise name module ha hn hs h hl hf ih => contradiction

end Loads

/-- What a file asks to be imported, if it is a script. -/
def Node.imports : Node → List String
  | .directory => []
  | .file c => (c.script.getD .empty).imports

/-- What all the scripts of a tree ask to be imported. -/
def FileTree.imports (t : FileTree) : List String := t.entries.flatMap fun e => e.2.imports

lemma mem_imports_of_script {t : FileTree} {way : List String} {script : Script} {name : String}
    (hs : t.script? way = some script) (hn : name ∈ script.imports) : name ∈ t.imports := by
  unfold FileTree.script? FileTree.get? at hs
  split at hs
  · rename_i c hc
    obtain rfl := Option.some.inj hs
    split at hc
    · cases hc
    · obtain ⟨e,he,hnode⟩ := Option.map_eq_some_iff.mp hc
      refine List.mem_flatMap.mpr ⟨e,List.mem_of_find?_eq_some he,?_⟩
      rw [hnode]
      exact hn
  · contradiction

namespace Imports

/-- A module, or a package that it lies in, is asked for by a script. -/
def AskedFor (t : FileTree) (n : ModuleName) : Prop := ∃ name ∈ t.imports, n <:+ ModuleName.ofText name

/-- The modules that can be asked for when a name is imported: its own, those that a script asks for, and
the packages that they lie in. -/
def asked (t : FileTree) (name : String) : List ModuleName :=
  (name :: t.imports).flatMap fun s => (ModuleName.ofText s).tails

/-! What scripts come to their end. Each of the following goes along with the part of an import that it is
named for, and lists the modules whose scripts ended well in it. -/
section Completed

variable (t : FileTree) (load : ModuleName → Imports → Loading)
  (completed : ModuleName → Imports → List ModuleName)

def completedNamed (name : String) (m : Imports) : List ModuleName :=
  match nameFault? name with
  | some _ => []
  | none => completed (.ofText name) m

def completedAll : List String → Imports → List ModuleName
  | [], _ => []
  | name :: names, m =>
    let one := loadNamed load name m
    completedNamed completed name m ++ match one.result with
      | .error _ => []
      | .ok () => completedAll names one.imports

/-- The scripts that end well among those that a script imports. -/
def completedInside (script : Script) (m : Imports) : List ModuleName :=
  match script.malformation with
  | some _ => []
  | none => completedAll load completed script.imports (script.opened m)

def completedMake (child : String) (parent : ModuleName) (found : Found) (m : Imports) :
    List ModuleName :=
  let name := child :: parent
  match found with
  | .nothing => []
  | .fault _ => []
  | .portions _ => []
  | .script ds file script =>
    let m := m.learn name (newModule name ds)
    completedInside load completed script m ++ match (runScript load name file script m).result with
      | .error _ => []
      | .ok () => [name]

def completedIn (child : String) (parent : ModuleName) (m : Imports) : List ModuleName :=
  match m.module? parent with
  | none => []
  | some package =>
    match findWithin t load child parent package m with
    | .error _ => []
    | .ok (found,m) => completedMake load completed child parent found m

def completedWith : ModuleName → Imports → List ModuleName
  | [], _ => []
  | child :: parent, m =>
    if m.isKnown (child :: parent) then []
    else if isTop parent then completedMake load completed child parent (find t child m.searchPath) m
    else
      let above := loadWith t load parent m
      completedWith parent m ++ match above.result with
        | .error _ => []
        | .ok () =>
          if above.imports.isKnown (child :: parent) then []
          else completedIn t load completed child parent above.imports

end Completed

def completedUpTo (t : FileTree) : ℕ → ModuleName → Imports → List ModuleName
  | 0,_,_ => []
  | depth+1,name,m => completedWith t (load t depth) (completedUpTo t depth) name m

/-- The modules whose scripts come to their end while a name is imported. -/
def completed (t : FileTree) (name : String) (m : Imports) : List ModuleName :=
  completedNamed (completedUpTo t deepestImport) name m

/-- What is told of an import: its scripts are begun for certain names only, and those that came to their
end are the ones whose modules are known afterwards. -/
structure Told (P : ModuleName → Prop) (l : Loading) (done : List ModuleName) : Prop where
  named : ∀ b ∈ l.begun, P b.name
  mem_done : ∀ n, n ∈ done ↔ (∃ b ∈ l.begun, b.name = n) ∧ l.imports.isKnown n = true

namespace Told

variable {t : FileTree} {P Q : ModuleName → Prop} {m : Imports} {l l' : Loading}
  {done done' : List ModuleName} {name : ModuleName} {module : Module} {script : Script}

lemma of_still (result : Except Fault Unit) (m : Imports) : Told P ⟨result,m,[]⟩ [] where
  named := by simp
  mem_done := by simp

lemma mono (h : Told P l done) (hPQ : ∀ n, P n → Q n) : Told Q l done :=
  ⟨fun b hb => hPQ _ (h.named b hb),h.mem_done⟩

lemma attach (h : Told P l done) (child : String) (parent : ModuleName) :
    Told P (attach child parent l) done :=
  ⟨fun b hb => h.named b (begun_attach ▸ hb),
    fun n => by rw [h.mem_done,begun_attach,isKnown_attach]⟩

lemma moved (h : Told P l done) {result : Except Fault Unit} {m : Imports}
    (hm : ∀ n, m.isKnown n = l.imports.isKnown n) : Told P ⟨result,m,l.begun⟩ done :=
  ⟨h.named,fun n => by rw [h.mem_done,hm]⟩

/-- An import that goes well, and another one behind it. -/
lemma next (hload : Loads t m l) (hr : l.result = .ok ()) (hload' : Loads t l.imports l')
    (h : Told P l done) (h' : Told P l' done') :
    Told P ⟨l'.result,l'.imports,l.begun ++ l'.begun⟩ (done ++ done') where
  named b hb := (List.mem_append.mp hb).elim (h.named b) (h'.named b)
  mem_done n := by
    have hfirst : (∃ b ∈ l.begun, b.name = n) → (n ∈ done ∧ l'.imports.isKnown n = true) := by
      rintro ⟨b,hb,rfl⟩
      have hk := hload.begun_known hr b hb
      exact ⟨(h.mem_done _).mpr ⟨⟨b,hb,rfl⟩,hk⟩,hload'.isKnown hk⟩
    rw [List.mem_append,h'.mem_done]
    constructor
    · rintro (hn | ⟨⟨b,hb,he⟩,hk⟩)
      · obtain ⟨⟨b,hb,he⟩,-⟩ := (h.mem_done n).mp hn
        exact ⟨⟨b,List.mem_append_left _ hb,he⟩,(hfirst ⟨b,hb,he⟩).2⟩
      · exact ⟨⟨b,List.mem_append_right _ hb,he⟩,hk⟩
    · rintro ⟨⟨b,hb,he⟩,hk⟩
      rcases List.mem_append.mp hb with hb | hb
      · exact .inl (hfirst ⟨b,hb,he⟩).1
      · exact .inr ⟨⟨b,hb,he⟩,hk⟩

/-- A script that ends well. -/
lemma make (hload : Loads t (script.opened (m.learn name module)) l) (hP : P name)
    (h : Told P l done) {m' : Imports} (hm : ∀ n, m'.isKnown n = l.imports.isKnown n) :
    Told P ⟨.ok (),m',⟨name,script⟩ :: l.begun⟩ (done ++ [name]) where
  named := List.forall_mem_cons.mpr ⟨hP,h.named⟩
  mem_done n := by
    have hk : l.imports.isKnown name = true :=
      hload.isKnown (Script.isKnown_opened.trans (isKnown_learn.mpr (.inl rfl)))
    simp only [List.mem_append,List.mem_singleton,List.exists_mem_cons_iff,hm,h.mem_done]
    constructor
    · rintro (⟨hb,hk⟩ | rfl)
      · exact ⟨.inr hb,hk⟩
      · exact ⟨.inl rfl,hk⟩
    · rintro ⟨rfl | hb,hk⟩
      · exact .inr rfl
      · exact .inl ⟨hb,hk⟩

/-- A script that fails. Its module is forgotten, which is none of those whose scripts it began. -/
lemma fail (hload : Loads t (script.opened (m.learn name module)) l) (hP : P name)
    (h : Told P l done) (f : Fault) :
    Told P ⟨.error f,l.imports.forget name,⟨name,script⟩ :: l.begun⟩ done where
  named := List.forall_mem_cons.mpr ⟨hP,h.named⟩
  mem_done n := by
    simp only [List.exists_mem_cons_iff,isKnown_forget,h.mem_done]
    constructor
    · rintro ⟨⟨b,hb,rfl⟩,hk⟩
      exact ⟨.inr ⟨b,hb,rfl⟩,hload.begun_ne b hb,hk⟩
    · rintro ⟨he | hb,hn,hk⟩
      · exact absurd he.symm hn
      · exact ⟨hb,hk⟩

end Told

section Parts

variable {t : FileTree} {load : ModuleName → Imports → Loading}
  {completed : ModuleName → Imports → List ModuleName} {m : Imports}

/-- What a way of loading modules is to be: it goes by the rules, begins scripts only for the module that is
asked for and its packages or for what scripts ask for, and tells which of them come to their end. -/
structure Reliable (t : FileTree) (load : ModuleName → Imports → Loading)
    (completed : ModuleName → Imports → List ModuleName) : Prop where
  isLoad : IsLoad t load
  told : ∀ name m, Told (fun n => n <:+ name ∨ AskedFor t n) (load name m) (completed name m)

lemma Reliable.named (h : Reliable t load completed) (name : String) (m : Imports) :
    Told (fun n => n <:+ ModuleName.ofText name ∨ AskedFor t n) (loadNamed load name m)
      (completedNamed completed name m) := by
  unfold loadNamed completedNamed
  cases nameFault? name with
  | none => exact h.told _ m
  | some f => exact .of_still _ m

lemma Reliable.all (h : Reliable t load completed) (names : List String)
    (hnames : ∀ name ∈ names, name ∈ t.imports) (m : Imports) :
    Told (AskedFor t) (loadAll load names m) (completedAll load completed names m) := by
  induction names generalizing m with
  | nil => exact .of_still _ m
  | cons name names ih =>
    rw [List.forall_mem_cons] at hnames
    have hone := (h.named name m).mono (Q := AskedFor t) fun n hn => hn.elim (fun hn => ⟨name,hnames.1,hn⟩) id
    rw [loadAll,completedAll]
    cases hr : (loadNamed load name m).result with
    | error f =>
      rw [List.append_nil]
      exact hone.moved fun _ => rfl
    | ok _ =>
      exact .next (loads_named h.isLoad name m) hr (loads_all h.isLoad names _) hone (ih hnames.2 _)

lemma Reliable.inside (h : Reliable t load completed) {script : Script}
    (hnames : ∀ name ∈ script.imports, name ∈ t.imports) (name : ModuleName) (file : String)
    (m : Imports) :
    Told (AskedFor t) (runScript load name file script m) (completedInside load completed script m) := by
  unfold runScript completedInside
  cases hm : script.malformation with
  | some malformation => exact .of_still _ m
  | none =>
    have ho : script.opened m = if script.popsPath then m.popPath else m := by
      simp [Script.opened,Script.pops,hm]
    have hall := h.all script.imports hnames (script.opened m)
    simp only [← ho]
    split
    · exact hall.moved fun _ => rfl
    · split
      · exact hall.moved fun _ => isKnown_define
      · exact hall.moved fun _ => isKnown_define

/-- A script leaves a state, and begins scripts, as an import by the rules does, also if it fails by itself. -/
lemma loads_inside (h : IsLoad t load) (name : ModuleName) (file : String)
    {way : List String} {script : Script} (hs : t.script? way = some script) (m : Imports) :
    ∃ l, Loads t (script.opened m) l ∧ l.imports = (runScript load name file script m).imports ∧
      l.begun = (runScript load name file script m).begun := by
  obtain hl | ⟨l,f,hl,-,-,he⟩ := runScript_cases h name file hs m
  · exact ⟨_,hl,rfl,rfl⟩
  · exact ⟨l,hl,by rw [he],by rw [he]⟩

lemma Reliable.make (h : Reliable t load completed) (child : String) (parent : ModuleName)
    (ds : List String) (m : Imports) :
    Told (fun n => n = child :: parent ∨ AskedFor t n)
      (Imports.make load child parent (find t child ds) m)
      (completedMake load completed child parent (find t child ds) m) := by
  cases hf : find t child ds with
  | nothing => exact .of_still _ m
  | fault f => exact .of_still _ m
  | portions es => exact (Told.of_still _ _).attach child parent
  | script es file script =>
    obtain ⟨way,hway⟩ := script_of_find hf
    rw [Imports.make,completedMake]
    generalize hm : m.learn (child :: parent) (newModule (child :: parent) es) = m'
    have hinside := (h.inside (fun _ hn => mem_imports_of_script hway hn) (child :: parent) file m').mono
      (Q := fun n => n = child :: parent ∨ AskedFor t n) fun _ => .inr
    obtain ⟨l,hl,himports,hbegun⟩ := loads_inside h.isLoad (child :: parent) file hway m'
    rw [← hm] at hl
    have htold : Told (fun n => n = child :: parent ∨ AskedFor t n) l
        (completedInside load completed script m') :=
      ⟨fun b hb => hinside.named b (hbegun ▸ hb),fun n => by rw [hinside.mem_done,hbegun,himports]⟩
    cases hr : (runScript load (child :: parent) file script m').result with
    | error f =>
      simp only [← himports,← hbegun,List.append_nil]
      exact htold.fail hl (.inl rfl) f
    | ok _ =>
      simp only [← hbegun]
      exact (htold.make hl (.inl rfl) fun _ => by rw [isKnown_settle,himports]).attach child parent

lemma Reliable.makeIn (h : Reliable t load completed) (child : String) (parent : ModuleName)
    (m : Imports) : Told (fun n => n = child :: parent ∨ AskedFor t n)
      (Imports.makeIn t load child parent m) (completedIn t load completed child parent m) := by
  unfold Imports.makeIn completedIn
  cases m.module? parent with
  | none => exact .of_still _ m
  | some package =>
    cases hw : findWithin t load child parent package m with
    | error f =>
      simp only [hw]
      exact .of_still _ m
    | ok e =>
      obtain ⟨-,ds,hf⟩ := findWithin_eq_ok (show _ = Except.ok (e.1,e.2) from hw)
      simp only [hw,hf]
      exact h.make child parent ds _

lemma Reliable.loadWith (h : Reliable t load completed) :
    Reliable t (Imports.loadWith t load) (completedWith t load completed) where
  isLoad := h.isLoad.loadWith
  told name m := by
    induction name with
    | nil => exact .of_still _ m
    | cons child parent ih =>
      rw [Imports.loadWith,completedWith]
      by_cases hn : m.isKnown (child :: parent) = true
      · rw [if_pos hn,if_pos hn]
        exact .of_still _ m
      · rw [if_neg hn,if_neg hn]
        have hown : ∀ n, n = child :: parent ∨ AskedFor t n → n <:+ child :: parent ∨ AskedFor t n :=
          fun n => .imp_left fun he => he ▸ List.suffix_rfl
        by_cases ht : isTop parent = true
        · rw [if_pos ht,if_pos ht]
          exact (h.make child parent _ m).mono hown
        · rw [if_neg ht,if_neg ht]
          have habove := ih.mono (Q := fun n => n <:+ child :: parent ∨ AskedFor t n)
            fun n => .imp_left fun hs => hs.trans (List.suffix_cons child parent)
          cases hr : (Imports.loadWith t load parent m).result with
          | error f =>
            simp only [hr,List.append_nil]
            exact habove.moved fun _ => rfl
          | ok _ =>
            simp only [hr]
            split
            · rw [List.append_nil]
              exact habove.moved fun _ => rfl
            · rename_i hk
              exact .next (loads_loadWith h.isLoad parent m) hr (loads_makeIn h.isLoad (by simpa using hk))
                habove ((h.makeIn child parent _).mono hown)

end Parts

variable {t : FileTree} {name : String} {m : Imports}

end Imports
end TestBench
