import TestBench.Config.Load
import TestBench.Proofs.Yaml.Faults

/-! What can keep a configuration from being read. Some of it is about values, has a message, and is
reported; the rest is not: a file that cannot be read, a text that is no document, a scalar that is not
what it is taken for, and a key that is no text. -/
namespace TestBench

open Yaml (faultKinds)

lemma text_of_say {kind : String} (h : kind ∈ faultKinds) (message : String) :
    ∃ cs, (Fault.say kind message).text = .ok cs := by
  simp only [faultKinds,List.mem_cons,List.not_mem_nil,or_false] at h
  rcases h with rfl | rfl | rfl | rfl | rfl | rfl | rfl <;> exact ⟨_,rfl⟩

namespace Config

/-- The faults of a configuration that are not reported, and where they come from. -/
inductive Unreported (tree : FileTree) (dir : List String) (path : Path) : LoadFault → Prop
  | file {f : FileFault} (h : tree.read dir path = .error f) (hf : f ≠ .embeddedNul) :
    Unreported tree dir path (.file f)
  | document {bytes : List UInt8} {f : Yaml.Fault} (h : tree.read dir path = .ok bytes)
    (hd : Yaml.load (.ofBytes bytes) = .error f)
    (hf : f.kind ∉ ["ValueError","UnicodeDecodeError"]) : Unreported tree dir path (.document f)
  | key {bytes : List UInt8} {document : Yaml.Document} {es : List (Value × Given)}
    (h : tree.read dir path = .ok bytes) (hd : Yaml.load (.ofBytes bytes) = .ok (some document))
    (hes : document.entries? = some es) (hkey : ∃ e ∈ es, ∀ k, e.1 ≠ .text k) :
    Unreported tree dir path .keyNotText

/-- The kinds of the faults that are not reported. -/
def unreportedKinds : List String := [
  "FileNotFoundError","NotADirectoryError","IsADirectoryError","OSError","ReaderError",
  "ScannerError","ParserError","ComposerError","ConstructorError","TypeError","KeyError",
  "IndexError","AttributeError","OverflowError","RecursionError"]

variable {tree : FileTree} {dir : List String} {path : Path} {env : Environment} {f : LoadFault}

lemma textEntries_eq_none {es : List (Value × Given)} :
    textEntries es = none ↔ ∃ e ∈ es, ∀ k, e.1 ≠ .text k := by
  induction es with
  | nil => simp [textEntries]
  | cons e es ih =>
    obtain ⟨v,g⟩ := e
    cases v with
    | text k => simp [textEntries,ih]
    | _ => exact iff_of_true rfl ⟨_,List.mem_cons_self,nofun⟩

lemma entriesOfBytes_eq_error {name : String} {bytes : List UInt8} :
    entriesOfBytes name bytes = .error f ↔
      (∃ e, Yaml.load (.ofBytes bytes) = .error e ∧ f = .document e) ∨
      (∃ document, Yaml.load (.ofBytes bytes) = .ok document ∧
        document.bind Yaml.Document.entries? = none ∧ f = .notMapping name) ∨
      ∃ document es, Yaml.load (.ofBytes bytes) = .ok (some document) ∧
        document.entries? = some es ∧ textEntries es = none ∧ f = .keyNotText := by
  unfold entriesOfBytes
  cases hd : Yaml.load (.ofBytes bytes) with
  | error e => simp [eq_comm]
  | ok document =>
    cases document with
    | none => simp [eq_comm]
    | some d =>
      cases hes : d.entries? with
      | none => simp [hes,eq_comm]
      | some es => cases ht : textEntries es <;> simp [hes,ht,eq_comm]

lemma resolvePath_yields (dir : Path) (entry : String) :
    Yields (· = .embeddedNul) (fun _ => True) (resolvePath dir entry) := by
  unfold resolvePath
  exact .ite trivial (.ite rfl trivial)

lemma resolved_eq_error {dir : Path} {c : Config} (h : c.resolved dir = .error f) :
    f = .embeddedNul := by
  have hpaths := Yields.mapM (resolvePath_yields dir) c.searchPaths
  have hall : Yields (· = .embeddedNul) (fun _ => True) (c.resolved dir) :=
    hpaths.bind fun _ _ => trivial
  exact hall.of_error h

/-- Behind its entries a configuration fails by a mistake or by a search path that is no path. -/
lemma ofBytes_eq_error {name : String} {dir : Path} {bytes : List UInt8}
    (h : (ofBytes name dir bytes env).1 = .error f) :
    entriesOfBytes name bytes = .error f ∨ (∃ ms, f = .invalid ms) ∨ f = .embeddedNul := by
  unfold ofBytes at h
  cases he : entriesOfBytes name bytes with
  | error g =>
    simp only [he] at h
    exact .inl (congrArg Except.error (Except.error.inj h))
  | ok entries =>
    simp only [he] at h
    rcases hj : judge entries env with ⟨_ | c,after⟩
    · simp only [hj] at h
      exact .inr (.inl ⟨_,(Except.error.inj h).symm⟩)
    · simp only [hj] at h
      exact .inr (.inr (resolved_eq_error h))

lemma load_of_entries {bytes : List UInt8} (h : tree.read dir path = .ok bytes)
    (he : entriesOfBytes path.text bytes = .error f) : (load tree dir path env).1 = .error f := by
  unfold load
  rw [h]
  dsimp only
  unfold ofBytes
  rw [he]

/-- What can keep a file from being read. -/
def readFaults : List FileFault := [.notFound,.notDirectory,.isDirectory,.nameTooLong,.embeddedNul]

lemma follow_yields (tree : FileTree) (way parts : List String) :
    Yields (· ∈ readFaults) (fun _ => True) (tree.follow way parts) := by
  induction parts generalizing way with
  | nil => exact trivial
  | cons part parts ih =>
    rw [FileTree.follow]
    split
    · exact (by decide : FileFault.notFound ∈ readFaults)
    · exact (by decide : FileFault.notDirectory ∈ readFaults)
    · exact .ite (by decide : FileFault.nameTooLong ∈ readFaults) (ih _)

lemma locate_yields (tree : FileTree) (dir : List String) (path : Path) :
    Yields (· ∈ readFaults) (fun _ => True) (tree.locate dir path) := by
  unfold FileTree.locate FileTree.unusable?
  split
  · rename_i h
    split_ifs at h <;> obtain rfl := Option.some.inj h
    · exact (by decide : FileFault.embeddedNul ∈ readFaults)
    · exact (by decide : FileFault.nameTooLong ∈ readFaults)
  · exact follow_yields tree _ _

lemma read_yields (tree : FileTree) (dir : List String) (path : Path) :
    Yields (· ∈ readFaults) (fun _ => True) (tree.read dir path) := by
  unfold FileTree.read FileTree.look
  refine Yields.bind (P := fun _ => True) ?_ fun node _ => ?_
  · refine (locate_yields tree dir path).bind fun way _ => ?_
    split
    · exact trivial
    · exact (by decide : FileFault.notFound ∈ readFaults)
  · split
    · exact (by decide : FileFault.isDirectory ∈ readFaults)
    · exact trivial

/-- A fault that loading ends with comes from the file, from its text, or from what the text says. -/
lemma load_eq_error (h : (load tree dir path env).1 = .error f) :
    (∃ g, tree.read dir path = .error g ∧ f = .file g) ∨
    ∃ bytes, tree.read dir path = .ok bytes ∧
      (entriesOfBytes path.text bytes = .error f ∨ (∃ ms, f = .invalid ms) ∨ f = .embeddedNul) := by
  unfold load at h
  cases hr : tree.read dir path with
  | error g =>
    simp only [hr] at h
    exact .inl ⟨g,rfl,(Except.error.inj h).symm⟩
  | ok bytes =>
    simp only [hr] at h
    exact .inr ⟨bytes,rfl,ofBytes_eq_error h⟩

lemma load_of_unread {g : FileFault} (h : tree.read dir path = .error g) :
    (load tree dir path env).1 = .error (.file g) := by
  simp only [load,h]

/-- A known fault of a document is reported if it is of one of two kinds. -/
lemma document_isReported {g : Yaml.Fault} (h : g.IsKnown) :
    (LoadFault.document g).isReported = true ↔ g.kind ∈ ["ValueError","UnicodeDecodeError"] := by
  have hall : ∀ kind ∈ Yaml.documentKinds,
      (["ValueError","UnicodeDecodeError","ValidationError"].contains kind = true ↔
        kind ∈ ["ValueError","UnicodeDecodeError"]) := by decide
  exact hall _ h.kind_mem

lemma isReported_of_unreported (h : Unreported tree dir path f) : f.isReported = false := by
  cases h with
  | file h hf =>
    rename_i g
    cases g with
    | embeddedNul => exact absurd rfl hf
    | _ => rfl
  | document h hd hf =>
    have hiff := document_isReported (Yaml.load_known hd)
    simpa using mt hiff.mp hf
  | key => rfl

lemma kind_of_unreported (h : Unreported tree dir path f) : f.kind ∈ unreportedKinds := by
  cases h with
  | file h hf =>
    have hall : ∀ g ∈ readFaults, g ≠ .embeddedNul → g.kind ∈ unreportedKinds := by decide
    exact hall _ ((read_yields tree dir path).of_error h) hf
  | document h hd hf =>
    have hall : ∀ kind ∈ Yaml.documentKinds, kind ∉ ["ValueError","UnicodeDecodeError"] →
        kind ∈ unreportedKinds := by decide
    exact hall _ (Yaml.load_known hd).kind_mem hf
  | key => decide

lemma load_of_unreported (h : Unreported tree dir path f) : (load tree dir path env).1 = .error f := by
  cases h with
  | file h _ => exact load_of_unread h
  | document h hd _ => exact load_of_entries h (entriesOfBytes_eq_error.mpr (.inl ⟨_,hd,rfl⟩))
  | key h hd hes hkey =>
    refine load_of_entries h (entriesOfBytes_eq_error.mpr (.inr (.inr ?_)))
    exact ⟨_,_,hd,hes,textEntries_eq_none.mpr hkey,rfl⟩

lemma unreported_of_load (h : (load tree dir path env).1 = .error f) (hf : f.isReported = false) :
    Unreported tree dir path f := by
  rcases load_eq_error h with ⟨g,hr,rfl⟩ | ⟨bytes,hr,he | ⟨ms,rfl⟩ | rfl⟩
  · refine .file hr ?_
    rintro rfl
    cases hf
  · rcases entriesOfBytes_eq_error.mp he with ⟨g,hd,rfl⟩ | ⟨d,hd,hes,rfl⟩ | ⟨d,es,hd,hes,ht,rfl⟩
    · refine .document hr hd fun hmem => ?_
      rw [(document_isReported (Yaml.load_known hd)).mpr hmem] at hf
      cases hf
    · cases hf
    · exact .key hr hd hes (textEntries_eq_none.mp ht)
  · cases hf
  · cases hf

/-- A fault that is reported says what is wrong. -/
lemma message_of_reported (h : (load tree dir path env).1 = .error f) (hf : f.isReported = true) :
    ∃ message, f.message? = some message := by
  rcases load_eq_error h with ⟨g,hr,rfl⟩ | ⟨bytes,hr,he | ⟨ms,rfl⟩ | rfl⟩
  · cases g with
    | embeddedNul => exact ⟨_,rfl⟩
    | _ => cases hf
  · rcases entriesOfBytes_eq_error.mp he with ⟨g,hd,rfl⟩ | ⟨d,hd,hes,rfl⟩ | ⟨d,es,hd,hes,ht,rfl⟩
    · have hknown := Yaml.load_known hd
      cases g with
      | value f =>
        obtain ⟨kind,hkind,message,rfl⟩ := hknown
        obtain ⟨cs,hcs⟩ := text_of_say hkind message
        simp [LoadFault.message?,hcs,Except.map,Except.toOption]
      | undecodable m => exact ⟨_,rfl⟩
      | _ => cases hf
    · exact ⟨_,rfl⟩
    · cases hf
  · exact ⟨_,rfl⟩
  · exact ⟨_,rfl⟩

end Config
end TestBench
