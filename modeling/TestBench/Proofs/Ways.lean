import TestBench.Proofs.FileTree

/-! Where paths lead in a tree of files. A path leads on from a directory that it has reached, for looking at
things as for making them. Making directories adds nothing but directories, and a new file or directory leaves
every path that led to a directory where it led. -/
namespace TestBench

namespace Path

/-- Where parts lead from the end of a way, by their text alone. -/
def lead (way parts : List String) : List String := parts.foldl stepTo way

/-- A path with one part more. -/
def child (p : Path) (name : String) : Path := ⟨p.anchor,p.parts ++ [name]⟩

variable {p : Path} {name name' : String}

@[simp] lemma child_parts : (p.child name).parts = p.parts ++ [name] := rfl

lemma stepTo_of_ne (way : List String) (h : name ≠ "..") : stepTo way name = way ++ [name] := if_neg h

lemma within_name (h : ofText name = ⟨.here,[name]⟩) : p.within (ofText name) = p.child name := by
  rw [within,h]
  rfl

lemma hasNul_child : (p.child name).hasNul = (p.hasNul || name.toList.contains '\x00') := by
  simp [hasNul,child]

/-- The path of something in a directory is a text of the directory's own with the name behind it. -/
lemma child_text (p : Path) : ∃ front : String, ∀ name, (p.child name).text = front ++ name := by
  have hparts : ∃ front : String, ∀ name, "/".intercalate (p.parts ++ [name]) = front ++ name := by
    by_cases hp : p.parts = []
    · exact ⟨"",fun name => by simp [hp]⟩
    · refine ⟨"/".intercalate p.parts ++ "/",fun name => ?_⟩
      rw [String.intercalate_append_of_ne_nil hp (List.cons_ne_nil name []),String.intercalate_singleton]
  obtain ⟨front,hfront⟩ := hparts
  refine ⟨Anchor.text p.anchor ++ front,fun name => ?_⟩
  rw [text,if_neg (by simp [child]),child,hfront,String.append_assoc]

end Path

namespace FileTree

variable {t t' t'' : FileTree} {way w dir parts : List String} {p : Path} {name name' : String}

lemma unusable?_eq_none : unusable? p = none ↔
    p.hasNul = false ∧ p.text.utf8ByteSize ≤ longestPath := by
  unfold unusable?
  split
  · simp_all
  · split
    · rename_i h
      simp [Nat.not_le.mpr h]
    · simp_all

/-- A path is no less usable with a shorter name at its end. -/
lemma unusable?_child_of_le (h : unusable? (p.child name) = none)
    (hnul : name'.toList.contains '\x00' = false)
    (hle : name'.utf8ByteSize ≤ name.utf8ByteSize) : unusable? (p.child name') = none := by
  rw [unusable?_eq_none] at h ⊢
  obtain ⟨hp,hlong⟩ := h
  obtain ⟨front,hfront⟩ := p.child_text
  rw [Path.hasNul_child,Bool.or_eq_false_iff] at hp ⊢
  rw [hfront,String.utf8ByteSize_append] at hlong ⊢
  exact ⟨⟨hp.1,hnul⟩,by omega⟩

/-- All that a tree holds is there in another one as it was. -/
def Keeps (t t' : FileTree) : Prop := ∀ way node, t.get? way = some node → t'.get? way = some node

lemma Keeps.refl (t : FileTree) : t.Keeps t := fun _ _ h => h

lemma Keeps.trans (h : t.Keeps t') (h' : t'.Keeps t'') : t.Keeps t'' :=
  fun way node hway => h' way node (h way node hway)

lemma Keeps.put (h : t.get? way = none) (node : Node) : t.Keeps (t.put way node) := by
  intro other node' hother
  rw [get?_put_of_ne,hother]
  rintro rfl
  rw [h] at hother
  cases hother

/-- A tree that differs from another one by new directories only. -/
structure MakesRoom (t t' : FileTree) : Prop where
  keeps : t.Keeps t'
  file : ∀ way c, t'.get? way = some (.file c) → t.get? way = some (.file c)

lemma MakesRoom.refl (t : FileTree) : t.MakesRoom t := ⟨.refl t,fun _ _ h => h⟩

lemma MakesRoom.trans (h : t.MakesRoom t') (h' : t'.MakesRoom t'') : t.MakesRoom t'' :=
  ⟨h.keeps.trans h'.keeps,fun way c hway => h.file way c (h'.file way c hway)⟩

lemma MakesRoom.put (h : t.get? way = none) : t.MakesRoom (t.put way .directory) where
  keeps := .put h _
  file other c hother := by
    by_cases he : other = way
    · subst he
      rw [get?_put_same _ t (ne_nil_of_missing h)] at hother
      cases hother
    · rwa [get?_put_of_ne _ t he] at hother

lemma makesRoom_lay (t : FileTree) (made : Bool) (way parts : List String) :
    t.MakesRoom (t.lay made way parts).2 := by
  induction parts generalizing t made way with
  | nil => exact .refl t
  | cons part parts ih =>
    rw [lay]
    by_cases hlong : longestName < part.utf8ByteSize
    · rw [if_pos hlong]
      exact .refl t
    · rw [if_neg hlong]
      by_cases hup : part = ".."
      · rw [if_pos hup]
        exact ih t made way.dropLast
      · rw [if_neg hup]
        cases hnode : t.get? (way ++ [part]) with
        | none => exact (MakesRoom.put hnode).trans (ih _ true _)
        | some node =>
          cases node with
          | directory => exact ih t made _
          | file c => exact .refl t

theorem makesRoom_ensure (t : FileTree) (dir : List String) (p : Path) :
    t.MakesRoom (t.ensure dir p).2 := by
  unfold ensure
  split
  · exact .refl t
  · split
    · exact .refl t
    · exact makesRoom_lay t _ _ _

/-- What it takes to follow a part. -/
lemma follow_cons_eq_ok {part : String} : t.follow way (part :: parts) = .ok w ↔
    t.get? way = some .directory ∧ part.utf8ByteSize ≤ longestName ∧
      t.follow (Path.stepTo way part) parts = .ok w := by
  rw [follow]
  cases t.get? way with
  | none => simp
  | some node =>
    cases node with
    | file c => simp
    | directory =>
      by_cases hlong : longestName < part.utf8ByteSize
      · simp [hlong,Nat.not_le.mpr hlong]
      · simp [hlong,Nat.not_lt.mp hlong,Path.stepTo]

lemma follow_append (way parts more : List String) : t.follow way (parts ++ more) =
    match t.follow way parts with
    | .ok w => t.follow w more
    | .error f => .error f := by
  induction parts generalizing way with
  | nil => rfl
  | cons part parts ih =>
    rw [List.cons_append,follow,follow]
    cases t.get? way with
    | none => rfl
    | some node =>
      cases node with
      | file c => rfl
      | directory =>
        dsimp only
        split
        · rfl
        · exact ih _

/-- Parts lead from the end of a way to a directory. -/
structure Enters (t : FileTree) (way parts w : List String) : Prop where
  follow : t.follow way parts = .ok w
  directory : t.get? w = some .directory

namespace Enters

lemma eq_lead (h : t.Enters way parts w) : w = Path.lead way parts := by
  obtain ⟨hf,-⟩ := h
  induction parts generalizing way with
  | nil => exact (Except.ok.inj hf).symm
  | cons part parts ih => exact ih (follow_cons_eq_ok.mp hf).2.2

lemma start (h : t.Enters way parts w) : t.get? way = some .directory := by
  cases parts with
  | nil => exact Except.ok.inj h.follow ▸ h.directory
  | cons part parts => exact (follow_cons_eq_ok.mp h.follow).1

lemma of_cons {part : String} (h : t.Enters way (part :: parts) w) :
    part.utf8ByteSize ≤ longestName ∧ t.Enters (Path.stepTo way part) parts w :=
  have hf := (follow_cons_eq_ok.mp h.follow).2
  ⟨hf.1,hf.2,h.directory⟩

lemma keeps (hk : t.Keeps t') (h : t.Enters way parts w) : t'.Enters way parts w := by
  refine ⟨?_,hk _ _ h.directory⟩
  obtain ⟨hf,-⟩ := h
  induction parts generalizing way with
  | nil => exact hf
  | cons part parts ih =>
    obtain ⟨hway,hshort,hf⟩ := follow_cons_eq_ok.mp hf
    exact follow_cons_eq_ok.mpr ⟨hk _ _ hway,hshort,ih hf⟩

/-- Where a directory is reached, another one in it can be. -/
lemma snoc (h : t.Enters way parts w) (hup : name ≠ "..") (hshort : name.utf8ByteSize ≤ longestName)
    (hd : t.get? (w ++ [name]) = some .directory) : t.Enters way (parts ++ [name]) (w ++ [name]) := by
  refine ⟨?_,hd⟩
  rw [follow_append,h.follow]
  exact follow_cons_eq_ok.mpr ⟨h.directory,hshort,congrArg Except.ok (Path.stepTo_of_ne w hup)⟩

/-- Directories that are there already need not be made. -/
lemma lay_append (h : t.Enters way parts w) (made : Bool) (more : List String) :
    t.lay made way (parts ++ more) = t.lay made w more := by
  induction parts generalizing way with
  | nil =>
    obtain rfl := Except.ok.inj h.follow
    rfl
  | cons part parts ih =>
    obtain ⟨hshort,hrest⟩ := h.of_cons
    rw [List.cons_append,lay,if_neg (Nat.not_lt.mpr hshort),← ih hrest]
    by_cases hup : part = ".."
    · rw [if_pos hup,Path.stepTo,if_pos hup]
    · have hnext := hrest.start
      rw [Path.stepTo_of_ne way hup] at hnext ⊢
      rw [if_neg hup,hnext]

lemma missing_append (h : t.Enters way parts w) (more : List String) :
    t.missing way (parts ++ more) = t.missing w more := by
  induction parts generalizing way with
  | nil =>
    obtain rfl := Except.ok.inj h.follow
    rfl
  | cons part parts ih =>
    obtain ⟨hshort,hrest⟩ := h.of_cons
    rw [List.cons_append,missing,if_neg (Nat.not_lt.mpr hshort),← ih hrest]
    by_cases hup : part = ".."
    · rw [if_pos hup,Path.stepTo,if_pos hup]
    · have hnext := hrest.start
      rw [Path.stepTo_of_ne way hup] at hnext ⊢
      rw [if_neg hup,hnext]

end Enters

@[simp] lemma base_child : base dir (p.child name) = base dir p := rfl

/-- A name that can be given to something in a directory. -/
structure Fits (name : String) : Prop where
  not_up : name ≠ ".."
  short : name.utf8ByteSize ≤ longestName

/-- A path leads to something in a directory exactly if it can be used and leads to the directory. -/
lemma locate_child_eq_ok (hname : Fits name) : t.locate dir (p.child name) = .ok way ↔
    unusable? (p.child name) = none ∧
      ∃ w, t.Enters (base dir p) p.parts w ∧ way = w ++ [name] := by
  unfold locate
  cases unusable? (p.child name) with
  | some f => simp
  | none =>
    dsimp only
    rw [base_child,Path.child_parts,follow_append]
    cases hf : t.follow (base dir p) p.parts with
    | error f =>
      simp only [reduceCtorEq,false_iff]
      rintro ⟨-,w,hw,-⟩
      rw [hw.follow] at hf
      cases hf
    | ok w =>
      rw [follow_cons_eq_ok,Path.stepTo_of_ne w hname.not_up]
      constructor
      · rintro ⟨hd,-,hway⟩
        exact ⟨rfl,w,⟨hf,hd⟩,(Except.ok.inj hway).symm⟩
      · rintro ⟨-,w',hw',rfl⟩
        obtain rfl := Except.ok.inj (hf.symm.trans hw'.follow)
        exact ⟨hw'.directory,hname.short,rfl⟩

/-- Making a directory in one that is there. -/
lemma ensure_child (hname : Fits name) (hu : unusable? (p.child name) = none)
    (h : t.Enters (base dir p) p.parts w) : t.ensure dir (p.child name) =
      match t.get? (w ++ [name]) with
      | some .directory => (.ok (),t)
      | some (.file _) => (.error .exists,t)
      | none => (.ok (),t.put (w ++ [name]) .directory) := by
  have hlong := Nat.not_lt.mpr hname.short
  have hmissing : ¬ deepestMaking < t.missing (base dir p) (p.parts ++ [name]) := by
    rw [h.missing_append,missing,if_neg hlong,if_neg hname.not_up,deepestMaking]
    cases t.get? (w ++ [name]) with
    | none => simp
    | some node => cases node <;> simp [missing]
  rw [ensure,hu]
  dsimp only
  rw [base_child,Path.child_parts,if_neg hmissing,h.lay_append,lay,if_neg hlong,if_neg hname.not_up]
  cases t.get? (w ++ [name]) with
  | none => rfl
  | some node => cases node <;> rfl

lemma write_of_located {c : Content} (h : t.locate dir p = .ok way) : t.write dir p c =
    match t.get? way with
    | some .directory => (.error .isDirectory,t)
    | _ => (.ok (),t.put way (.file c)) := by
  unfold write openAt
  rw [h]
  simp only [bind,Except.bind]
  cases t.get? way with
  | none => rfl
  | some node => cases node <;> rfl

lemma write_of_unlocated {c : Content} {f : FileFault} (h : t.locate dir p = .error f) :
    t.write dir p c = (.error f,t) := by
  unfold write openAt
  rw [h]
  rfl

lemma exists?_of_located (h : t.locate dir p = .ok way) :
    t.exists? dir p = .ok (t.get? way).isSome := by
  unfold exists? look
  rw [h]
  simp only [bind,Except.bind]
  cases t.get? way <;> rfl

/-- A file can be opened as a new one where a path leads to nothing. -/
lemma openAt_eq_new : t.openAt dir p = .ok (way,none) ↔ t.locate dir p = .ok way ∧ t.get? way = none := by
  unfold openAt
  cases t.locate dir p with
  | error f => simp [bind,Except.bind]
  | ok found =>
    simp only [bind,Except.bind]
    cases hnode : t.get? found with
    | none => simp only [Except.ok.injEq,Prod.mk.injEq,and_true,iff_self_and]; rintro rfl; exact hnode
    | some node =>
      have hfound : ¬ (found = way ∧ t.get? way = none) := by
        rintro ⟨rfl,h⟩
        rw [hnode] at h
        cases h
      cases node <;> simpa using hfound

/-- What cannot be reached is not there, or cannot even be asked about. -/
lemma exists?_of_unlocated {f : FileFault} (h : t.locate dir p = .error f) :
    t.exists? dir p = .ok false ∨ t.exists? dir p = .error f := by
  unfold exists? look
  rw [h]
  cases f <;> simp [bind,Except.bind]

end FileTree
end TestBench
