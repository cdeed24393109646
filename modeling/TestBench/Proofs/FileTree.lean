import Mathlib.Tactic.Common
import TestBench.Logger.SetUp

/-! What is lost of a tree of files, which is nothing. Opening a log adds directories and empty files and
leaves all that is there; a line of a log goes behind what its file holds. -/
namespace TestBench.FileTree

/-- The bytes of the file at a way. There are none where no file is. -/
def bytesAt (t : FileTree) (way : List String) : List UInt8 :=
  match t.get? way with
  | some (.file c) => c.bytes
  | _ => []

variable {t t' t'' : FileTree} {way other : List String} {c : Content}

lemma ne_nil_of_file (h : t.get? way = some (.file c)) : way ≠ [] := by
  rintro rfl
  cases h

lemma ne_nil_of_missing (h : t.get? way = none) : way ≠ [] := by
  rintro rfl
  cases h

lemma bytesAt_of_file (h : t.get? way = some (.file c)) : t.bytesAt way = c.bytes := by
  rw [bytesAt,h]

section Put

variable (entries : List (List String × Node)) (node : Node)

lemma find?_replace_same (way : List String) :
    ((entries.map fun e => if e.1 == way then (way,node) else e).find? fun e => e.1 == way) =
      (entries.find? fun e => e.1 == way).map fun _ => (way,node) := by
  induction entries with
  | nil => rfl
  | cons e es ih =>
    rw [List.map_cons,List.find?_cons,List.find?_cons,ih]
    by_cases he : e.1 = way
    · simp [he]
    · have hway : (e.1 == way) = false := beq_eq_false_iff_ne.mpr he
      simp [hway]

lemma find?_replace_of_ne (h : other ≠ way) :
    ((entries.map fun e => if e.1 == way then (way,node) else e).find? fun e => e.1 == other) =
      entries.find? fun e => e.1 == other := by
  induction entries with
  | nil => rfl
  | cons e es ih =>
    rw [List.map_cons,List.find?_cons,List.find?_cons,ih]
    by_cases he : e.1 = way
    · have hway : (way == other) = false := beq_eq_false_iff_ne.mpr h.symm
      simp [he,hway]
    · simp [he]

@[simp] lemma get?_put_same (t : FileTree) (h : way ≠ []) : (t.put way node).get? way = some node := by
  rw [get?,if_neg h,put]
  split
  · rename_i hfound
    obtain ⟨e,he⟩ := Option.isSome_iff_exists.mp hfound
    rw [find?_replace_same,he]
    rfl
  · rename_i hnone
    rw [Bool.not_eq_true,Option.isSome_eq_false_iff,Option.isNone_iff_eq_none] at hnone
    rw [List.find?_append,hnone]
    simp

lemma get?_put_of_ne (t : FileTree) (h : other ≠ way) :
    (t.put way node).get? other = t.get? other := by
  by_cases hroot : other = []
  · rw [hroot]
    rfl
  · rw [get?,get?,if_neg hroot,if_neg hroot,put]
    split
    · rw [find?_replace_of_ne _ _ h]
    · have hlast : ([(way,node)].find? fun e => e.1 == other) = none := by
        simp [h.symm]
      rw [List.find?_append,hlast,Option.or_none]

end Put

/-- A tree in which all that another one holds is there as it was, and what is new is a directory or an
empty file. -/
structure Extends (t t' : FileTree) : Prop where
  kept : ∀ {way node}, t.get? way = some node → t'.get? way = some node
  added : ∀ {way c}, t.get? way = none → t'.get? way = some (.file c) → c.bytes = []

namespace Extends

lemma refl (t : FileTree) : t.Extends t where
  kept h := h
  added h h' := by
    rw [h] at h'
    cases h'

lemma trans (h : t.Extends t') (h' : t'.Extends t'') : t.Extends t'' where
  kept hway := h'.kept (h.kept hway)
  added {way c} hnone hfile := by
    cases hmid : t'.get? way with
    | none => exact h'.added hmid hfile
    | some node =>
      have hkept := h'.kept hmid
      rw [hfile] at hkept
      obtain rfl := Option.some.inj hkept
      exact h.added hnone hmid

lemma put (h : t.get? way = none) {node : Node} (hn : ∀ c, node = .file c → c.bytes = []) :
    t.Extends (t.put way node) where
  kept {other node'} hother := by
    have hne : other ≠ way := by
      rintro rfl
      rw [h] at hother
      cases hother
    rw [get?_put_of_ne _ t hne,hother]
  added {other c} hother hfile := by
    by_cases he : other = way
    · subst he
      rw [get?_put_same _ t (ne_nil_of_missing h)] at hfile
      exact hn c (Option.some.inj hfile)
    · rw [get?_put_of_ne _ t he,hother] at hfile
      cases hfile

lemma bytesAt_eq (h : t.Extends t') (way : List String) : t'.bytesAt way = t.bytesAt way := by
  unfold bytesAt
  cases hway : t.get? way with
  | some node => rw [h.kept hway]
  | none =>
    cases hway' : t'.get? way with
    | none => rfl
    | some node =>
      cases node with
      | directory => rfl
      | file c => exact h.added hway hway'

end Extends

lemma extends_lay (t : FileTree) (made : Bool) (way parts : List String) :
    t.Extends (t.lay made way parts).2 := by
  induction parts generalizing t made way with
  | nil => exact .refl t
  | cons part parts ih =>
    unfold lay
    by_cases hlong : longestName < part.utf8ByteSize
    · rw [if_pos hlong]
      exact .refl t
    · rw [if_neg hlong]
      by_cases hup : part = ".."
      · rw [if_pos hup]
        exact ih t made way.dropLast
      · rw [if_neg hup]
        cases hnode : t.get? (way ++ [part]) with
        | none => exact (Extends.put hnode fun _ h => by cases h).trans (ih _ true (way ++ [part]))
        | some node =>
          cases node with
          | directory => exact ih t made (way ++ [part])
          | file c => exact .refl t

lemma extends_ensure (t : FileTree) (dir : List String) (p : Path) : t.Extends (t.ensure dir p).2 := by
  unfold ensure
  split
  · exact .refl t
  · split
    · exact .refl t
    · exact extends_lay t _ _ _

/-- What a way that can be opened leads to: the file that is there, or nothing. -/
lemma openAt_eq_ok {dir : List String} {p : Path} {content : Option Content}
    (h : t.openAt dir p = .ok (way,content)) :
    content.map Node.file = t.get? way := by
  unfold openAt at h
  cases hlocate : t.locate dir p with
  | error f =>
    rw [hlocate] at h
    cases h
  | ok found =>
    rw [hlocate] at h
    simp only [bind,Except.bind] at h
    cases hnode : t.get? found with
    | none =>
      rw [hnode] at h
      obtain ⟨rfl,rfl⟩ := Prod.mk.inj (Except.ok.inj h)
      exact hnode.symm
    | some node =>
      rw [hnode] at h
      cases node with
      | directory => cases h
      | file c =>
        obtain ⟨rfl,rfl⟩ := Prod.mk.inj (Except.ok.inj h)
        exact hnode.symm

/-- What opening a log comes to: nothing more than the directories made, the file that is there, or a
new file. -/
lemma openLog_cases (t : FileTree) (dir : List String) (file : String) :
    let made := (t.ensure dir (Path.ofText file).parent).2
    (∃ f, SetUp.openLog t dir file = (.error f,made)) ∨
    (∃ way c, made.get? way = some (.file c) ∧ SetUp.openLog t dir file = (.ok way,made)) ∨
    ∃ way, made.get? way = none ∧
      SetUp.openLog t dir file = (.ok way,made.put way (.file .empty)) := by
  simp only [SetUp.openLog]
  rcases t.ensure dir (Path.ofText file).parent with ⟨result,made⟩
  cases result with
  | error f => exact .inl ⟨f,rfl⟩
  | ok _ =>
    dsimp only
    cases hopen : made.openAt dir (Path.resolve (Path.ofWay dir) (Path.ofText file)) with
    | error f => exact .inl ⟨f,rfl⟩
    | ok opened =>
      obtain ⟨way,content⟩ := opened
      have hnode := openAt_eq_ok hopen
      cases content with
      | some c => exact .inr (.inl ⟨way,c,hnode.symm,rfl⟩)
      | none => exact .inr (.inr ⟨way,hnode.symm,rfl⟩)

/-- Opening a log leaves all that is there. -/
theorem extends_openLog (t : FileTree) (dir : List String) (file : String) :
    t.Extends (SetUp.openLog t dir file).2 := by
  have hensure := t.extends_ensure dir (Path.ofText file).parent
  rcases t.openLog_cases dir file with ⟨f,h⟩ | ⟨way,c,-,h⟩ | ⟨way,hnone,h⟩
  · rw [h]
    exact hensure
  · rw [h]
    exact hensure
  · rw [h]
    refine hensure.trans (.put hnone fun c hc => ?_)
    obtain rfl := Node.file.inj hc
    rfl

/-- A log that is open is a file. -/
lemma file_of_openLog {dir : List String} {file : String}
    (h : SetUp.openLog t dir file = (.ok way,t')) : ∃ c, t'.get? way = some (.file c) := by
  rcases t.openLog_cases dir file with ⟨f,h'⟩ | ⟨found,c,hfile,h'⟩ | ⟨found,hnone,h'⟩
  · rw [h'] at h
    cases h
  · rw [h'] at h
    obtain ⟨hway,rfl⟩ := Prod.mk.inj h
    obtain rfl := Except.ok.inj hway
    exact ⟨c,hfile⟩
  · rw [h'] at h
    obtain ⟨hway,rfl⟩ := Prod.mk.inj h
    obtain rfl := Except.ok.inj hway
    exact ⟨.empty,get?_put_same _ _ (ne_nil_of_missing hnone)⟩

/-- A tree in which every directory of another one is there, and every file, with what it held at its
front. -/
structure Grows (t t' : FileTree) : Prop where
  directory : ∀ {way}, t.get? way = some .directory → t'.get? way = some .directory
  file : ∀ {way c}, t.get? way = some (.file c) →
    ∃ c', t'.get? way = some (.file c') ∧ c.bytes <+: c'.bytes

namespace Grows

lemma refl (t : FileTree) : t.Grows t where
  directory h := h
  file {_ c} h := ⟨c,h,List.prefix_rfl⟩

lemma trans (h : t.Grows t') (h' : t'.Grows t'') : t.Grows t'' where
  directory hway := h'.directory (h.directory hway)
  file hway := by
    obtain ⟨c',hway',hfront⟩ := h.file hway
    obtain ⟨c'',hway'',hfront'⟩ := h'.file hway'
    exact ⟨c'',hway'',hfront.trans hfront'⟩

end Grows

lemma Extends.grows (h : t.Extends t') : t.Grows t' where
  directory hway := h.kept hway
  file {_ c} hway := ⟨c,h.kept hway,List.prefix_rfl⟩

lemma log_of_file (h : t.get? way = some (.file c)) (bytes : List UInt8) :
    t.log way bytes = t.put way (.file (c.withLog bytes)) := by
  rw [log,h]

/-- Lines of a log go behind what their file holds, and to no other file. -/
theorem bytesAt_log (h : t.get? way = some (.file c)) (bytes : List UInt8) (other : List String) :
    (t.log way bytes).bytesAt other = t.bytesAt other ++ if other = way then bytes else [] := by
  rw [log_of_file h]
  by_cases he : other = way
  · subst he
    rw [if_pos rfl,bytesAt_of_file h,bytesAt_of_file (get?_put_same _ t (ne_nil_of_file h))]
    rfl
  · rw [if_neg he,List.append_nil,bytesAt,bytesAt,get?_put_of_ne _ t he]

theorem grows_log (h : t.get? way = some (.file c)) (bytes : List UInt8) :
    t.Grows (t.log way bytes) where
  directory {other} hother := by
    have hne : other ≠ way := by
      rintro rfl
      rw [h] at hother
      cases hother
    rw [log_of_file h,get?_put_of_ne _ t hne,hother]
  file {other c'} hother := by
    rw [log_of_file h]
    by_cases he : other = way
    · subst he
      rw [h] at hother
      obtain rfl := Node.file.inj (Option.some.inj hother)
      exact ⟨c.withLog bytes,get?_put_same _ t (ne_nil_of_file h),List.prefix_append _ _⟩
    · exact ⟨c',by rw [get?_put_of_ne _ t he,hother],List.prefix_rfl⟩

end TestBench.FileTree
