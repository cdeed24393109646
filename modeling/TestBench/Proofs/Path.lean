import Mathlib.Tactic.Common
import TestBench.Path

/-! Paths that are written in full: from the root on, part by part, and without anything that a reader
would leave out. Such a path means what it says, wherever it is read. -/
namespace TestBench.Path

/-- A part of a path that is kept as it is. -/
structure IsPlainPart (part : String) : Prop where
  some : part ≠ ""
  not_here : part ≠ "."
  not_up : part ≠ ".."
  no_slash : '/' ∉ part.toList
  no_nul : '\x00' ∉ part.toList

/-- A path that begins with one slash and is in no part empty, a dot or two dots. -/
def IsFull (s : String) : Prop :=
  ∃ parts : List String, s = "/" ++ "/".intercalate parts ∧ ∀ part ∈ parts, IsPlainPart part

/-- A part of a path that is kept when the path is read. It may be two dots. -/
structure IsKept (part : String) : Prop where
  some : part ≠ ""
  not_here : part ≠ "."
  no_slash : '/' ∉ part.toList

/-- The number of slashes that a path begins with. -/
def slashes (s : String) : ℕ := (s.toList.takeWhile (· == '/')).length

variable {parts : List String}

lemma IsPlainPart.isKept {part : String} (h : IsPlainPart part) : IsKept part :=
  ⟨h.some,h.not_here,h.no_slash⟩

lemma slashes_slash (s : String) : slashes ("/" ++ s) = slashes s + 1 := by
  rw [slashes,String.toList_append]
  rfl

lemma takeWhile_slash {cs : List Char} (h : ∀ rest, cs ≠ '/' :: rest) :
    cs.takeWhile (· == '/') = [] := by
  cases cs with
  | nil => rfl
  | cons c cs =>
    refine List.takeWhile_cons_of_neg ?_
    rw [beq_iff_eq]
    rintro rfl
    exact h cs rfl

/-- The anchor of a path is told by the number of its slashes. -/
lemma ofText_anchor (s : String) : (ofText s).anchor =
    match slashes s with
    | 0 => .here
    | 2 => .doubleRoot
    | _ => .root := by
  unfold slashes ofText
  generalize s.toList = cs
  unfold anchorOf
  split
  · simp
  · rename_i rest hrest
    simp [takeWhile_slash hrest]
  · rename_i rest _ hrest
    simp [takeWhile_slash hrest]
  · rename_i hnone
    simp [takeWhile_slash hnone]

lemma isAbsolute_iff (s : String) : (ofText s).isAbsolute = true ↔ slashes s ≠ 0 := by
  rw [isAbsolute,ofText_anchor]
  split <;> simp_all

lemma ofText_slash_parts (s : String) : (ofText ("/" ++ s)).parts = (ofText s).parts := by
  have hpieces : pieces ("/" ++ s).toList = [] :: pieces s.toList := by
    rw [String.toList_append,pieces,pieces]
    exact (List.splitOnP_cons_eq_if_modifyHead '/' s.toList).trans (if_pos (by decide))
  simp only [ofText,hpieces,List.map_cons]
  exact List.filter_cons_of_neg (by decide)

lemma filter_isKept (h : ∀ part ∈ parts, IsKept part) : parts.filter isPart = parts :=
  List.filter_eq_self.mpr fun part hpart => by simp [isPart,(h part hpart).some,(h part hpart).not_here]

/-- A piece of a text is in no place split again, and has no character but those of the text. -/
lemma of_mem_pieces {cs piece : List Char} (h : piece ∈ pieces cs) : '/' ∉ piece ∧ piece ⊆ cs := by
  rw [pieces,List.splitOn] at h
  induction cs generalizing piece with
  | nil =>
    obtain rfl := List.mem_singleton.mp h
    exact ⟨List.not_mem_nil,List.nil_subset _⟩
  | cons c cs ih =>
    have behind {ds : List Char} (hds : '/' ∉ ds ∧ ds ⊆ cs) : '/' ∉ ds ∧ ds ⊆ c :: cs :=
      ⟨hds.1,List.subset_cons_of_subset c hds.2⟩
    rw [List.splitOnP_cons_eq_if_modifyHead] at h
    split at h
    · obtain rfl | h := List.mem_cons.mp h
      · exact ⟨List.not_mem_nil,List.nil_subset _⟩
      · exact behind (ih h)
    · rename_i hc
      obtain ⟨first,rest,hsplit⟩ := List.exists_cons_of_ne_nil (List.splitOnP_ne_nil (· == '/') cs)
      rw [hsplit,List.modifyHead_cons] at h
      rw [hsplit] at ih
      obtain rfl | h := List.mem_cons.mp h
      · obtain ⟨hslash,hsub⟩ := ih List.mem_cons_self
        refine ⟨?_,List.cons_subset_cons c hsub⟩
        rintro (_ | ⟨_,hmem⟩)
        · exact hc rfl
        · exact hslash hmem
      · exact behind (ih (List.mem_cons_of_mem first h))

/-- A text without the character that ends text gives a path without it. -/
lemma hasNul_ofText {s : String} (h : '\x00' ∉ s.toList) : (ofText s).hasNul = false := by
  rw [hasNul,List.any_eq_false]
  intro part hpart hnul
  obtain ⟨piece,hpiece,rfl⟩ := List.mem_map.mp (List.mem_filter.mp hpart).1
  rw [String.toList_ofList,List.contains_iff_mem] at hnul
  exact h ((of_mem_pieces hpiece).2 hnul)

/-- What is left of a path when it is read is kept when it is read again. -/
lemma isKept_of_mem_parts {part s : String} (h : part ∈ (ofText s).parts) : IsKept part := by
  obtain ⟨hmem,hpart⟩ := List.mem_filter.mp h
  obtain ⟨piece,hpiece,rfl⟩ := List.mem_map.mp hmem
  simp only [isPart,Bool.and_eq_true,bne_iff_ne] at hpart
  exact ⟨hpart.1,hpart.2,by simpa using (of_mem_pieces hpiece).1⟩

/-- Parts with slashes between them are taken apart again. -/
lemma ofText_parts (h : ∀ part ∈ parts, IsKept part) : (ofText ("/".intercalate parts)).parts = parts := by
  by_cases hsome : parts = []
  · subst hsome
    rfl
  · have hslash : ∀ cs ∈ parts.map String.toList, '/' ∉ cs := by
      simpa using fun part hpart => (h part hpart).no_slash
    have hpieces : pieces ("/".intercalate parts).toList = parts.map String.toList := by
      rw [pieces,String.toList_intercalate]
      exact List.splitOn_intercalate _ hslash (by simpa using hsome)
    have hsame : (parts.map String.toList).map String.ofList = parts := by simp
    rw [ofText,hpieces,hsame,filter_isKept h]

lemma slashes_parts (h : ∀ part ∈ parts, IsKept part) : slashes ("/".intercalate parts) = 0 := by
  refine congrArg List.length (takeWhile_slash fun rest hrest => ?_)
  cases parts with
  | nil => contradiction
  | cons part parts =>
    obtain ⟨hpart,-⟩ := List.forall_mem_cons.mp h
    obtain ⟨c,cs,hcs⟩ := List.exists_cons_of_ne_nil (mt String.toList_eq_nil_iff.mp hpart.some)
    have hfirst : ∃ more, ("/".intercalate (part :: parts)).toList = c :: more := by
      rw [String.toList_intercalate,List.map_cons,hcs]
      cases parts with
      | nil => exact ⟨cs,by simp⟩
      | cons part' parts => exact ⟨_,by rw [List.map_cons,List.intercalate_cons_cons]; rfl⟩
    obtain ⟨more,hmore⟩ := hfirst
    rw [hmore] at hrest
    obtain rfl := (List.cons.inj hrest).1
    exact hpart.no_slash (hcs ▸ List.mem_cons_self)

lemma text_anchored {a : Anchor} (ha : a ≠ .here) (parts : List String) :
    (Path.mk a parts).text = Anchor.text a ++ "/".intercalate parts := by
  rw [text,if_neg fun h => ha h.1]

/-- A path from a root on, without what is left out in reading, is read as it is. -/
theorem ofText_text {a : Anchor} (ha : a ≠ .here) (h : ∀ part ∈ parts, IsKept part) :
    ofText (Path.mk a parts).text = ⟨a,parts⟩ := by
  have hslashes := slashes_parts h
  have hparts := ofText_parts h
  rw [text_anchored ha]
  generalize "/".intercalate parts = s at hslashes hparts
  cases a with
  | here => exact absurd rfl ha
  | root =>
    have hanchor : (ofText ("/" ++ s)).anchor = .root := by
      simp [ofText_anchor,slashes_slash,hslashes]
    rw [← ofText_slash_parts] at hparts
    exact congrArg₂ Path.mk hanchor hparts
  | doubleRoot =>
    have hanchor : (ofText ("/" ++ ("/" ++ s))).anchor = .doubleRoot := by
      simp [ofText_anchor,slashes_slash,hslashes]
    rw [← ofText_slash_parts,← ofText_slash_parts] at hparts
    exact congrArg₂ Path.mk hanchor hparts

lemma text_full (parts : List String) : (Path.mk .root parts).text = "/" ++ "/".intercalate parts :=
  text_anchored (a := .root) nofun parts

/-- A full path is read as its parts. -/
theorem ofText_full (h : ∀ part ∈ parts, IsPlainPart part) :
    ofText ("/" ++ "/".intercalate parts) = ⟨.root,parts⟩ := by
  rw [← text_full]
  exact ofText_text nofun fun part hpart => (h part hpart).isKept

/-- A way without double dots is walked as it is. -/
lemma walk_self (h : ∀ part ∈ parts, part ≠ "..") : walk parts = parts := by
  have hfold : ∀ way : List String, parts.foldl stepTo way = way ++ parts := by
    induction parts with
    | nil => simp
    | cons part rest ih =>
      obtain ⟨hpart,hrest⟩ := List.forall_mem_cons.mp h
      intro way
      rw [List.foldl_cons,stepTo,if_neg hpart,ih hrest]
      simp
  exact hfold []

variable {s : String}

/-- A full path is absolute, and is the same text when it has been read. -/
lemma ofText_of_isFull (h : IsFull s) : (ofText s).isAbsolute = true ∧ (ofText s).text = s := by
  obtain ⟨parts,rfl,hparts⟩ := h
  rw [ofText_full hparts]
  exact ⟨rfl,text_full parts⟩

lemma hasNul_of_isFull (h : IsFull s) : (ofText s).hasNul = false := by
  obtain ⟨parts,rfl,hparts⟩ := h
  rw [ofText_full hparts,hasNul,List.any_eq_false]
  intro part hpart
  simpa using (hparts part hpart).no_nul

/-- A full path is the same text when it has been resolved, wherever that is done. -/
theorem resolve_of_isFull (h : IsFull s) (dir : Path) : (resolve dir (ofText s)).text = s := by
  obtain ⟨parts,rfl,hparts⟩ := h
  have hwithin : dir.within ⟨.root,parts⟩ = ⟨.root,parts⟩ := if_pos rfl
  rw [ofText_full hparts,resolve,hwithin,walk_self fun part hpart => (hparts part hpart).not_up,ofWay,
    text_full]

end TestBench.Path
