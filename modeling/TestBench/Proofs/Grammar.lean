import Mathlib.Data.List.TakeWhile
import TestBench.Target

/-! The grammar of targets. A text is a target exactly if it is made of a module's name, a colon and a
function's name, with at most one line feed behind. It is made so in one way only, and splitting it at its
colon gives the two names. -/
namespace TestBench

/-- What a name begins with: one of the 52 letters of the Latin alphabet, or an underscore. -/
def IsInitial (c : Char) : Prop := ('A' ≤ c ∧ c ≤ 'Z') ∨ ('a' ≤ c ∧ c ≤ 'z') ∨ c = '_'

instance (c : Char) : Decidable (IsInitial c) :=
  inferInstanceAs (Decidable (('A' ≤ c ∧ c ≤ 'Z') ∨ ('a' ≤ c ∧ c ≤ 'z') ∨ c = '_'))

/-- A name: an initial, and then any number of characters of a class. -/
def IsName (p : Char → Prop) (name : String) : Prop :=
  ∃ c cs, name.toList = c :: cs ∧ IsInitial c ∧ ∀ d ∈ cs, p d

/-- A text as the grammar makes it, from the names of a module and of a function and what ends it. The first
name may have dots in it. -/
structure Spells (s m f e : String) : Prop where
  module : IsName (fun c => Text.isWord c = true ∨ c = '.') m
  function : IsName (fun c => Text.isWord c = true) f
  ending : e = "" ∨ e = "\n"
  text : s = m ++ ":" ++ f ++ e

lemma isNameStart_iff {c : Char} : isNameStart c = true ↔ IsInitial c := by
  delta isNameStart IsInitial Char.isAlpha Char.isUpper Char.isLower
  simp [Char.le_def,or_assoc]

lemma isDottedWord_iff {c : Char} : isDottedWord c = true ↔ Text.isWord c = true ∨ c = '.' := by
  simp [isDottedWord]

/-- A character that neither begins a name nor belongs to its class is not in it. -/
lemma IsName.not_mem {p : Char → Prop} {name : String} {c : Char} (h : IsName p name)
    (hi : ¬ IsInitial c) (hp : ¬ p c) : c ∉ name.toList := by
  obtain ⟨d,cs,hname,hd,hcs⟩ := h
  rw [hname]
  rintro (_ | ⟨_,hc⟩)
  · exact hi hd
  · exact hp (hcs c hc)

section AfterName

variable {p : Char → Bool} {cs rest : List Char}

/-- What stands behind a name is what its class does not go on with. -/
lemma afterName_append {c : Char} {word : List Char} (hc : isNameStart c = true)
    (hword : ∀ d ∈ word, p d = true) (hrest : ∀ d, rest.head? = some d → p d = false) :
    afterName p (c :: (word ++ rest)) = some rest := by
  have hstop : rest.dropWhile p = rest := by
    cases rest with
    | nil => rfl
    | cons d rest => exact List.dropWhile_cons_of_neg (by simp [hrest d rfl])
  rw [afterName,if_pos hc,List.dropWhile_append_of_pos hword,hstop]

lemma afterName_eq_some (h : afterName p cs = some rest) :
    ∃ c word, cs = c :: (word ++ rest) ∧ isNameStart c = true ∧ ∀ d ∈ word, p d = true := by
  cases cs with
  | nil => contradiction
  | cons c cs =>
    rw [afterName] at h
    split at h
    · rename_i hc
      obtain rfl := Option.some.inj h
      exact ⟨c,cs.takeWhile p,by rw [List.takeWhile_append_dropWhile],hc,fun d => List.mem_takeWhile_imp⟩
    · contradiction

end AfterName

namespace Spells

variable {s m f e m' f' e' : String}

lemma colon_not_mem_module (h : Spells s m f e) : ':' ∉ m.toList :=
  h.module.not_mem (by decide) (by simp [Text.not_isWord_colon])

lemma not_mem_function (h : Spells s m f e) {c : Char} (hi : ¬ IsInitial c)
    (hc : Text.isWord c = false) : c ∉ f.toList :=
  h.function.not_mem hi (by simp [hc])

lemma toList_eq (h : Spells s m f e) : s.toList = m.toList ++ ':' :: (f.toList ++ e.toList) := by
  simp [h.text,String.toList_append]

lemma isTarget (h : Spells s m f e) : isTarget s = true := by
  obtain ⟨c,cs,hm,hc,hcs⟩ := h.module
  obtain ⟨d,ds,hf,hd,hds⟩ := h.function
  have hmodule : afterName isDottedWord s.toList = some (':' :: (f.toList ++ e.toList)) := by
    rw [h.toList_eq,hm]
    refine afterName_append (isNameStart_iff.mpr hc) (fun d hd => isDottedWord_iff.mpr (hcs d hd)) ?_
    intro d hd
    obtain rfl := Option.some.inj hd
    decide
  have hfunction : afterName Text.isWord (f.toList ++ e.toList) = some e.toList := by
    rw [hf]
    refine afterName_append (isNameStart_iff.mpr hd) hds ?_
    obtain rfl | rfl := h.ending
    · nofun
    · intro d hd
      obtain rfl := Option.some.inj hd
      exact Text.not_isWord_newline
  simp only [TestBench.isTarget,hmodule,hfunction]
  obtain rfl | rfl := h.ending <;> rfl

lemma count_colon (h : Spells s m f e) : s.toList.count ':' = 1 := by
  have hm := List.count_eq_zero_of_not_mem h.colon_not_mem_module
  have hf := List.count_eq_zero_of_not_mem
    (h.not_mem_function (c := ':') (by decide) Text.not_isWord_colon)
  have he : e.toList.count ':' = 0 := by
    obtain rfl | rfl := h.ending <;> rfl
  rw [h.toList_eq]
  simp [hm,hf,he]

lemma splitTarget_eq (h : Spells s m f e) : splitTarget s = (m,f ++ e) := by
  have hfront : ∀ c ∈ m.toList, (c != ':') = true := by
    intro c hc
    rw [bne_iff_ne]
    rintro rfl
    exact h.colon_not_mem_module hc
  rw [splitTarget,h.toList_eq,List.takeWhile_append_of_pos hfront,List.dropWhile_append_of_pos hfront]
  simp [← String.toList_append]

/-- The function's name is what stands before a line feed. -/
lemma takeWhile_eq (h : Spells s m f e) : (f ++ e).toList.takeWhile (· != '\n') = f.toList := by
  have hname : ∀ c ∈ f.toList, (c != '\n') = true := by
    intro c hc
    rw [bne_iff_ne]
    rintro rfl
    exact h.not_mem_function (by decide) Text.not_isWord_newline hc
  rw [String.toList_append,List.takeWhile_append_of_pos hname]
  obtain rfl | rfl := h.ending <;> simp

/-- A text is spelled in one way only. -/
lemma unique (h : Spells s m f e) (h' : Spells s m' f' e') : m' = m ∧ f' = f ∧ e' = e := by
  obtain ⟨rfl,hrest⟩ := Prod.mk.inj (h'.splitTarget_eq.symm.trans h.splitTarget_eq)
  have hf : f' = f := String.toList_inj.mp (by rw [← h'.takeWhile_eq,hrest,h.takeWhile_eq])
  subst hf
  exact ⟨rfl,rfl,String.append_right_inj _ |>.mp hrest⟩

end Spells

lemma exists_spells {s : String} (h : isTarget s = true) : ∃ m f e, Spells s m f e := by
  unfold isTarget at h
  split at h
  · rename_i cs hcs
    obtain ⟨c,word,hs,hc,hword⟩ := afterName_eq_some hcs
    split at h
    · rename_i rest hrest
      obtain ⟨d,word',rfl,hd,hword'⟩ := afterName_eq_some hrest
      refine ⟨String.ofList (c :: word),String.ofList (d :: word'),String.ofList rest,
        ⟨c,word,String.toList_ofList,isNameStart_iff.mp hc,fun b hb => isDottedWord_iff.mp (hword b hb)⟩,
        ⟨d,word',String.toList_ofList,isNameStart_iff.mp hd,hword'⟩,?_,?_⟩
      · simpa [← String.toList_inj] using h
      · simp [← String.toList_inj,hs]
    · contradiction
  · contradiction

/-- A text is a target exactly if the grammar makes it. It then has one colon, the grammar makes it in one
way only, and splitting it gives the names that it is made of, the second one with the line feed that may
end the text. -/
theorem isTarget_iff_spelled (s : String) :
    (isTarget s = true ↔ ∃ m f e, Spells s m f e) ∧
    ∀ m f e, Spells s m f e →
      s.toList.count ':' = 1 ∧ splitTarget s = (m,f ++ e) ∧
        ∀ m' f' e', Spells s m' f' e' → m' = m ∧ f' = f ∧ e' = e :=
  ⟨⟨exists_spells,fun ⟨_,_,_,h⟩ => h.isTarget⟩,
    fun _ _ _ h => ⟨h.count_colon,h.splitTarget_eq,fun _ _ _ h' => h.unique h'⟩⟩

end TestBench
