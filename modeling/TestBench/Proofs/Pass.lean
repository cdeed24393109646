import Mathlib.Data.List.TakeWhile
import TestBench.Proofs.ControlSequence

/-! One pass over a text that takes out its control sequences, and what it takes out. A sequence begins
with its only escape character and holds no line break, so two texts of which the second begins with
one of the two are passed over one after the other. -/
namespace TestBench.Text

/-- A control sequence: an escape character, an opening bracket, parameter characters and a letter. -/
def IsSequence (cs : List Char) : Prop :=
  ∃ parameters letter, cs = escape :: '[' :: (parameters ++ [letter]) ∧
    (∀ c ∈ parameters, isParameter c = true) ∧ letter.isAlpha = true

/-- One pass from the left takes sequences out of a text and leaves the rest. A sequence that begins
where the pass stands is taken out as a whole; if none begins there, the character stays. -/
inductive Pass : List Char → List (List Char) → List Char → Prop
  | nil : Pass [] [] []
  | sequence {front cs removed left} (hs : IsSequence front) (h : Pass cs removed left) :
    Pass (front ++ cs) (front :: removed) left
  | char {c cs removed left} (hs : ∀ front, front <+: c :: cs → ¬IsSequence front)
    (h : Pass cs removed left) : Pass (c :: cs) removed (c :: left)

variable {x : Char} {cs ds left left' : List Char} {removed removed' : List (List Char)}

lemma isParameter_of_isAlpha {c : Char} (h : c.isAlpha = true) : isParameter c = false := by
  have hdigit : c.isDigit = false := by
    delta Char.isAlpha Char.isUpper Char.isLower at h
    delta Char.isDigit
    simp only [Bool.or_eq_true,Bool.and_eq_true,decide_eq_true_eq,ge_iff_le,UInt32.le_iff_toNat_le,
      Bool.and_eq_false_iff,decide_eq_false_iff_not] at h ⊢
    have h9 : ('9' : Char).val.toNat = 57 := rfl
    have hA : ('A' : Char).val.toNat = 65 := rfl
    have ha : ('a' : Char).val.toNat = 97 := rfl
    omega
  have hsemi : c ≠ ';' := by
    rintro rfl
    revert h
    decide
  have hask : c ≠ '?' := by
    rintro rfl
    revert h
    decide
  simp [isParameter,hdigit,hsemi,hask]

lemma isSequence_ne_nil (h : IsSequence cs) : cs ≠ [] := by
  obtain ⟨parameters,letter,rfl,-⟩ := h
  exact List.cons_ne_nil _ _

lemma isSequence_red : IsSequence red.toList :=
  ⟨['3','1'],'m',rfl,List.all_eq_true.mp rfl,by decide⟩

lemma isSequence_plain : IsSequence plain.toList :=
  ⟨['0'],'m',rfl,List.all_eq_true.mp rfl,by decide⟩

lemma isApart_newline : IsApart '\n' := ⟨by decide,by decide,by decide⟩

/-- A sequence holds a character that stands in none at its beginning at most. -/
lemma not_mem_of_isSequence (hx : IsApart x) {c : Char} (h : IsSequence (c :: cs)) : x ∉ cs := by
  obtain ⟨parameters,letter,heq,hparameters,hletter⟩ := h
  obtain rfl := (List.cons.inj heq).2
  simp only [List.mem_cons,List.mem_append,List.not_mem_nil,or_false,not_or]
  refine ⟨hx.not_bracket,fun hmem => ?_,?_⟩
  · exact absurd (hparameters x hmem) (by simp [hx.not_parameter])
  · rintro rfl
    rw [hx.not_letter] at hletter
    contradiction

/-- No sequence goes beyond a line. -/
lemma newline_not_mem (h : IsSequence cs) : '\n' ∉ cs := by
  obtain ⟨parameters,letter,rfl,-⟩ := id h
  exact List.not_mem_cons_of_ne_of_not_mem (by decide) (not_mem_of_isSequence isApart_newline h)

/-- A length is found exactly if so many characters complete a sequence. -/
lemma sequenceLength?_eq_some {n : ℕ} : sequenceLength? cs = some n ↔
    ∃ front rest, cs = front ++ rest ∧ front.length = n ∧ IsSequence (escape :: front) := by
  constructor
  · intro h
    unfold sequenceLength? at h
    split at h
    · rename_i cs
      split at h
      · rename_i letter rest hdrop
        split at h
        · rename_i hletter
          obtain rfl := Option.some.inj h
          refine ⟨'[' :: (cs.takeWhile isParameter ++ [letter]),rest,?_,by simp,
            cs.takeWhile isParameter,letter,rfl,?_,hletter⟩
          · rw [List.cons_append,List.append_assoc,List.singleton_append,← hdrop,
              List.takeWhile_append_dropWhile]
          · exact fun c hc => List.all_eq_true.mp List.all_takeWhile c hc
        · cases h
      · cases h
    · cases h
  · rintro ⟨front,rest,rfl,rfl,parameters,letter,hfront,hparameters,hletter⟩
    obtain rfl := (List.cons.inj hfront).2
    have hnot := isParameter_of_isAlpha hletter
    have hdrop : (parameters ++ letter :: rest).dropWhile isParameter = letter :: rest := by
      rw [List.dropWhile_append_of_pos hparameters,List.dropWhile_cons_of_neg (by simp [hnot])]
    have htake : (parameters ++ letter :: rest).takeWhile isParameter = parameters := by
      rw [List.takeWhile_append_of_pos hparameters,List.takeWhile_cons_of_neg (by simp [hnot]),
        List.append_nil]
    simp [sequenceLength?,hdrop,htake,hletter]

lemma stripFrom_append_left (front cs : List Char) :
    stripFrom front.length (front ++ cs) = stripped cs := by
  induction front with
  | nil => rfl
  | cons c front ih => exact ih

lemma stripped_sequence (h : IsSequence ds) (cs : List Char) :
    stripped (ds ++ cs) = stripped cs := by
  obtain ⟨parameters,letter,rfl,-⟩ := id h
  have hlength := sequenceLength?_eq_some.mpr ⟨_,cs,rfl,rfl,h⟩
  rw [List.cons_append,stripped,stripFrom,if_pos rfl,hlength]
  exact stripFrom_append_left _ cs

lemma stripped_char {c : Char} (h : ∀ front, front <+: c :: cs → ¬IsSequence front) :
    stripped (c :: cs) = c :: stripped cs := by
  rw [stripped,stripFrom]
  by_cases hc : c = escape
  · subst hc
    have hnone : sequenceLength? cs = none := by
      by_contra hsome
      obtain ⟨n,hn⟩ := Option.ne_none_iff_exists'.mp hsome
      obtain ⟨front,rest,rfl,-,hs⟩ := sequenceLength?_eq_some.mp hn
      exact h _ ⟨rest,rfl⟩ hs
    rw [if_pos rfl,hnone]
    rfl
  · rw [if_neg hc]
    rfl

namespace Pass

/-- A text begins with a sequence, or its first character stays. -/
lemma exists_removed (cs : List Char) : ∃ removed, Pass cs removed (stripped cs) := by
  induction hn : cs.length using Nat.strongRecOn generalizing cs with
  | ind n ih =>
    by_cases hs : ∃ front, front <+: cs ∧ IsSequence front
    · obtain ⟨front,⟨rest,rfl⟩,hs⟩ := hs
      have hpos := List.length_pos_iff.mpr (isSequence_ne_nil hs)
      rw [List.length_append] at hn
      obtain ⟨removed,h⟩ := ih rest.length (by omega) rest rfl
      rw [stripped_sequence hs]
      exact ⟨front :: removed,.sequence hs h⟩
    · push Not at hs
      cases cs with
      | nil => exact ⟨[],.nil⟩
      | cons c cs =>
        rw [List.length_cons] at hn
        obtain ⟨removed,h⟩ := ih cs.length (by omega) cs rfl
        rw [stripped_char hs]
        exact ⟨removed,.char hs h⟩

lemma isSequence_of_mem (h : Pass cs removed left) : ∀ s ∈ removed, IsSequence s := by
  induction h with
  | nil => simp
  | sequence hs _ ih => exact List.forall_mem_cons.mpr ⟨hs,ih⟩
  | char _ _ ih => exact ih

/-- A sequence at the front of two texts is in the first of them, if the second begins with a character
that stands in none. -/
lemma prefix_of_isSequence (hx : IsApart x) {front : List Char} {c : Char}
    (hs : IsSequence front) (h : front <+: c :: cs ++ x :: ds) : front <+: c :: cs := by
  rcases List.prefix_or_prefix_of_prefix h (List.prefix_append _ _) with h | ⟨rest,rfl⟩
  · exact h
  · cases rest with
    | nil => simp
    | cons y rest =>
      obtain ⟨rfl,-⟩ := List.cons_prefix_cons.mp ((List.prefix_append_right_inj _).mp h)
      exact absurd (List.mem_append_right cs List.mem_cons_self) (not_mem_of_isSequence hx hs)

/-- The pass over a text and another one behind it, which begins with a character that stands in no
sequence, takes out what the passes over the two take out. -/
theorem append (hx : IsApart x) (h : Pass cs removed left) (h' : Pass (x :: ds) removed' left') :
    Pass (cs ++ x :: ds) (removed ++ removed') (left ++ left') := by
  induction h with
  | nil => exact h'
  | sequence hs _ ih =>
    rw [List.append_assoc]
    exact .sequence hs ih
  | char hs _ ih =>
    exact .char (fun front hfront hseq => hs front (prefix_of_isSequence hx hseq hfront) hseq) ih

lemma newline (h : Pass cs removed left) : Pass ('\n' :: cs) removed ('\n' :: left) := by
  refine .char (fun front hfront hs => ?_) h
  obtain ⟨parameters,letter,rfl,-⟩ := hs
  exact absurd (List.cons_prefix_cons.mp hfront).1 (by decide)

/-- Only one sequence is at the front of a text. -/
lemma isSequence_unique {front front' : List Char} (hs : IsSequence front) (hs' : IsSequence front')
    (h : front <+: cs) (h' : front' <+: cs) : front = front' := by
  obtain ⟨parameters,letter,rfl,-⟩ := id hs
  obtain ⟨parameters',letter',rfl,-⟩ := id hs'
  obtain ⟨rest,rfl⟩ := h
  rw [List.cons_append] at h'
  obtain ⟨-,hfront⟩ := List.cons_prefix_cons.mp h'
  obtain ⟨rest',heq⟩ := id hfront
  have hlength := sequenceLength?_eq_some.mpr ⟨_,rest,rfl,rfl,hs⟩
  rw [sequenceLength?_eq_some.mpr ⟨_,rest',heq.symm,rfl,hs'⟩,Option.some.injEq] at hlength
  have hle := List.prefix_of_prefix_length_le hfront (List.prefix_append _ rest) hlength.le
  rw [hle.eq_of_length hlength]

lemma of_nil (h : Pass [] removed left) : removed = [] ∧ left = [] := by
  generalize htext : [] = text at h
  cases h with
  | nil => exact ⟨rfl,rfl⟩
  | sequence hs _ => exact absurd (List.append_eq_nil_iff.mp htext.symm).1 (isSequence_ne_nil hs)
  | char _ _ => cases htext

lemma of_sequence {front : List Char} (hs : IsSequence front) (h : Pass (front ++ cs) removed left) :
    ∃ rest, removed = front :: rest ∧ Pass cs rest left := by
  generalize htext : front ++ cs = text at h
  cases h with
  | nil => exact absurd (List.append_eq_nil_iff.mp htext).1 (isSequence_ne_nil hs)
  | sequence hs' h =>
    obtain rfl := isSequence_unique hs hs' ⟨cs,htext⟩ (List.prefix_append _ _)
    obtain rfl := List.append_cancel_left htext
    exact ⟨_,rfl,h⟩
  | char hs' _ => exact absurd hs (hs' front ⟨cs,htext⟩)

lemma of_char {c : Char} (hs : ∀ front, front <+: c :: cs → ¬IsSequence front)
    (h : Pass (c :: cs) removed left) : ∃ rest, left = c :: rest ∧ Pass cs removed rest := by
  generalize htext : c :: cs = text at h
  cases h with
  | nil => cases htext
  | sequence hs' _ => exact absurd hs' (hs _ (htext ▸ List.prefix_append _ _))
  | char _ h =>
    obtain ⟨rfl,rfl⟩ := List.cons.inj htext
    exact ⟨_,rfl,h⟩

/-- There is one pass over a text. -/
theorem unique (h : Pass cs removed left) (h' : Pass cs removed' left') :
    removed = removed' ∧ left = left' := by
  induction h generalizing removed' left' with
  | nil =>
    obtain ⟨rfl,rfl⟩ := h'.of_nil
    exact ⟨rfl,rfl⟩
  | sequence hs _ ih =>
    obtain ⟨rest,rfl,hrest⟩ := h'.of_sequence hs
    obtain ⟨rfl,rfl⟩ := ih hrest
    exact ⟨rfl,rfl⟩
  | char hs _ ih =>
    obtain ⟨rest,rfl,hrest⟩ := h'.of_char hs
    obtain ⟨rfl,rfl⟩ := ih hrest
    exact ⟨rfl,rfl⟩

/-- The codes around a text are taken out as they are, with the sequences of the text between them. -/
theorem styled {text : String} (h : Pass text.toList removed left) :
    Pass (styled text).toList (red.toList :: removed ++ [plain.toList]) left := by
  have hend : Pass plain.toList [plain.toList] [] := by
    rw [← List.append_nil plain.toList]
    exact .sequence isSequence_plain .nil
  have hboth : Pass (text.toList ++ plain.toList) (removed ++ [plain.toList]) (left ++ []) :=
    h.append isApart_escape hend
  rw [List.append_nil] at hboth
  rw [Text.styled,String.toList_append,String.toList_append,List.append_assoc]
  exact .sequence isSequence_red hboth

/-- The pass over a text between the codes is the one over the text, with the codes taken out around it. -/
theorem styled_iff {text : String} : Pass (Text.styled text).toList removed left ↔
    ∃ inner, removed = red.toList :: inner ++ [plain.toList] ∧ Pass text.toList inner left := by
  constructor
  · intro h
    obtain ⟨inner,hinner⟩ := exists_removed text.toList
    obtain ⟨rfl,rfl⟩ := h.unique hinner.styled
    exact ⟨inner,rfl,hinner⟩
  · rintro ⟨inner,rfl,h⟩
    exact h.styled

/-- The pass over two lines is the pass over one and then over the other. -/
theorem newline_iff : Pass (cs ++ '\n' :: ds) removed left ↔
    ∃ first second front behind, removed = first ++ second ∧ left = front ++ '\n' :: behind ∧
      Pass cs first front ∧ Pass ds second behind := by
  constructor
  · intro h
    obtain ⟨first,hfirst⟩ := exists_removed cs
    obtain ⟨second,hsecond⟩ := exists_removed ds
    obtain ⟨rfl,rfl⟩ := h.unique (hfirst.append isApart_newline hsecond.newline)
    exact ⟨first,second,_,_,rfl,rfl,hfirst,hsecond⟩
  · rintro ⟨first,second,front,behind,rfl,rfl,hfirst,hsecond⟩
    exact hfirst.append isApart_newline hsecond.newline

end Pass
end TestBench.Text
