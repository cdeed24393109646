import Mathlib.Tactic.Common
import TestBench.Text.ControlSequence

/-! Removing control sequences piece by piece. A character that stands in no sequence behind its
escape character cuts a text in two that lose theirs on their own; so the codes for colours around a
text leave nothing behind, whatever the text ends with. -/
namespace TestBench.Text

/-- A character that no control sequence holds behind its escape character. -/
structure IsApart (c : Char) : Prop where
  not_bracket : c ≠ '['
  not_parameter : isParameter c = false
  not_letter : c.isAlpha = false

lemma isApart_escape : IsApart escape := ⟨by decide,by decide,by decide⟩

section Apart

variable {x : Char}

lemma dropWhile_isParameter_append (hx : IsApart x) (cs ds : List Char) :
    (cs ++ x :: ds).dropWhile isParameter = cs.dropWhile isParameter ++ x :: ds := by
  induction cs with
  | nil => simp [hx.not_parameter]
  | cons c cs ih => by_cases hc : isParameter c = true <;> simp [hc,ih]

lemma takeWhile_isParameter_append (hx : IsApart x) (cs ds : List Char) :
    (cs ++ x :: ds).takeWhile isParameter = cs.takeWhile isParameter := by
  induction cs with
  | nil => simp [hx.not_parameter]
  | cons c cs ih => by_cases hc : isParameter c = true <;> simp [hc,ih]

lemma sequenceLength?_of_ne (h : x ≠ '[') (cs : List Char) : sequenceLength? (x :: cs) = none := by
  unfold sequenceLength?
  split
  · rename_i heq
    exact absurd (List.cons.inj heq).1 h
  · rfl

/-- A sequence is complete before a character that stands in none, or it is not one. -/
lemma sequenceLength?_append (hx : IsApart x) (cs ds : List Char) :
    sequenceLength? (cs ++ x :: ds) = sequenceLength? cs := by
  cases cs with
  | nil => exact sequenceLength?_of_ne hx.not_bracket ds
  | cons c cs =>
    by_cases hc : c = '['
    · subst hc
      simp only [List.cons_append,sequenceLength?,dropWhile_isParameter_append hx,
        takeWhile_isParameter_append hx]
      cases cs.dropWhile isParameter with
      | nil => simp [hx.not_letter]
      | cons letter rest => rfl
    · rw [List.cons_append,sequenceLength?_of_ne hc,sequenceLength?_of_ne hc]

lemma sequenceLength?_le {cs : List Char} {n : ℕ} (h : sequenceLength? cs = some n) :
    n ≤ cs.length := by
  unfold sequenceLength? at h
  split at h
  · rename_i cs
    have hsplit := congrArg List.length (List.takeWhile_append_dropWhile (p := isParameter) (l := cs))
    rw [List.length_append] at hsplit
    split at h
    · rename_i letter rest hdrop
      rw [hdrop,List.length_cons] at hsplit
      split at h
      · obtain rfl := Option.some.inj h
        rw [List.length_cons]
        omega
      · cases h
    · cases h
  · cases h

/-- What is cut in two by a character that stands in no sequence loses its sequences on either side. -/
theorem stripFrom_append (hx : IsApart x) (n : ℕ) (cs ds : List Char) (hn : n ≤ cs.length) :
    stripFrom n (cs ++ x :: ds) = stripFrom n cs ++ stripped (x :: ds) := by
  induction cs generalizing n with
  | nil =>
    obtain rfl := Nat.le_zero.mp hn
    rfl
  | cons c cs ih =>
    cases n with
    | succ n => exact ih n (Nat.le_of_succ_le_succ hn)
    | zero =>
      simp only [List.cons_append,stripFrom,sequenceLength?_append hx]
      by_cases hc : c = escape
      · rw [if_pos hc,if_pos hc]
        cases hlength : sequenceLength? cs with
        | none => rw [ih 0 (Nat.zero_le _),List.cons_append]
        | some k => exact ih k (sequenceLength?_le hlength)
      · rw [if_neg hc,if_neg hc,ih 0 (Nat.zero_le _),List.cons_append]

theorem stripped_append (hx : IsApart x) (cs ds : List Char) :
    stripped (cs ++ x :: ds) = stripped cs ++ stripped (x :: ds) :=
  stripFrom_append hx 0 cs ds (Nat.zero_le _)

end Apart

/-- Removing control sequences takes characters away and does nothing else. -/
lemma stripFrom_sublist (n : ℕ) (cs : List Char) : (stripFrom n cs).Sublist cs := by
  induction cs generalizing n with
  | nil => cases n <;> exact .slnil
  | cons c cs ih =>
    cases n with
    | succ n => exact (ih n).cons c
    | zero =>
      rw [stripFrom]
      split
      · split
        · exact (ih _).cons c
        · exact (ih 0).cons_cons c
      · exact (ih 0).cons_cons c

/-- Without an escape character there is no control sequence. -/
lemma stripped_of_escape_not_mem {cs : List Char} (h : escape ∉ cs) : stripped cs = cs := by
  induction cs with
  | nil => rfl
  | cons c cs ih =>
    obtain ⟨hc,hcs⟩ := not_or.mp (mt List.mem_cons.mpr h)
    rw [stripped,stripFrom,if_neg (Ne.symm hc)]
    exact congrArg _ (ih hcs)

/-- The codes around a text leave nothing behind and take nothing away. -/
theorem strip_styled (s : String) : strip (styled s) = strip s := by
  have hred : ∀ cs, stripped (red.toList ++ cs) = stripped cs := fun cs => rfl
  have hplain : stripped plain.toList = [] := by decide
  have hend : plain.toList = escape :: "[0m".toList := rfl
  rw [strip,strip,styled,String.toList_append,String.toList_append,List.append_assoc,hred,hend,
    stripped_append isApart_escape,← hend,hplain,List.append_nil]

end TestBench.Text
