import Mathlib.Tactic.Common
import TestBench.Expansion.Basic

/-! Templates that refer to nothing. Without a dollar sign and a backslash a template is read character by
character, stands for itself, and leaves the environment alone. -/
namespace TestBench

/-- Is a text free of the two characters that have a meaning in templates? -/
structure IsPlainTemplate (cs : List Char) : Prop where
  no_dollar : '$' ∉ cs
  no_backslash : '\\' ∉ cs

variable {cs : List Char}

lemma readUpTo_plain (h : IsPlainTemplate cs) (room n : ℕ) (hn : cs.length ≤ n) :
    Piece.readUpTo room n cs = cs.map .char := by
  induction cs generalizing n with
  | nil => cases n <;> rfl
  | cons c cs ih =>
    obtain ⟨hdollar,hdollars⟩ := not_or.mp (mt List.mem_cons.mpr h.no_dollar)
    obtain ⟨hback,hbacks⟩ := not_or.mp (mt List.mem_cons.mpr h.no_backslash)
    cases n with
    | zero => exact absurd hn (by simp)
    | succ n =>
      have hrest := ih ⟨hdollars,hbacks⟩ n (Nat.le_of_succ_le_succ hn)
      unfold Piece.readUpTo
      rw [if_neg (Ne.symm hback),if_neg fun hc => hdollar hc.1.symm,hrest,List.map_cons]

lemma expandAll_chars (strict : Bool) (cs : List Char) (env : Environment) :
    Piece.expandAll strict (cs.map .char) env = ⟨some cs,env⟩ := by
  induction cs with
  | nil => rfl
  | cons c cs ih =>
    rw [List.map_cons,Piece.expandAll,Piece.expand]
    simp [ih]

/-- A template without references stands for itself. -/
theorem expand_plain {s : String} (h : IsPlainTemplate s.toList) (env : Environment) :
    expand s env = ⟨some s.toList,env⟩ := by
  rw [expand,Piece.readAll,readUpTo_plain h _ _ (Nat.le_refl _),expandAll_chars]

end TestBench
