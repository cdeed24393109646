/-! Membership in an ascending list of closed intervals of code points. -/
namespace TestBench.Text

/-- Does a number lie in one of the intervals? They ascend, so the search stops at the first one
that begins above it. -/
def inRanges : List (Nat × Nat) → Nat → Bool
  | [], _ => false
  | (lo, hi) :: rest, n => if n < lo then false else if n ≤ hi then true else inRanges rest n

theorem inRanges_cons (lo hi : Nat) (rest : List (Nat × Nat)) (n : Nat) :
    inRanges ((lo, hi) :: rest) n =
      if n < lo then false else if n ≤ hi then true else inRanges rest n := rfl

end TestBench.Text
