/-! # Tables of code point ranges

A property of characters is a list of closed ranges of code points in rising order, and a
character has the property when one of the ranges holds it. The search goes up through the ranges
and stops at the first one that starts above the code point. -/

namespace RSource.Unicode

/-- A set of code points, given by the closed ranges that make it up, in rising order. -/
structure RangeTable where
  ranges : List (Nat × Nat)
  deriving DecidableEq

def inRanges (n : Nat) : List (Nat × Nat) → Bool
  | [] => false
  | (lo, hi) :: rest => lo ≤ n && (n ≤ hi || inRanges n rest)

namespace RangeTable

def containsCode (t : RangeTable) (n : Nat) : Bool :=
  inRanges n t.ranges

def contains (t : RangeTable) (c : Char) : Bool :=
  t.containsCode c.toNat

end RangeTable

theorem exists_mem_of_inRanges {n : Nat} : ∀ {rs : List (Nat × Nat)}, inRanges n rs = true →
    ∃ r ∈ rs, r.1 ≤ n ∧ n ≤ r.2
  | [], h => by simp [inRanges] at h
  | (lo, hi) :: rest, h => by
    simp only [inRanges, Bool.and_eq_true, Bool.or_eq_true, decide_eq_true_eq] at h
    obtain ⟨h1, h2 | h2⟩ := h
    · exact ⟨_, List.mem_cons_self .., h1, h2⟩
    · obtain ⟨r, hr, h3⟩ := exists_mem_of_inRanges h2
      exact ⟨r, List.mem_cons_of_mem _ hr, h3⟩

end RSource.Unicode
