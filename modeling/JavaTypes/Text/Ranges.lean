/-!
# Sets of code points as ranges

A property of characters is stored as an ascending list of disjoint, inclusive
ranges of code points.
-/

namespace JavaTypes.Text

/-- Membership in an ascending list of inclusive ranges.  The search stops at
the first range that begins behind the code point. -/
def inRanges : List (Nat × Nat) → Nat → Bool
  | [], _ => false
  | (first, last) :: rest, code =>
      if code < first then false
      else if code ≤ last then true
      else inRanges rest code

/-- No range behind the one where the search stops holds the code point. -/
theorem inRanges_eq_true_iff
    {ranges : List (Nat × Nat)}
    (ascending : ranges.Pairwise fun before after => before.1 ≤ after.1)
    (code : Nat) :
    inRanges ranges code = true ↔
      ∃ range ∈ ranges, range.1 ≤ code ∧ code ≤ range.2 := by
  induction ascending with
  | nil => simp [inRanges]
  | @cons range later begins _ inductionHypothesis =>
      simp only [inRanges, List.mem_cons, exists_eq_or_imp,
        ← inductionHypothesis]
      by_cases early : code < range.1
      · have notLater : ¬ inRanges later code = true := by
          rw [inductionHypothesis]
          intro ⟨other, member, start, _⟩
          have order := begins other member
          omega
        simp [early, notLater, Nat.not_le.mpr early]
      · by_cases within : code ≤ range.2
        · simp [early, within, Nat.le_of_not_lt early]
        · simp [early, within]

end JavaTypes.Text
