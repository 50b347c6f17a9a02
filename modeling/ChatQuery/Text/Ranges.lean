/-! Sets of characters given by ranges of code points in ascending order. -/
namespace ChatQuery.Text

/-- Whether a code point lies in one of the ranges. The search stops at the first range that begins
after it. -/
def inRanges (code : Nat) : List (Nat × Nat) → Bool
  | [] => false
  | (low, high) :: ranges => if code < low then false else code ≤ high || inRanges code ranges

theorem exists_of_inRanges {code : Nat} {ranges : List (Nat × Nat)}
    (h : inRanges code ranges = true) : ∃ r ∈ ranges, r.1 ≤ code ∧ code ≤ r.2 := by
  induction ranges with
  | nil => simp [inRanges] at h
  | cons r rs ih =>
    obtain ⟨low, high⟩ := r
    unfold inRanges at h
    split at h
    · simp at h
    · simp only [Bool.or_eq_true, decide_eq_true_eq] at h
      rcases h with h | h
      · exact ⟨(low, high), by simp, by omega, h⟩
      · obtain ⟨r, hr, hc⟩ := ih h
        exact ⟨r, by simp [hr], hc⟩

end ChatQuery.Text
