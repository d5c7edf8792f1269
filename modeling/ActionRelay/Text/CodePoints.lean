/-!
# Text — classes of code points

A class of characters is a list of ranges of code points in ascending
order. Looking a code point up walks the list and stops at the first range
that lies behind it, so a class answers for plain text after a few steps.
`exists_range_of_inRanges` says that a code point is only found in a range
that holds it.
-/

namespace ActionRelay

namespace Text

/-- Code points from the first to the last component, both included. -/
abbrev CodeRange := Nat × Nat

/-- Whether a code point lies in one of the ranges, which stand in
ascending order. -/
def inRanges : List CodeRange → Nat → Bool
  | [], _ => false
  | (first, last) :: later, n =>
    if n < first then false else if n ≤ last then true else inRanges later n

/-- A range that is found holds the code point. -/
theorem exists_range_of_inRanges {ranges : List CodeRange} {n : Nat}
    (h : inRanges ranges n = true) : ∃ r ∈ ranges, r.1 ≤ n ∧ n ≤ r.2 := by
  induction ranges with
  | nil => simp [inRanges] at h
  | cons r later ih =>
    unfold inRanges at h
    split at h
    · cases h
    · split at h
      · exact ⟨r, by simp, by omega, by omega⟩
      · obtain ⟨s, hs, hle⟩ := ih h
        exact ⟨s, List.mem_cons_of_mem _ hs, hle⟩

end Text

end ActionRelay
