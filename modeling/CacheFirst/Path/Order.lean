import CacheFirst.Path.Basic

/-!
# The order of paths

Paths are ordered by scheme, then authority, then body. A missing part comes before every part that
is there, and text is ordered by code point. The order is total, and two paths compare as equal only
when they are the same path.
-/

namespace CacheFirst.Path

/-- By scheme, then authority, then body. -/
instance : Ord Path where
  compare := compareLex (compareOn Path.scheme)
    (compareLex (compareOn Path.authority) (compareOn Path.body))

instance : Std.TransOrd Path :=
  inferInstanceAs (Std.TransCmp (compareLex (compareOn Path.scheme)
    (compareLex (compareOn Path.authority) (compareOn Path.body))))

instance : Std.LawfulEqOrd Path where
  eq_of_compare {left right} same := by
    have parts : (compareOn Path.scheme left right).then
        ((compareOn Path.authority left right).then (compareOn Path.body left right)) = .eq := same
    rw [Ordering.then_eq_eq, Ordering.then_eq_eq] at parts
    obtain ⟨scheme, authority, body⟩ := parts
    cases left
    cases right
    congr
    · exact Std.LawfulEqOrd.eq_of_compare scheme
    · exact Std.LawfulEqOrd.eq_of_compare authority
    · exact Std.LawfulEqOrd.eq_of_compare body

/-- Paths in order, equal ones next to each other. -/
def sorted (paths : List Path) : List Path :=
  paths.mergeSort fun left right => (compare left right).isLE

end CacheFirst.Path
