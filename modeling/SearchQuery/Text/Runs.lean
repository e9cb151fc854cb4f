/-!
Maximal runs of characters.
-/

namespace SearchQuery.Text

/-- The maximal runs of characters that pass a test, in order. -/
def runs (test : Char → Bool) : List Char → List (List Char)
  | [] => []
  | c :: rest =>
    if test c then (c :: rest.takeWhile test) :: runs test (rest.dropWhile test)
    else runs test rest
termination_by cs => cs.length
decreasing_by
  · exact Nat.lt_succ_of_le (List.dropWhile_sublist test).length_le
  · exact Nat.lt_succ_self _

end SearchQuery.Text
