/-!
# Splitting

Lists cut at every occurrence of a separator.
-/

namespace ProfilingTargets.Split

/-- The pieces of a list between occurrences of `sep`; always at least one. -/
def splitOn {α : Type} [DecidableEq α] (sep : α) (xs : List α) : List (List α) :=
  xs.foldr (fun x pieces =>
    if x = sep then [] :: pieces else (x :: pieces.headD []) :: pieces.tail) [[]]

/-- What stands before the first `sep` and after it; nothing stands after none. -/
def splitFirst {α : Type} [DecidableEq α] (sep : α) (xs : List α) : List α × List α :=
  (xs.takeWhile (· ≠ sep), (xs.dropWhile (· ≠ sep)).drop 1)

end ProfilingTargets.Split
