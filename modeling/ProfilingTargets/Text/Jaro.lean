/-!
# Jaro similarity

How alike two words are, between 0 and 1. A character of the first word matches an
equal character of the second that is not matched yet and stands at most half the
longer word's length, less one, away. The similarity is the mean of three shares:
the matched characters in each word, and those of them that are in the same order.
The mean is taken in double precision, which decides what lies on a threshold.
-/

namespace ProfilingTargets.Jaro

/-- Marks the first unmarked `c` of a word that stands at `position` or later and
before `stop`; the word begins at index `index`. -/
def mark? (c : Char) (start stop : Nat) :
    Nat → List (Char × Bool) → Option (List (Char × Bool))
  | _, [] => none
  | index, (d, marked) :: rest =>
    if start ≤ index ∧ index < stop ∧ c = d ∧ !marked then some ((d, true) :: rest)
    else (mark? c start stop (index + 1) rest).map ((d, marked) :: ·)

/-- The matched characters of the first word in order, and the second word with its
matched characters marked. -/
def matching (range : Nat) :
    Nat → List Char → List (Char × Bool) → List Char × List (Char × Bool)
  | _, [], marked => ([], marked)
  | index, c :: cs, marked =>
    match mark? c (index - range) (index + range + 1) 0 marked with
    | some marked =>
      let (cs, marked) := matching range (index + 1) cs marked
      (c :: cs, marked)
    | none => matching range (index + 1) cs marked

/-- The similarity of two words. -/
def similarity (a b : List Char) : Float :=
  if a.isEmpty && b.isEmpty then 1
  else if a.isEmpty || b.isEmpty then 0
  else
    let range := max a.length b.length / 2 - 1
    let (inFirst, marked) := matching range 0 a (b.map (·, false))
    let inSecond := (marked.filter (·.2)).map (·.1)
    let matched := inFirst.length
    let outOfOrder := ((inFirst.zip inSecond).countP fun (c, d) => c != d) / 2
    if matched = 0 then 0
    else
      (Float.ofNat matched / Float.ofNat a.length + Float.ofNat matched / Float.ofNat b.length +
        Float.ofNat (matched - outOfOrder) / Float.ofNat matched) / 3

end ProfilingTargets.Jaro
