import ProfilingTargets.Text.Numeral
import ProfilingTargets.Text.Split

/-!
# Host names

What may be looked up as the name of a host: labels between points, each of one to 63
letters, digits, hyphens and underscores, 253 characters with the points. The first
label begins with no hyphen. One more point may stand at the end, and a point alone is
the name of the root.

A backslash before three digits stands for the character with that number, and before
any other character for that character. What is written so is no separator.
-/

namespace ProfilingTargets.HostName

/-- The characters of a name, `none` for each point that separates labels. -/
def characters? : List Char → Option (List (Option Char))
  | [] => some []
  | '.' :: rest => (characters? rest).map (none :: ·)
  | '\\' :: a :: b :: c :: rest =>
    if a.isDigit then
      match Numeral.read? 256 [a, b, c] with
      | some n => (characters? rest).map (some (Char.ofNat n) :: ·)
      | none => none
    else (characters? (b :: c :: rest)).map (some a :: ·)
  | '\\' :: a :: rest => if a.isDigit then none else (characters? rest).map (some a :: ·)
  | c :: rest => if c = '\\' then none else (characters? rest).map (some c :: ·)

/-- The characters of labels. -/
def isLabelCharacter (c : Option Char) : Bool :=
  c.any fun c => c.isAlphanum || c == '-' || c == '_'

/-- The longest label. -/
def greatestLabel : Nat := 63

/-- The longest name, with a point after each label. -/
def greatestName : Nat := 254

/-- Whether these are labels of a name. -/
def areLabels (labels : List (List (Option Char))) : Bool :=
  !labels.isEmpty && labels.all (fun label =>
    !label.isEmpty && label.length ≤ greatestLabel && label.all isLabelCharacter) &&
  labels.head?.bind List.head? != some (some '-') &&
  labels.foldl (fun length label => length + label.length + 1) 0 ≤ greatestName

/-- Whether a text is the name of a host. -/
def isName (cs : List Char) : Bool :=
  cs == ['.'] ||
    match characters? cs with
    | none => false
    | some characters =>
      let labels := Split.splitOn none characters
      areLabels (if labels.getLast? = some [] then labels.dropLast else labels)

end ProfilingTargets.HostName
