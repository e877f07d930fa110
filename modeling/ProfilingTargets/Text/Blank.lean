/-!
# Blank characters

The characters with the Unicode property `White_Space`, and trimming by it.
-/

namespace ProfilingTargets.Blank

/-- `White_Space` of Unicode: the ASCII blanks, the next-line character, the
no-break spaces and the spaces and separators of the general punctuation block. -/
def isBlank (c : Char) : Bool :=
  let n := c.toNat
  (0x09 ≤ n && n ≤ 0x0D) || n == 0x20 || n == 0x85 || n == 0xA0 || n == 0x1680 ||
    (0x2000 ≤ n && n ≤ 0x200A) || n == 0x2028 || n == 0x2029 || n == 0x202F || n == 0x205F ||
    n == 0x3000

/-- A text without the blanks at its two ends. -/
def trim (cs : List Char) : List Char :=
  ((cs.dropWhile isBlank).reverse.dropWhile isBlank).reverse

end ProfilingTargets.Blank
