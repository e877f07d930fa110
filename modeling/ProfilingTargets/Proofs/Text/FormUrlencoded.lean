import ProfilingTargets.Text.FormUrlencoded
import ProfilingTargets.Proofs.Text.Split
import ProfilingTargets.Proofs.Text.Utf8

/-!
# Form-urlencoded text: what was written is read, however it was written

A list of pairs can be written as a query in many ways: most bytes may stand for themselves,
a space may be a plus sign, every byte may be two hexadecimal digits of either case, and there
may be any number of ampersands (`WritesByte`, `WritesText`, `WritesPair`, `WritesQuery`).
Reading undoes all of them alike (`decode_of_writesQuery`).

Reading goes in the opposite order: the query is cut before anything in it is decoded. This
works because no ampersand and no equals sign is left unescaped in a key or a value
(`WritesText.notMem`).
-/

namespace ProfilingTargets.FormUrlencoded

/-! ### The ways to write -/

/-- The bytes that do not stand for themselves: the percent sign, the ampersand, the plus
sign and the equals sign. -/
def reserved : List UInt8 := [0x25, 0x26, 0x2B, 0x3D]

/-- A hexadecimal digit of either case. -/
def IsHexDigit (d : UInt8) (value : Nat) : Prop :=
  value < 16 ∧ (d = UInt8.ofNat (Nat.digitChar value).toNat ∨
    d = UInt8.ofNat (Nat.digitChar value).toUpper.toNat)

/-- A byte, and how it may be written. -/
inductive WritesByte : UInt8 → Bytes → Prop where
  /-- As itself, if it is not reserved. -/
  | itself {b : UInt8} (h : b ∉ reserved) : WritesByte b [b]
  /-- A space as a plus sign. -/
  | plus : WritesByte 0x20 [0x2B]
  /-- As its two hexadecimal digits after a percent sign. -/
  | percent {b high low : UInt8} (hhigh : IsHexDigit high (b.toNat / 16))
    (hlow : IsHexDigit low (b.toNat % 16)) : WritesByte b [0x25, high, low]

/-- Bytes, and how they may be written, each in its own way. -/
inductive WritesBytes : Bytes → Bytes → Prop where
  /-- No bytes. -/
  | nil : WritesBytes [] []
  /-- One byte more. -/
  | cons {b : UInt8} {bs written more : Bytes} (h : WritesByte b written)
    (hmore : WritesBytes bs more) : WritesBytes (b :: bs) (written ++ more)

/-- Where no byte is reserved, each may stand for itself. -/
theorem WritesBytes.itself {bs : Bytes} (h : ∀ b ∈ bs, b ∉ reserved) : WritesBytes bs bs := by
  induction bs with
  | nil => exact .nil
  | cons b bs ih =>
    obtain ⟨hb, hbs⟩ := List.forall_mem_cons.1 h
    exact .cons (.itself hb) (ih hbs)

/-- A text, and how it may be written. -/
def WritesText (text : List Char) (written : Bytes) : Prop :=
  WritesBytes (Utf8.encode text) written

/-- A key with its value, and how they may be written. -/
def WritesPair (pair : List Char × List Char) (piece : Bytes) : Prop :=
  ∃ key value, WritesText pair.1 key ∧ WritesText pair.2 value ∧ piece = key ++ 0x3D :: value

/-- Pairs, and how they may be written as a query: one or more ampersands stand between them,
and any number before the first and after the last. -/
inductive WritesQuery : List (List Char × List Char) → Bytes → Prop where
  /-- No pairs. -/
  | nil : WritesQuery [] []
  /-- One ampersand more. -/
  | ampersand {pairs : List (List Char × List Char)} {query : Bytes}
    (h : WritesQuery pairs query) : WritesQuery pairs (0x26 :: query)
  /-- The last pair. -/
  | last {pair : List Char × List Char} {piece : Bytes} (h : WritesPair pair piece) :
    WritesQuery [pair] piece
  /-- One pair more. -/
  | cons {pair : List Char × List Char} {pairs : List (List Char × List Char)}
    {piece query : Bytes} (h : WritesPair pair piece) (hmore : WritesQuery pairs query) :
    WritesQuery (pair :: pairs) (piece ++ 0x26 :: query)

/-! ### Hexadecimal digits -/

theorem hexValue?_of_isHexDigit {d : UInt8} {value : Nat} (h : IsHexDigit d value) :
    hexValue? d = some (UInt8.ofNat value) := by
  obtain ⟨hlt, rfl | rfl⟩ := h <;> decide +revert

/-- A hexadecimal digit is none of the bytes that queries are cut at, and no plus sign. -/
theorem notMem_reserved_of_isHexDigit {d : UInt8} {value : Nat} (h : IsHexDigit d value) :
    d ∉ reserved := by
  obtain ⟨hlt, rfl | rfl⟩ := h <;> decide +revert

/-- A byte is put together from its two digits. -/
theorem digits_toByte (b : UInt8) :
    16 * UInt8.ofNat (b.toNat / 16) + UInt8.ofNat (b.toNat % 16) = b := by
  have hb : b.toNat < 256 := b.toNat_lt
  have hsixteen : (16 : UInt8).toNat = 16 := rfl
  apply UInt8.toNat_inj.1
  rw [UInt8.toNat_add, UInt8.toNat_mul, Utf8.toNat_byte (by omega), Utf8.toNat_byte (by omega),
    hsixteen]
  omega

/-! ### Keys and values -/

/-- Plus signs are spaces. -/
def plusToSpace (b : UInt8) : UInt8 := if b = 0x2B then 0x20 else b

theorem plusToSpace_of_notMem {b : UInt8} (h : b ∉ reserved) : plusToSpace b = b := by
  refine if_neg ?_
  rintro rfl
  exact h (by decide)

/-- What is no percent sign stands for itself. -/
theorem percentDecode_cons {b : UInt8} (h : b ≠ 0x25) (bs : Bytes) :
    percentDecode (b :: bs) = b :: percentDecode bs := by
  match bs with
  | [] => rfl
  | [_] => simp [percentDecode]
  | _ :: _ :: _ => rw [percentDecode, if_neg h]

/-- **A byte that was written is read**, however it was written. -/
theorem percentDecode_of_writesByte {b : UInt8} {written : Bytes} (h : WritesByte b written)
    (rest : Bytes) :
    percentDecode (written.map plusToSpace ++ rest) = b :: percentDecode rest := by
  cases h with
  | itself hb =>
    have hpercent : b ≠ 0x25 := by
      rintro rfl
      exact hb (by decide)
    rw [List.map_singleton, List.singleton_append, plusToSpace_of_notMem hb,
      percentDecode_cons hpercent]
  | plus => exact percentDecode_cons (by decide) rest
  | percent hhigh hlow =>
    simp only [List.map_cons, List.map_nil, List.cons_append, List.nil_append,
      plusToSpace_of_notMem (notMem_reserved_of_isHexDigit hhigh),
      plusToSpace_of_notMem (notMem_reserved_of_isHexDigit hlow)]
    rw [show plusToSpace 0x25 = 0x25 from rfl, percentDecode, if_pos rfl,
      hexValue?_of_isHexDigit hhigh, hexValue?_of_isHexDigit hlow]
    dsimp only
    rw [digits_toByte]

theorem percentDecode_of_writesBytes {bs written : Bytes} (h : WritesBytes bs written) :
    percentDecode (written.map plusToSpace) = bs := by
  induction h with
  | nil => rfl
  | cons hbyte _ ih => rw [List.map_append, percentDecode_of_writesByte hbyte, ih]

/-- **A text that was written is read.** -/
theorem decodePart_of_writesText {text : List Char} {written : Bytes}
    (h : WritesText text written) : decodePart written = text := by
  have hbytes : percentDecode (written.map fun b => if b = 0x2B then 0x20 else b) =
      Utf8.encode text := percentDecode_of_writesBytes h
  rw [decodePart, hbytes, Utf8.decodeLossy_encode]

/-- **No ampersand and no equals sign is left** where a text is written. -/
theorem WritesBytes.notMem {bs written : Bytes} (h : WritesBytes bs written) {sep : UInt8}
    (hsep : sep = 0x26 ∨ sep = 0x3D) : sep ∉ written := by
  have hreserved : sep ∈ reserved := by
    rcases hsep with rfl | rfl <;> decide
  induction h with
  | nil => exact List.not_mem_nil
  | cons hbyte _ ih =>
    refine List.not_mem_append ?_ ih
    cases hbyte with
    | itself hb =>
      rw [List.mem_singleton]
      rintro rfl
      exact hb hreserved
    | plus => rcases hsep with rfl | rfl <;> decide
    | percent hhigh hlow =>
      simp only [List.mem_cons, List.not_mem_nil, or_false, not_or]
      refine ⟨?_, ?_, ?_⟩
      · rcases hsep with rfl | rfl <;> decide
      · rintro rfl
        exact notMem_reserved_of_isHexDigit hhigh hreserved
      · rintro rfl
        exact notMem_reserved_of_isHexDigit hlow hreserved

/-! ### Pairs -/

section

variable {pair : List Char × List Char} {piece : Bytes}

/-- **A pair that was written is read**: the first equals sign is the one between the two. -/
theorem decodePair_of_writesPair (h : WritesPair pair piece) : decodePair piece = pair := by
  obtain ⟨key, value, hkey, hvalue, rfl⟩ := h
  have hcut : Split.splitFirst 0x3D (key ++ 0x3D :: value) = (key, value) :=
    Split.splitFirst_append_cons (WritesBytes.notMem hkey (.inr rfl)) value
  rw [decodePair, hcut]
  exact Prod.ext (decodePart_of_writesText hkey) (decodePart_of_writesText hvalue)

/-- Where a pair is written, no ampersand is left. -/
theorem WritesPair.ampersand_notMem (h : WritesPair pair piece) : 0x26 ∉ piece := by
  obtain ⟨key, value, hkey, hvalue, rfl⟩ := h
  exact List.not_mem_append (hkey.notMem (.inl rfl))
    (List.not_mem_cons_of_ne_of_not_mem (by decide) (hvalue.notMem (.inl rfl)))

theorem WritesPair.isEmpty_eq_false (h : WritesPair pair piece) : piece.isEmpty = false := by
  obtain ⟨key, value, -, -, rfl⟩ := h
  simp

end

/-! ### Queries -/

theorem decode_ampersand (query : Bytes) : decode (0x26 :: query) = decode query := by
  rw [decode, Split.splitOn_cons_self, List.filter_cons_of_neg (by simp), decode]

theorem decode_append_ampersand {piece : Bytes} (hpiece : 0x26 ∉ piece)
    (hne : piece.isEmpty = false) (query : Bytes) :
    decode (piece ++ 0x26 :: query) = decodePair piece :: decode query := by
  rw [decode, Split.splitOn_append_cons hpiece, List.filter_cons_of_pos (by simp [hne]),
    List.map_cons, decode]

/-- **Pairs that were written are read**, in order and however they were written. -/
theorem decode_of_writesQuery {pairs : List (List Char × List Char)} {query : Bytes}
    (h : WritesQuery pairs query) : decode query = pairs := by
  induction h with
  | nil => rfl
  | ampersand _ ih => rw [decode_ampersand, ih]
  | @last pair piece hpair =>
    have hcut := Split.splitOn_of_notMem hpair.ampersand_notMem
    rw [decode, hcut, List.filter_cons_of_pos (by simp [hpair.isEmpty_eq_false]), List.map_cons,
      decodePair_of_writesPair hpair]
    rfl
  | cons hpair _ ih =>
    rw [decode_append_ampersand hpair.ampersand_notMem hpair.isEmpty_eq_false,
      decodePair_of_writesPair hpair, ih]

end ProfilingTargets.FormUrlencoded
