import ProfilingTargets.Text.Utf8

/-!
# UTF-8: reading and writing agree

Reading takes back what writing puts down, character by character (`pieces_encodeChar`),
and reads nothing else without an ill-formed stretch: a text has one form as bytes
(`decode?_eq_some_iff`).

A character has one, two, three or four bytes, and its first byte opens as many; a byte
that goes on has to lie in the range that is open (`piecesFrom_last`, `piecesFrom_more`).
-/

namespace ProfilingTargets.Utf8

/-! ### Characters by their numbers -/

/-- A number that is a character's: it is not a surrogate, and not too great. -/
def IsScalar (n : Nat) : Prop := n < 0xD800 ∨ (0xDFFF < n ∧ n < 0x110000)

theorem isScalar_toNat (c : Char) : IsScalar c.toNat := c.valid

theorem toNat_ofNat_of_isScalar {n : Nat} (h : IsScalar n) : (Char.ofNat n).toNat = n := by
  have hvalid : n.isValidChar := h
  rw [Char.ofNat, dif_pos hvalid]
  rfl

section

variable {n : Nat}

/-- Where the bytes of a character come from its number, `encodeChar` says the same. -/
theorem encodeChar_ofNat_one (h : n < 0x80) : encodeChar (Char.ofNat n) = [UInt8.ofNat n] := by
  simp only [encodeChar, toNat_ofNat_of_isScalar (.inl (by omega : n < 0xD800)), h, if_true]

theorem encodeChar_ofNat_two (h : 0x80 ≤ n) (h' : n < 0x800) :
    encodeChar (Char.ofNat n) = [UInt8.ofNat (0xC0 + n / 64), UInt8.ofNat (0x80 + n % 64)] := by
  simp only [encodeChar, toNat_ofNat_of_isScalar (.inl (by omega : n < 0xD800)),
    Nat.not_lt.2 h, h', if_false, if_true]

theorem encodeChar_ofNat_three (hn : IsScalar n) (h : 0x800 ≤ n) (h' : n < 0x10000) :
    encodeChar (Char.ofNat n) = [UInt8.ofNat (0xE0 + n / 4096),
      UInt8.ofNat (0x80 + n / 64 % 64), UInt8.ofNat (0x80 + n % 64)] := by
  simp only [encodeChar, toNat_ofNat_of_isScalar hn, Nat.not_lt.2 h,
    Nat.not_lt.2 (by omega : 0x80 ≤ n), h', if_false, if_true]

theorem encodeChar_ofNat_four (hn : IsScalar n) (h : 0x10000 ≤ n) :
    encodeChar (Char.ofNat n) = [UInt8.ofNat (0xF0 + n / 262144),
      UInt8.ofNat (0x80 + n / 4096 % 64), UInt8.ofNat (0x80 + n / 64 % 64),
      UInt8.ofNat (0x80 + n % 64)] := by
  simp only [encodeChar, toNat_ofNat_of_isScalar hn, Nat.not_lt.2 h,
    Nat.not_lt.2 (by omega : 0x80 ≤ n), Nat.not_lt.2 (by omega : 0x800 ≤ n), if_false]

end

/-! ### First bytes -/

section

variable {b : Nat}

theorem first_one (h : b < 0x80) : first b = ([some (Char.ofNat b)], none) := by
  simp only [first, h, if_true]

theorem first_two (h : 0xC2 ≤ b) (h' : b ≤ 0xDF) :
    first b = ([], some ⟨b - 0xC0, 0, 0x80, 0xBF⟩) := by
  simp only [first, Nat.not_lt.2 (by omega : 0x80 ≤ b), h, h', and_self, if_false, if_true]

/-- The least and the greatest second byte of three: neither short nor a surrogate. -/
theorem first_three (h : 0xE0 ≤ b) (h' : b ≤ 0xEF) :
    first b = ([], some ⟨b - 0xE0, 1, if b = 0xE0 then 0xA0 else 0x80,
      if b = 0xED then 0x9F else 0xBF⟩) := by
  have hone : ¬ b < 0x80 := by omega
  have htwo : ¬ (0xC2 ≤ b ∧ b ≤ 0xDF) := by omega
  by_cases he0 : b = 0xE0
  · subst he0; rfl
  by_cases hed : b = 0xED
  · subst hed; rfl
  have hthree : 0xE1 ≤ b ∧ b ≤ 0xEF := by omega
  simp only [first, hone, htwo, he0, hed, hthree, and_self, if_false, if_true]

/-- The least and the greatest second byte of four: neither short nor too great. -/
theorem first_four (h : 0xF0 ≤ b) (h' : b ≤ 0xF4) :
    first b = ([], some ⟨b - 0xF0, 2, if b = 0xF0 then 0x90 else 0x80,
      if b = 0xF4 then 0x8F else 0xBF⟩) := by
  have hcases : b = 0xF0 ∨ b = 0xF1 ∨ b = 0xF2 ∨ b = 0xF3 ∨ b = 0xF4 := by omega
  rcases hcases with rfl | rfl | rfl | rfl | rfl <;> rfl

/-- No other byte comes first. -/
theorem first_none (h : 0x80 ≤ b ∧ b < 0xC2 ∨ 0xF4 < b) : first b = ([none], none) := by
  have hone : ¬ b < 0x80 := by omega
  have htwo : ¬ (0xC2 ≤ b ∧ b ≤ 0xDF) := by omega
  have hthree : ¬ (0xE1 ≤ b ∧ b ≤ 0xEF) := by omega
  have hfour : ¬ (0xF1 ≤ b ∧ b ≤ 0xF3) := by omega
  have he0 : ¬ b = 0xE0 := by omega
  have hed : ¬ b = 0xED := by omega
  have hf0 : ¬ b = 0xF0 := by omega
  have hf4 : ¬ b = 0xF4 := by omega
  simp only [first, hone, htwo, he0, hed, hthree, hf0, hfour, hf4, if_false]

end

/-! ### Bytes that go on -/

theorem piecesFrom_none (b : UInt8) (bs : Bytes) :
    piecesFrom none (b :: bs) = (first b.toNat).1 ++ piecesFrom (first b.toNat).2 bs := rfl

section

variable {value low high : Nat} {b : UInt8}

/-- The last byte of a character completes it. -/
theorem piecesFrom_last (h : low ≤ b.toNat) (h' : b.toNat ≤ high) (bs : Bytes) :
    piecesFrom (some ⟨value, 0, low, high⟩) (b :: bs) =
      some (Char.ofNat (value * 64 + (b.toNat - 0x80))) :: piecesFrom none bs := by
  simp only [piecesFrom, step, h, h', and_self, if_true]
  rfl

/-- A byte that is not the last one leaves fewer missing. -/
theorem piecesFrom_more (h : low ≤ b.toNat) (h' : b.toNat ≤ high) (after : Nat) (bs : Bytes) :
    piecesFrom (some ⟨value, after + 1, low, high⟩) (b :: bs) =
      piecesFrom (some ⟨value * 64 + (b.toNat - 0x80), after, 0x80, 0xBF⟩) bs := by
  simp only [piecesFrom, step, h, h', and_self, if_true]
  rfl

/-- **What is open is ill-formed unless a byte in its range goes on.** -/
theorem exists_cons_of_piecesFrom {o : Open} {bs : Bytes} {cs : List Char}
    (h : piecesFrom (some o) bs = cs.map some) :
    ∃ b rest, bs = b :: rest ∧ o.low ≤ b.toNat ∧ b.toNat ≤ o.high := by
  cases bs with
  | nil =>
    cases cs with
    | nil => cases h
    | cons c cs => cases h
  | cons b rest =>
    by_cases hb : o.low ≤ b.toNat ∧ b.toNat ≤ o.high
    · exact ⟨b, rest, rfl, hb.1, hb.2⟩
    · simp only [piecesFrom, step, hb, if_false, List.cons_append] at h
      cases cs <;> cases h

end

/-! ### Reading what was written -/

/-- A byte's number, where it is below 256. -/
theorem toNat_byte {n : Nat} (h : n < 256) : (UInt8.ofNat n).toNat = n :=
  UInt8.toNat_ofNat_of_lt' h

/-- **A character that was written is read.** -/
theorem pieces_encodeChar (c : Char) (rest : Bytes) :
    pieces (encodeChar c ++ rest) = some c :: pieces rest := by
  obtain ⟨n, hn, rfl⟩ : ∃ n, IsScalar n ∧ Char.ofNat n = c :=
    ⟨c.toNat, isScalar_toNat c, Char.ofNat_toNat c⟩
  have hbound : n < 0x110000 := by rcases hn with h | h <;> omega
  rcases (by omega : n < 0x80 ∨ (0x80 ≤ n ∧ n < 0x800) ∨ (0x800 ≤ n ∧ n < 0x10000) ∨
    0x10000 ≤ n) with h | ⟨h, h'⟩ | ⟨h, h'⟩ | h
  · rw [encodeChar_ofNat_one h, List.singleton_append, pieces, piecesFrom_none,
      toNat_byte (by omega), first_one h]
    rfl
  · rw [encodeChar_ofNat_two h h']
    have h0 : (UInt8.ofNat (0xC0 + n / 64)).toNat = 0xC0 + n / 64 := toNat_byte (by omega)
    have h1 : (UInt8.ofNat (0x80 + n % 64)).toNat = 0x80 + n % 64 := toNat_byte (by omega)
    simp only [List.cons_append, List.nil_append, pieces, piecesFrom_none, h0]
    rw [first_two (by omega) (by omega), List.nil_append,
      piecesFrom_last (by omega) (by omega), h1,
      (by omega : (0xC0 + n / 64 - 0xC0) * 64 + (0x80 + n % 64 - 0x80) = n)]
  · rw [encodeChar_ofNat_three hn h h']
    have h0 : (UInt8.ofNat (0xE0 + n / 4096)).toNat = 0xE0 + n / 4096 := toNat_byte (by omega)
    have h1 : (UInt8.ofNat (0x80 + n / 64 % 64)).toNat = 0x80 + n / 64 % 64 :=
      toNat_byte (by omega)
    have h2 : (UInt8.ofNat (0x80 + n % 64)).toNat = 0x80 + n % 64 := toNat_byte (by omega)
    simp only [List.cons_append, List.nil_append, pieces, piecesFrom_none, h0]
    rw [first_three (by omega) (by omega), List.nil_append, piecesFrom_more ?_ ?_,
      piecesFrom_last (by omega) (by omega), h1, h2, (by omega : ((0xE0 + n / 4096 - 0xE0) * 64 +
        (0x80 + n / 64 % 64 - 0x80)) * 64 + (0x80 + n % 64 - 0x80) = n)]
    · rw [h1]; split <;> omega
    · rw [h1]; rcases hn with hn | hn <;> split <;> omega
  · rw [encodeChar_ofNat_four hn h]
    have h0 : (UInt8.ofNat (0xF0 + n / 262144)).toNat = 0xF0 + n / 262144 :=
      toNat_byte (by omega)
    have h1 : (UInt8.ofNat (0x80 + n / 4096 % 64)).toNat = 0x80 + n / 4096 % 64 :=
      toNat_byte (by omega)
    have h2 : (UInt8.ofNat (0x80 + n / 64 % 64)).toNat = 0x80 + n / 64 % 64 :=
      toNat_byte (by omega)
    have h3 : (UInt8.ofNat (0x80 + n % 64)).toNat = 0x80 + n % 64 := toNat_byte (by omega)
    simp only [List.cons_append, List.nil_append, pieces, piecesFrom_none, h0]
    rw [first_four (by omega) (by omega), List.nil_append, piecesFrom_more ?_ ?_,
      piecesFrom_more (by omega) (by omega), piecesFrom_last (by omega) (by omega), h1, h2, h3,
      (by omega : (((0xF0 + n / 262144 - 0xF0) * 64 + (0x80 + n / 4096 % 64 - 0x80)) * 64 +
        (0x80 + n / 64 % 64 - 0x80)) * 64 + (0x80 + n % 64 - 0x80) = n)]
    · rw [h1]; split <;> omega
    · rw [h1]; split <;> omega

theorem pieces_encode (cs : List Char) : pieces (encode cs) = cs.map some := by
  induction cs with
  | nil => rfl
  | cons c cs ih =>
    rw [encode, List.flatMap_cons, pieces_encodeChar, List.map_cons]
    exact congrArg _ ih

/-! ### Writing what was read -/

/-- **Whatever is read first, if it is well-formed, is a character as it is written.** -/
theorem exists_encodeChar_of_pieces {b : UInt8} {bs : Bytes} {cs : List Char}
    (h : pieces (b :: bs) = cs.map some) :
    ∃ c rest cs', b :: bs = encodeChar c ++ rest ∧ cs = c :: cs' ∧
      pieces rest = cs'.map some := by
  have hb : b.toNat < 256 := b.toNat_lt
  rw [pieces, piecesFrom_none] at h
  have hbyte : ∀ (b : UInt8) (n : Nat), n = b.toNat → UInt8.ofNat n = b := by
    rintro b n rfl
    exact UInt8.ofNat_toNat
  -- what completes a character is its number, and gives back its bytes
  have hread : ∀ (n : Nat) (rest : Bytes), some (Char.ofNat n) :: pieces rest = cs.map some →
      b :: bs = encodeChar (Char.ofNat n) ++ rest →
      ∃ c rest cs', b :: bs = encodeChar c ++ rest ∧ cs = c :: cs' ∧
        pieces rest = cs'.map some := by
    intro n rest hpieces hbytes
    cases cs with
    | nil => cases hpieces
    | cons c cs =>
      obtain ⟨rfl, htail⟩ : Char.ofNat n = c ∧ pieces rest = cs.map some := by
        simpa using hpieces
      exact ⟨_, rest, cs, hbytes, rfl, htail⟩
  rcases (by omega : b.toNat < 0x80 ∨ (0xC2 ≤ b.toNat ∧ b.toNat ≤ 0xDF) ∨
    (0xE0 ≤ b.toNat ∧ b.toNat ≤ 0xEF) ∨ (0xF0 ≤ b.toNat ∧ b.toNat ≤ 0xF4) ∨
    (0x80 ≤ b.toNat ∧ b.toNat < 0xC2 ∨ 0xF4 < b.toNat)) with
    h0 | ⟨h0, h0'⟩ | ⟨h0, h0'⟩ | ⟨h0, h0'⟩ | h0
  · rw [first_one h0] at h
    refine hread b.toNat bs h ?_
    rw [encodeChar_ofNat_one h0, hbyte b _ rfl, List.singleton_append]
  · rw [first_two h0 h0', List.nil_append] at h
    obtain ⟨b1, rest, rfl, h1, h1'⟩ := exists_cons_of_piecesFrom h
    dsimp only at h1 h1'
    rw [piecesFrom_last h1 h1'] at h
    refine hread _ rest h ?_
    rw [encodeChar_ofNat_two (by omega) (by omega), hbyte b _ (by omega), hbyte b1 _ (by omega)]
    rfl
  · rw [first_three h0 h0', List.nil_append] at h
    obtain ⟨b1, rest, rfl, h1, h1'⟩ := exists_cons_of_piecesFrom h
    rw [piecesFrom_more h1 h1'] at h
    obtain ⟨b2, rest, rfl, h2, h2'⟩ := exists_cons_of_piecesFrom h
    rw [piecesFrom_last h2 h2'] at h
    dsimp only at h1 h1' h2 h2'
    refine hread _ rest h ?_
    rw [encodeChar_ofNat_three, hbyte b _, hbyte b1 _, hbyte b2 _]
    · rfl
    all_goals (try unfold IsScalar); split at h1 <;> split at h1' <;> omega
  · rw [first_four h0 h0', List.nil_append] at h
    obtain ⟨b1, rest, rfl, h1, h1'⟩ := exists_cons_of_piecesFrom h
    rw [piecesFrom_more h1 h1'] at h
    obtain ⟨b2, rest, rfl, h2, h2'⟩ := exists_cons_of_piecesFrom h
    rw [piecesFrom_more h2 h2'] at h
    obtain ⟨b3, rest, rfl, h3, h3'⟩ := exists_cons_of_piecesFrom h
    rw [piecesFrom_last h3 h3'] at h
    dsimp only at h1 h1' h2 h2' h3 h3'
    refine hread _ rest h ?_
    rw [encodeChar_ofNat_four, hbyte b _, hbyte b1 _, hbyte b2 _, hbyte b3 _]
    · rfl
    all_goals (try unfold IsScalar); split at h1 <;> split at h1' <;> omega
  · rw [first_none h0] at h
    cases cs <;> cases h

/-! ### Texts -/

theorem decode?_eq_some_iff_pieces {bs : Bytes} {cs : List Char} :
    decode? bs = some cs ↔ pieces bs = cs.map some := by
  rw [decode?]
  generalize pieces bs = ps
  induction ps generalizing cs with
  | nil => cases cs <;> simp
  | cons p ps ih =>
    cases p with
    | none => cases cs <;> simp
    | some c =>
      cases cs with
      | nil => simp [Option.bind_eq_some_iff]
      | cons c' cs => simp [← ih, Option.bind_eq_some_iff, and_left_comm]

theorem decode?_encode (cs : List Char) : decode? (encode cs) = some cs :=
  decode?_eq_some_iff_pieces.2 (pieces_encode cs)

/-- **Bytes are text in one way: as the text is written.** -/
theorem decode?_eq_some_iff {bs : Bytes} {cs : List Char} :
    decode? bs = some cs ↔ bs = encode cs := by
  constructor
  · intro h
    rw [decode?_eq_some_iff_pieces] at h
    induction cs generalizing bs with
    | nil =>
      cases bs with
      | nil => rfl
      | cons b bs =>
        obtain ⟨c, rest, cs', -, hcs, -⟩ := exists_encodeChar_of_pieces h
        cases hcs
    | cons c cs ih =>
      cases bs with
      | nil => cases h
      | cons b bs =>
        obtain ⟨c', rest, cs', hbytes, hcs, hrest⟩ := exists_encodeChar_of_pieces h
        obtain ⟨rfl, rfl⟩ := List.cons.inj hcs
        rw [hbytes, ih hrest]
        rfl
  · rintro rfl
    exact decode?_encode cs

theorem encode_append (cs cs' : List Char) : encode (cs ++ cs') = encode cs ++ encode cs' :=
  List.flatMap_append

/-- Texts put together are written as what is written of each, put together. -/
theorem encode_intercalate (sep : List Char) (texts : List (List Char)) :
    encode (sep.intercalate texts) = (encode sep).intercalate (texts.map encode) := by
  induction texts with
  | nil => rfl
  | cons text texts ih =>
    cases texts with
    | nil => simp
    | cons next rest =>
      rw [List.intercalate_cons_cons, encode_append, encode_append, ih]
      simp only [List.map_cons, List.intercalate_cons_cons]

theorem decodeLossy_encode (cs : List Char) : decodeLossy (encode cs) = cs := by
  rw [decodeLossy, pieces_encode, List.map_map]
  exact List.map_id cs

/-- Where nothing is ill-formed, nothing is mended. -/
theorem encode_decodeLossy {bs : Bytes} (h : (decode? bs).isSome) :
    encode (decodeLossy bs) = bs := by
  obtain ⟨cs, hcs⟩ := Option.isSome_iff_exists.1 h
  rw [decode?_eq_some_iff.1 hcs, decodeLossy_encode]

/-- Text after a character is text exactly if it is text with the character. -/
theorem decode?_encodeChar_append (c : Char) (bs : Bytes) :
    decode? (encodeChar c ++ bs) = (decode? bs).map (c :: ·) := by
  rw [decode?, pieces_encodeChar, decode?]
  simp only [List.mapM_cons, id_eq]
  cases (pieces bs).mapM id <;> rfl

end ProfilingTargets.Utf8
