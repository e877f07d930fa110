import ProfilingTargets.Text.Quoted

/-!
# Quoted literals: what was written is read

A literal gives back the text that it was written for (`decode_encode`), so that a message
shows which text it is about. What is read of an escape in hexadecimal is the number of the
digits so far (`decodeFrom_toDigits`). A literal ends at its closing quote (`decode_append`), so
that what comes after it in a message is not taken for a part of it; and all of it shows
(`isHidden_of_mem_encode`), so that it breaks no line.
-/

namespace ProfilingTargets.Quoted

theorem hexDigit?_digitChar {d : Nat} (h : d < 16) :
    Nat.digitChar d ≠ '\x7d' ∧ Numeral.hexDigit? (Nat.digitChar d) = some d := by
  decide +revert

/-- One digit more. -/
theorem decodeFrom_digitChar {d : Nat} (h : d < 16) (n : Nat) (rest : List Char) :
    decodeFrom (.digits n) (Nat.digitChar d :: rest) = decodeFrom (.digits (16 * n + d)) rest := by
  obtain ⟨hne, hdigit⟩ := hexDigit?_digitChar h
  rw [decodeFrom, if_neg hne, hdigit]

/-- **The digits of a number are read as the number.** -/
theorem decodeFrom_toDigits (n : Nat) (rest : List Char) :
    decodeFrom (.digits 0) (Nat.toDigits 16 n ++ rest) = decodeFrom (.digits n) rest := by
  induction n using Nat.strongRecOn generalizing rest with
  | ind n ih =>
    by_cases hn : n < 16
    · rw [Nat.toDigits_of_lt_base hn, List.singleton_append, decodeFrom_digitChar hn, Nat.zero_add]
    · have hdiv : n / 16 < n := Nat.div_lt_self (by omega) (by decide)
      have hmod : n % 16 < 16 := Nat.mod_lt n (by decide)
      rw [Nat.toDigits_of_base_le (by decide) (Nat.le_of_not_lt hn), List.append_assoc,
        List.singleton_append, ih (n / 16) hdiv, decodeFrom_digitChar hmod, Nat.div_add_mod]

/-- **A character is read back**, however it is written. -/
theorem decodeFrom_escape (c : Char) (rest : List Char) :
    decodeFrom .plain (escape c ++ rest) = (decodeFrom .plain rest).map (c :: ·) := by
  rw [escape]
  split
  case isTrue h => rw [h]; rfl
  split
  case isTrue h => rw [h]; rfl
  split
  case isTrue h => rw [h]; rfl
  split
  case isTrue h => rw [h]; rfl
  split
  case isTrue h => rcases h with rfl | rfl <;> rfl
  case isFalse hplain =>
    obtain ⟨hquote, hbackslash⟩ := not_or.1 hplain
    split
    case isTrue =>
      have hopen : decodeFrom .plain (['\\', 'u', '\x7b'] ++ Nat.toDigits 16 c.toNat ++ ['\x7d'] ++
          rest) = decodeFrom (.digits 0) (Nat.toDigits 16 c.toNat ++ '\x7d' :: rest) := by
        rw [List.append_assoc, List.append_assoc]
        rfl
      rw [hopen, decodeFrom_toDigits, decodeFrom, if_pos rfl, Char.ofNat_toNat]
    case isFalse => rw [List.singleton_append, decodeFrom, if_neg hquote, if_neg hbackslash]

/-- **A text is read back from its literal.** -/
theorem decode_encode (cs : List Char) : decode (encode cs) = some cs := by
  have hbody : ∀ cs, decodeFrom .plain (cs.flatMap escape ++ ['"']) = some cs := by
    intro cs
    induction cs with
    | nil => rfl
    | cons c cs ih =>
      rw [List.flatMap_cons, List.append_assoc, decodeFrom_escape, ih, Option.map_some]
  exact hbody cs

theorem encode_injective {cs cs' : List Char} (h : encode cs = encode cs') : cs = cs' := by
  have hread := congrArg decode h
  rwa [decode_encode, decode_encode, Option.some.injEq] at hread

/-! ### Where a literal ends -/

/-- What has been read to its end is not read if it goes on. -/
theorem decodeFrom_append {reading : Reading} {text value : List Char}
    (h : decodeFrom reading text = some value) {rest : List Char} (hrest : rest ≠ []) :
    decodeFrom reading (text ++ rest) = none := by
  fun_induction decodeFrom reading text generalizing value with
  | case1 | case3 | case8 | case10 | case13 => cases h
  | case2 =>
    rw [List.cons_append, List.nil_append, decodeFrom, if_pos rfl, if_neg hrest]
  | case4 text hquote ih =>
    rw [List.cons_append, decodeFrom, if_neg hquote, if_pos rfl, ih h]
  | case5 c text hquote hbackslash ih =>
    obtain ⟨later, hlater, -⟩ := Option.map_eq_some_iff.1 h
    rw [List.cons_append, decodeFrom, if_neg hquote, if_neg hbackslash, ih hlater, Option.map_none]
  | case6 text ih => rw [List.cons_append, decodeFrom, if_pos rfl, ih h]
  | case7 c text hnumber d hnamed ih =>
    obtain ⟨later, hlater, -⟩ := Option.map_eq_some_iff.1 h
    rw [List.cons_append, decodeFrom, if_neg hnumber, hnamed, ih hlater]
    rfl
  | case9 text ih => rw [List.cons_append, decodeFrom, if_pos rfl, ih h]
  | case11 n text ih =>
    obtain ⟨later, hlater, -⟩ := Option.map_eq_some_iff.1 h
    rw [List.cons_append, decodeFrom, if_pos rfl, ih hlater, Option.map_none]
  | case12 n c text hclosed d hdigit ih =>
    rw [List.cons_append, decodeFrom, if_neg hclosed, hdigit]
    exact ih h

/-- **A literal ends where it is read to**: none is the beginning of another one. -/
theorem decode_append {literal value : List Char} (h : decode literal = some value)
    {rest : List Char} (hrest : rest ≠ []) : decode (literal ++ rest) = none := by
  unfold decode at h
  split at h
  · exact decodeFrom_append h hrest
  · cases h

/-! ### Characters that show -/

/-- The characters of the category `Cc` of Unicode. -/
def IsControl (c : Char) : Prop := c.toNat ≤ 0x1F ∨ 0x7F ≤ c.toNat ∧ c.toNat ≤ 0x9F

/-- A character of ASCII that is no control. -/
def isGraphic (c : Char) : Bool := 0x20 ≤ c.toNat && c.toNat ≤ 0x7E

section

variable {c d : Char}

/-- No control shows. -/
theorem isHidden_of_isControl (h : IsControl c) : isHidden c = true := by
  have hunprintable : Unprintable.isUnprintable c = true := by
    rw [Unprintable.isUnprintable, List.any_eq_true]
    rcases h with h | h
    · exact ⟨(0x0, 0x1F), List.mem_cons_self, by simpa using h⟩
    · exact ⟨(0x7F, 0xA0), List.mem_cons_of_mem _ List.mem_cons_self, by simp; omega⟩
  rw [isHidden, hunprintable, Bool.or_true, Bool.true_or]

/-- Ranges that end before the graphic characters or begin after them hold none of them. -/
theorem any_eq_false_of_isGraphic {ranges : List (Nat × Nat)}
    (hranges : ranges.all (fun (low, high) => 0x7E < low || high < 0x20) = true)
    (h : isGraphic c = true) :
    ranges.any (fun (low, high) => low ≤ c.toNat && c.toNat ≤ high) = false := by
  rw [List.any_eq_false]
  intro range hrange
  have hout := List.all_eq_true.1 hranges range hrange
  simp only [isGraphic, Bool.or_eq_true, Bool.and_eq_true, decide_eq_true_eq] at h hout ⊢
  omega

/-- Graphic characters show. -/
theorem isHidden_of_isGraphic (h : isGraphic c = true) : isHidden c = false := by
  have hextender : GraphemeExtend.isExtender c = false :=
    any_eq_false_of_isGraphic (by decide +kernel) h
  have hunprintable : Unprintable.isUnprintable c = false :=
    any_eq_false_of_isGraphic (by decide +kernel) h
  have hfiller : isFiller c = false := by
    simp only [isFiller, Bool.or_eq_false_iff, beq_eq_false_iff_ne, ne_eq]
    refine ⟨⟨⟨?_, ?_⟩, ?_⟩, ?_⟩ <;> rintro rfl <;> exact absurd h (by decide)
  rw [isHidden, hextender, hunprintable, hfiller]
  rfl

theorem isHidden_of_all_isGraphic {text : List Char} (htext : text.all isGraphic = true)
    (h : c ∈ text) : isHidden c = false :=
  isHidden_of_isGraphic (List.all_eq_true.1 htext c h)

/-- Digits show, of any base up to 16. -/
theorem isHidden_of_mem_toDigits {base n : Nat} (hleast : 1 < base) (hgreatest : base ≤ 16)
    (h : c ∈ Nat.toDigits base n) : isHidden c = false := by
  have hdigit : ∀ d < 16, isGraphic (Nat.digitChar d) = true := by decide
  have hshown : ∀ d < base, isHidden (Nat.digitChar d) = false :=
    fun d hd => isHidden_of_isGraphic (hdigit d (Nat.lt_of_lt_of_le hd hgreatest))
  induction n using Nat.strongRecOn with
  | ind n ih =>
    by_cases hn : n < base
    · rw [Nat.toDigits_of_lt_base hn, List.mem_singleton] at h
      exact h ▸ hshown n hn
    · have hle : base ≤ n := Nat.le_of_not_lt hn
      rw [Nat.toDigits_of_base_le hleast hle, List.mem_append, List.mem_singleton] at h
      rcases h with h | rfl
      · exact ih (n / base) (Nat.div_lt_self (by omega) hleast) h
      · exact hshown _ (Nat.mod_lt n (by omega))

/-- **What a character is written as shows.** -/
theorem isHidden_of_mem_escape (h : d ∈ escape c) : isHidden d = false := by
  rw [escape] at h
  split at h
  case isTrue => exact isHidden_of_all_isGraphic (by decide) h
  split at h
  case isTrue => exact isHidden_of_all_isGraphic (by decide) h
  split at h
  case isTrue => exact isHidden_of_all_isGraphic (by decide) h
  split at h
  case isTrue => exact isHidden_of_all_isGraphic (by decide) h
  split at h
  case isTrue hc => rcases hc with rfl | rfl <;> exact isHidden_of_all_isGraphic (by decide) h
  split at h
  case isTrue =>
    rw [List.mem_append, List.mem_append] at h
    rcases h with (h | h) | h
    · exact isHidden_of_all_isGraphic (by decide) h
    · exact isHidden_of_mem_toDigits (by decide) (by decide) h
    · exact isHidden_of_all_isGraphic (by decide) h
  case isFalse hshown =>
    rw [List.mem_singleton.1 h]
    exact Bool.eq_false_iff.2 hshown

/-- **All of a literal shows.** -/
theorem isHidden_of_mem_encode {cs : List Char} (h : d ∈ encode cs) : isHidden d = false := by
  have hquote : isHidden '"' = false := isHidden_of_isGraphic (by decide)
  rw [encode, List.mem_append, List.mem_cons, List.mem_singleton, List.mem_flatMap] at h
  rcases h with (rfl | ⟨c, -, h⟩) | rfl
  · exact hquote
  · exact isHidden_of_mem_escape h
  · exact hquote

end

end ProfilingTargets.Quoted
