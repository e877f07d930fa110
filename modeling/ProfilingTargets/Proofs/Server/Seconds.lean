import ProfilingTargets.Server.Seconds
import ProfilingTargets.Proofs.Text.FormUrlencoded
import ProfilingTargets.Proofs.Text.Numeral
import ProfilingTargets.Proofs.Text.Quoted
import Mathlib.Data.List.Forall2

/-!
# The length of a capture: what a query says, however it is written

Only the values that a query gives for the seconds count, in their order (`values`). The first
of them that is no whole number is refused, good ones after it notwithstanding; if there is no
such value, the last one decides, and only its range is looked at (`Outcome`).

## What is proved

* `ofPairs_eq_foldlM`: pairs are read by going once over these values.
* `bind_ofPairs_eq_iff`: what they come to, and `range_of_ofQuery`: no query gives a number out
  of range.
* `message_secondsNotWhole`: the message of a refusal quotes the value, so that it can be told
  from the message.
* `ofQuery_of_isQueryFor`: what a query comes to depends on the pairs that it says and not on how
  they are written.
-/

namespace ProfilingTargets.Server.Seconds

/-! ### Values -/

/-- The values that pairs give for the seconds, in order. -/
def values (pairs : List (List Char × List Char)) : List (List Char) :=
  (pairs.filter (·.1 = "seconds".toList)).map (·.2)

/-- A value that is a whole number of 64 bits. -/
def IsWhole (value : List Char) (n : Nat) : Prop :=
  Numeral.Denotes value n ∧ n < 18446744073709551616

theorem readValue_eq_ok_iff {value : List Char} {n : Nat} :
    readValue value = .ok n ↔ IsWhole value n := by
  have hread : Numeral.read? UInt64.size value = some n ↔ IsWhole value n :=
    Numeral.read?_eq_some_iff
  rw [← hread, readValue]
  cases Numeral.read? UInt64.size value <;> simp

theorem readValue_of_not_isWhole {value : List Char} (h : ∀ n, ¬ IsWhole value n) :
    readValue value = .error (.secondsNotWhole value) := by
  simp only [← readValue_eq_ok_iff] at h
  rw [readValue] at h ⊢
  cases hread : Numeral.read? UInt64.size value with
  | none => rfl
  | some n =>
    rw [hread] at h
    exact absurd rfl (h n)

theorem values_cons (pair : List Char × List Char) (pairs : List (List Char × List Char)) :
    values (pair :: pairs) = if pair.1 = key then pair.2 :: values pairs else values pairs := by
  simp only [values, List.filter_cons, decide_eq_true_eq]
  exact apply_ite (List.map Prod.snd) (pair.1 = key) _ _

/-- **Pairs are read in one pass over the values**, each taking the place of the one before. -/
theorem ofPairs_eq_foldlM (n : Nat) (pairs : List (List Char × List Char)) :
    ofPairs n pairs = (values pairs).foldlM (fun _ value => readValue value) n := by
  induction pairs generalizing n with
  | nil => rfl
  | cons pair pairs ih =>
    rw [ofPairs, values_cons]
    by_cases hkey : pair.1 = key
    · rw [if_pos hkey, if_pos hkey, List.foldlM_cons]
      cases readValue pair.2 with
      | ok m => exact ih m
      | error e => rfl
    · rw [if_neg hkey, if_neg hkey]
      exact ih n

/-! ### What values come to -/

/-- **What the values of a query come to.** -/
inductive Outcome (vs : List (List Char)) : Except ArgumentError Nat → Prop where
  /-- One is no whole number, and those before it are: it is refused. -/
  | notWhole {whole later : List (List Char)} {bad : List Char} (hvs : vs = whole ++ bad :: later)
    (hwhole : ∀ value ∈ whole, ∃ n, IsWhole value n) (hbad : ∀ n, ¬ IsWhole bad n) :
    Outcome vs (.error (.secondsNotWhole bad))
  /-- All are whole numbers, and the last one, or 30 if there is none, is in range. -/
  | inRange {numbers : List Nat} {n : Nat} (hnumbers : List.Forall₂ IsWhole vs numbers)
    (hlast : numbers.getLastD 30 = n) (h : 1 ≤ n) (h' : n ≤ 300) : Outcome vs (.ok n)
  /-- All are whole numbers, and the last one is out of range: it is refused. -/
  | outOfRange {numbers : List Nat} {n : Nat} (hnumbers : List.Forall₂ IsWhole vs numbers)
    (hlast : numbers.getLastD 30 = n) (h : n < 1 ∨ 300 < n) :
    Outcome vs (.error (.secondsOutOfRange n 1 300))

/-- Where all values are whole numbers, the last one is what is read. -/
theorem foldlM_of_isWhole {vs : List (List Char)} {numbers : List Nat}
    (h : List.Forall₂ IsWhole vs numbers) (n : Nat) :
    vs.foldlM (fun _ value => readValue value) n = .ok (numbers.getLastD n) := by
  induction h generalizing n with
  | nil => rfl
  | @cons value m vs numbers hvalue _ ih =>
    rw [List.foldlM_cons, readValue_eq_ok_iff.2 hvalue, List.getLastD_cons]
    exact ih m

/-- The first value that is no whole number is refused. -/
theorem foldlM_of_not_isWhole {whole : List (List Char)} {bad : List Char}
    (hwhole : ∀ value ∈ whole, ∃ n, IsWhole value n) (hbad : ∀ n, ¬ IsWhole bad n)
    (later : List (List Char)) (n : Nat) :
    (whole ++ bad :: later).foldlM (fun _ value => readValue value) n =
      .error (.secondsNotWhole bad) := by
  induction whole generalizing n with
  | nil =>
    rw [List.nil_append, List.foldlM_cons, readValue_of_not_isWhole hbad]
    rfl
  | cons value whole ih =>
    obtain ⟨⟨m, hvalue⟩, hwhole⟩ := List.forall_mem_cons.1 hwhole
    rw [List.cons_append, List.foldlM_cons, readValue_eq_ok_iff.2 hvalue]
    exact ih hwhole m

/-- Either all values are whole numbers, or there is a first one that is not. -/
theorem isWhole_or_exists (vs : List (List Char)) :
    (∃ numbers, List.Forall₂ IsWhole vs numbers) ∨
      ∃ whole bad later, vs = whole ++ bad :: later ∧
        (∀ value ∈ whole, ∃ n, IsWhole value n) ∧ ∀ n, ¬ IsWhole bad n := by
  induction vs with
  | nil => exact .inl ⟨[], .nil⟩
  | cons value vs ih =>
    by_cases hvalue : ∃ n, IsWhole value n
    · obtain ⟨n, hn⟩ := hvalue
      rcases ih with ⟨numbers, hnumbers⟩ | ⟨whole, bad, later, rfl, hwhole, hbad⟩
      · exact .inl ⟨n :: numbers, .cons hn hnumbers⟩
      · exact .inr ⟨value :: whole, bad, later, rfl,
          List.forall_mem_cons.2 ⟨⟨n, hn⟩, hwhole⟩, hbad⟩
    · exact .inr ⟨[], value, vs, rfl, List.forall_mem_nil _, not_exists.1 hvalue⟩

/-- Values come to one thing only: what is read of them, with its range checked. -/
theorem Outcome.eq {vs : List (List Char)} {result : Except ArgumentError Nat}
    (h : Outcome vs result) :
    (vs.foldlM (fun _ value => readValue value) default).bind Seconds.inRange = result := by
  cases h with
  | notWhole hvs hwhole hbad =>
    rw [hvs, foldlM_of_not_isWhole hwhole hbad]
    rfl
  | inRange hnumbers hlast h h' =>
    rw [foldlM_of_isWhole hnumbers, default, hlast]
    exact if_pos ⟨h, h'⟩
  | outOfRange hnumbers hlast h =>
    rw [foldlM_of_isWhole hnumbers, default, hlast]
    refine if_neg ?_
    rw [least, greatest]
    omega

/-- **Pairs come to what their values come to.** -/
theorem bind_ofPairs_eq_iff {pairs : List (List Char × List Char)}
    {result : Except ArgumentError Nat} :
    (ofPairs default pairs).bind Seconds.inRange = result ↔ Outcome (values pairs) result := by
  rw [ofPairs_eq_foldlM]
  refine ⟨?_, Outcome.eq⟩
  rintro rfl
  rcases isWhole_or_exists (values pairs) with ⟨numbers, hnumbers⟩ |
    ⟨whole, bad, later, hvalues, hwhole, hbad⟩
  · rw [foldlM_of_isWhole hnumbers, Except.bind, Seconds.inRange, default, least, greatest]
    split
    case isTrue h => exact .inRange hnumbers rfl h.1 h.2
    case isFalse h => exact .outOfRange hnumbers rfl (by omega)
  · rw [hvalues, foldlM_of_not_isWhole hwhole hbad]
    exact .notWhole rfl hwhole hbad

/-! ### Queries -/

/-- A query that says some pairs, in any of the ways to write them; no query says none. -/
def IsQueryFor (pairs : List (List Char × List Char)) : Option Bytes → Prop
  | none => pairs = []
  | some query => FormUrlencoded.WritesQuery pairs query

theorem ofQuery_eq_iff {query? : Option Bytes} {result : Except ArgumentError Nat} :
    ofQuery query? = result ↔
      Outcome (values ((query?.map FormUrlencoded.decode).getD [])) result := by
  rw [← bind_ofPairs_eq_iff, ofQuery]
  cases ofPairs default ((query?.map FormUrlencoded.decode).getD []) <;> rfl

theorem decode_of_isQueryFor {pairs : List (List Char × List Char)} {query? : Option Bytes}
    (h : IsQueryFor pairs query?) : (query?.map FormUrlencoded.decode).getD [] = pairs := by
  cases query? with
  | none => exact h.symm
  | some query => exact FormUrlencoded.decode_of_writesQuery h

/-- **No query gives a number out of range**, whatever its bytes. -/
theorem range_of_ofQuery {query? : Option Bytes} {n : Nat} (h : ofQuery query? = .ok n) :
    1 ≤ n ∧ n ≤ 300 := by
  cases ofQuery_eq_iff.1 h with
  | inRange _ _ h h' => exact ⟨h, h'⟩

/-- **A refused value is quoted**: it can be read out of the message. -/
theorem message_secondsNotWhole (value : List Char) :
    ∃ literal, (ArgumentError.secondsNotWhole value).message =
        "seconds must be a whole number, got " ++ String.ofList literal ∧
      Quoted.decode literal = some value :=
  ⟨Quoted.encode value, rfl, Quoted.decode_encode value⟩

/-- **A capture is as long as the pairs of its query say, however they are written.** What the
query comes to is what the values for the seconds come to, and nothing else: an error that
quotes the first value that is no whole number, or the last number, or an error that names that
number if it is out of range. A number that is accepted is in range. -/
theorem ofQuery_of_isQueryFor {pairs : List (List Char × List Char)} {query? : Option Bytes}
    (h : IsQueryFor pairs query?) :
    (∀ result, ofQuery query? = result ↔ Outcome (values pairs) result) ∧
      (∀ n, ofQuery query? = .ok n → 1 ≤ n ∧ n ≤ 300) ∧
      (∀ bad, ∃ literal, (ArgumentError.secondsNotWhole bad).message =
          "seconds must be a whole number, got " ++ String.ofList literal ∧
        Quoted.decode literal = some bad) ∧
      ∀ n, (ArgumentError.secondsOutOfRange n 1 300).message =
        "seconds must be between 1 and 300, got " ++ toString n := by
  refine ⟨?_, ?_, message_secondsNotWhole, fun n => rfl⟩
  · intro result
    rw [ofQuery_eq_iff, decode_of_isQueryFor h]
  · intro n
    exact range_of_ofQuery

/-- A key with an escaped letter, two ampersands, and an escaped plus sign: the last value
decides, and that the first is out of range does not matter. -/
theorem ofQuery_of_isQueryFor_escaped :
    IsQueryFor [("seconds".toList, "999".toList), ("seconds".toList, "+7".toList)]
        (some (Utf8.encode "%73econds=999&&seconds=%2b7".toList)) ∧
      ofQuery (some (Utf8.encode "%73econds=999&&seconds=%2b7".toList)) = .ok 7 := by
  have hplain : ∀ {text : List Char}, (∀ b ∈ Utf8.encode text, b ∉ FormUrlencoded.reserved) →
      FormUrlencoded.WritesText text (Utf8.encode text) := FormUrlencoded.WritesBytes.itself
  have hs : FormUrlencoded.WritesByte 0x73 [0x25, 0x37, 0x33] :=
    .percent ⟨by decide, .inl rfl⟩ ⟨by decide, .inl rfl⟩
  have hplus : FormUrlencoded.WritesByte 0x2B [0x25, 0x32, 0x62] :=
    .percent ⟨by decide, .inl rfl⟩ ⟨by decide, .inl rfl⟩
  have hkey : FormUrlencoded.WritesText "seconds".toList
      ([0x25, 0x37, 0x33] ++ Utf8.encode "econds".toList) := .cons hs (hplain (by decide +kernel))
  have hvalue : FormUrlencoded.WritesText "+7".toList
      ([0x25, 0x32, 0x62] ++ Utf8.encode "7".toList) := .cons hplus (hplain (by decide +kernel))
  have hfirst : FormUrlencoded.WritesPair ("seconds".toList, "999".toList)
      (Utf8.encode "%73econds=999".toList) := ⟨_, _, hkey, hplain (by decide +kernel), rfl⟩
  have hsecond : FormUrlencoded.WritesPair ("seconds".toList, "+7".toList)
      (Utf8.encode "seconds=%2b7".toList) := ⟨_, _, hplain (by decide +kernel), hvalue, rfl⟩
  have hquery : IsQueryFor [("seconds".toList, "999".toList), ("seconds".toList, "+7".toList)]
      (some (Utf8.encode "%73econds=999&&seconds=%2b7".toList)) :=
    .cons hfirst (.ampersand (.last hsecond))
  have hfirstValue : IsWhole "999".toList 999 := readValue_eq_ok_iff.1 rfl
  have hsecondValue : IsWhole "+7".toList 7 := readValue_eq_ok_iff.1 rfl
  refine ⟨hquery, ((ofQuery_of_isQueryFor hquery).1 _).2 ?_⟩
  exact .inRange (.cons hfirstValue (.cons hsecondValue .nil)) rfl (by decide) (by decide)

end ProfilingTargets.Server.Seconds
