import ProfilingTargets.Burner
import ProfilingTargets.Proofs.CommandLine.LongFlags
import ProfilingTargets.Proofs.Text.Split

/-!
# The command line: what is accepted

What the burner's command line may say is a grammar (`Asks`, `Accepts`): after the
program's name, nothing, or the flag for the profile once, with its value after it or
attached to it; and then, perhaps, the terminator.

Two passes have to agree on it. The first gives flags their second dash and has to know
which arguments are values; the second decides that again. They meet in what comes out of
the first: the terminator, the flag, and the flag with a value are the only arguments that
the second goes on from (`parseFrom_cons`), and each has come from its own kind.

## What is proved

* `parseFrom_given`: once a profile is asked for, nothing but the terminator may follow.
* `asks_of_parseFrom` and `parseFrom_of_asks`: the parser accepts the grammar and no more.
* `Burner.commandLine_grammar`: the whole grammar, and what the burner makes of it.
-/

namespace ProfilingTargets.CommandLine

open LongFlags

/-! ### The grammar -/

/-- The flag for the profile. -/
def IsFlag (arg : Bytes) : Prop := arg = singleFlag ∨ arg = doubleFlag

/-- Words that ask for a profile at a path, or for none at the empty path. -/
inductive Asks : List Bytes → List Char → Prop where
  /-- Nothing is said. -/
  | nothing : Asks [] []
  /-- The path is the word after the flag. -/
  | next {flag : Bytes} (h : IsFlag flag) (path : List Char) : Asks [flag, Utf8.encode path] path
  /-- The path is attached to the flag. -/
  | attached {flag : Bytes} (h : IsFlag flag) (path : List Char) :
    Asks [flag ++ equals :: Utf8.encode path] path

/-- Nothing follows, or the terminator alone. -/
def Ends (args : List Bytes) : Prop := args = [] ∨ args = [terminator]

/-- A command line that asks for a profile at a path: after the program's name there are
words that do, and then nothing but perhaps the terminator. -/
def Accepts (arguments : List Bytes) (path : List Char) : Prop :=
  ∃ words rest, Asks words path ∧ Ends rest ∧ arguments.tail = words ++ rest

/-! ### Shapes -/

/-- A long option after its two dashes. -/
def Shape.written (name : Bytes) : Option Bytes → Bytes
  | none => name
  | some v => name ++ equals :: v

theorem Shape.of_two_dashes {rest : Bytes} (h : rest ≠ []) :
    Shape.of (dash :: dash :: rest) = Shape.ofLong rest := by
  rw [Shape.of, if_neg (not_not.2 rfl), if_neg (not_not.2 rfl), if_neg (mt List.isEmpty_iff.1 h)]

/-- What is taken for a long option is one: its two parts, and the equals sign between them. -/
theorem Shape.ofLong_eq_long (rest : Bytes) :
    ∃ name value, Shape.ofLong rest = .long name value ∧ rest = Shape.written name value := by
  rw [Shape.ofLong]
  split
  case isTrue hmem =>
    exact ⟨_, _, rfl, (Split.splitFirst_append (List.contains_iff_mem.1 hmem)).symm⟩
  case isFalse => exact ⟨_, _, rfl, rfl⟩

/-- **The shapes**: no option at all, a short one, the terminator, or a long one. -/
theorem Shape.of_cases (arg : Bytes) :
    Shape.of arg = .plain ∨ (∃ rest, Shape.of arg = .short rest) ∨ arg = CommandLine.terminator ∨
      ∃ name value, Shape.of arg = .long name value ∧
        arg = dash :: dash :: Shape.written name value := by
  match arg with
  | [] => exact .inl rfl
  | [_] => exact .inl rfl
  | a :: b :: rest =>
    by_cases ha : a = dash
    · by_cases hb : b = dash
      · subst ha hb
        by_cases hrest : rest = []
        · exact .inr (.inr (.inl (by rw [hrest]; rfl)))
        · obtain ⟨name, value, hshape, hwritten⟩ := Shape.ofLong_eq_long rest
          refine .inr (.inr (.inr ⟨name, value, ?_, by rw [hwritten]⟩))
          rw [Shape.of_two_dashes hrest, hshape]
      · refine .inr (.inl ⟨b :: rest, ?_⟩)
        rw [Shape.of, if_neg (not_not.2 ha), if_pos hb]
    · refine .inl ?_
      rw [Shape.of, if_pos ha]

/-- A long option whose name has no equals sign is read as it is written. -/
theorem Shape.of_written {name : Bytes} (hne : name ≠ []) (hname : equals ∉ name)
    (value : Option Bytes) : Shape.of (dash :: dash :: Shape.written name value) = .long name value := by
  have hrest : Shape.written name value ≠ [] := by
    cases value <;> simp [Shape.written, hne]
  rw [Shape.of_two_dashes hrest, Shape.ofLong]
  cases value with
  | none => exact if_neg (mt List.contains_iff_mem.1 hname)
  | some v =>
    rw [if_pos (List.contains_iff_mem.2 (by simp [Shape.written])), Shape.written,
      Split.splitFirst_append_cons hname]

/-- The name of the option for the profile. -/
theorem ofLong?_eq_cpuprofile_iff {name : Bytes} :
    (Utf8.decode? name).bind Opt.ofLong? = some .cpuprofile ↔ name = Utf8.encode profileName := by
  constructor
  · intro h
    obtain ⟨cs, htext, hopt⟩ := Option.bind_eq_some_iff.1 h
    rw [Opt.ofLong?] at hopt
    have hlong := List.find?_some hopt
    rw [Utf8.decode?_eq_some_iff.1 htext, ← of_decide_eq_true hlong]
    rfl
  · rintro rfl
    rw [Utf8.decode?_encode, Option.bind_some, profileName_eq]
    decide

theorem encode_profileName_ne_nil : Utf8.encode profileName ≠ [] := by
  rw [profileName_eq]
  decide

theorem equals_notMem_profileName : equals ∉ Utf8.encode profileName := by
  rw [profileName_eq]
  decide

theorem Shape.of_doubleFlag : Shape.of doubleFlag = .long (Utf8.encode profileName) none :=
  Shape.of_written encode_profileName_ne_nil equals_notMem_profileName none

theorem Shape.of_doubleFlag_append (v : Bytes) :
    Shape.of (doubleFlag ++ equals :: v) = .long (Utf8.encode profileName) (some v) :=
  Shape.of_written encode_profileName_ne_nil equals_notMem_profileName (some v)

/-! ### Settling -/

section

variable {s t : Settled} {pending : Pending} {args : List Bytes}

theorem settling_eq_ok_iff {next : Settled → Except Refusal Settled} :
    settling s pending next = .ok t ↔ ∃ s', s.settle pending = (s', none) ∧ next s' = .ok t := by
  rw [settling]
  constructor
  · intro h
    split at h
    case h_1 => cases h
    case h_2 s' heq => exact ⟨s', heq, h⟩
  · rintro ⟨s', heq, h⟩
    rw [heq]
    exact h

theorem settle_nothing_eq_iff {s' : Settled} : s.settle .nothing = (s', none) ↔ s = s' := by
  rw [Settled.settle, Prod.mk.injEq, and_iff_left rfl]

/-- **A value is settled** if no other has been, and if it is text. -/
theorem settle_value_eq_iff {v : Bytes} {s' : Settled} :
    s.settle (.value v) = (s', none) ↔
      s.given = false ∧ ∃ path, v = Utf8.encode path ∧ s' = ⟨true, path⟩ := by
  rw [Settled.settle, Settled.settleValue]
  cases s.given with
  | true => simp
  | false =>
    cases htext : Utf8.decode? v with
    | none =>
      suffices ¬ ∃ path, v = Utf8.encode path ∧ s' = ⟨true, path⟩ by simpa using this
      rintro ⟨path, rfl, -⟩
      rw [Utf8.decode?_encode] at htext
      cases htext
    | some path =>
      rw [Utf8.decode?_eq_some_iff] at htext
      constructor
      · intro h
        exact ⟨rfl, path, htext, (Prod.mk.inj h).1.symm⟩
      · rintro ⟨-, path', hv, rfl⟩
        have hpath : path' = path := by
          have h := Utf8.decode?_encode path'
          rwa [← hv, htext, Utf8.decode?_encode, Option.some.injEq, eq_comm] at h
        rw [hpath]
        rfl

/-! ### One argument -/

/-- How reading goes on from an argument that is no value, nothing being pending. -/
inductive GoesOn (s t : Settled) (arg : Bytes) (args : List Bytes) : Prop where
  /-- After the terminator nothing may come. -/
  | terminator (harg : arg = terminator) (hargs : args = []) (h : s = t)
  /-- After the flag comes its value. -/
  | flag (harg : arg = doubleFlag) (h : parseFrom s .awaiting args = .ok t)
  /-- After a flag that has its value, reading starts anew. -/
  | attached (path : List Char) (harg : arg = doubleFlag ++ equals :: Utf8.encode path)
    (hs : s.given = false) (h : parseFrom ⟨true, path⟩ .nothing args = .ok t)

/-- **One argument**: what is pending is settled, and reading goes on, or it fails. -/
theorem parseFrom_cons (hpending : pending ≠ .awaiting) (arg : Bytes) :
    parseFrom s pending (arg :: args) = .ok t ↔
      ∃ s', s.settle pending = (s', none) ∧ GoesOn s' t arg args := by
  rw [parseFrom.eq_def]
  dsimp only
  rw [if_neg hpending]
  constructor
  · intro h
    rcases Shape.of_cases arg with hshape | ⟨rest, hshape⟩ | rfl | ⟨name, value, hshape, rfl⟩
    · rw [hshape] at h
      cases h
    · rw [hshape] at h
      cases h
    · cases args with
      | nil =>
        obtain ⟨s', hsettle, hdone⟩ := settling_eq_ok_iff.1 h
        exact ⟨s', hsettle, .terminator rfl rfl (Except.ok.inj hdone)⟩
      | cons arg args => cases h
    · rw [hshape] at h
      cases hopt : (Utf8.decode? name).bind Opt.ofLong? with
      | none =>
        simp only [hopt] at h
        cases h
      | some o =>
        simp only [hopt] at h
        cases o with
        | cpuprofile =>
          obtain rfl := ofLong?_eq_cpuprofile_iff.1 hopt
          cases value with
          | none =>
            obtain ⟨s', hsettle, hrest⟩ := settling_eq_ok_iff.1 h
            exact ⟨s', hsettle, .flag rfl hrest⟩
          | some v =>
            obtain ⟨s', hsettle, hvalue⟩ := settling_eq_ok_iff.1 h
            obtain ⟨s'', hsettle', hrest⟩ := settling_eq_ok_iff.1 hvalue
            obtain ⟨hgiven, path, rfl, rfl⟩ := settle_value_eq_iff.1 hsettle'
            exact ⟨s', hsettle, .attached path rfl hgiven hrest⟩
        | help => cases value <;> cases h
        | version => cases value <;> cases h
  · rintro ⟨s', hsettle, h⟩
    cases h with
    | terminator harg hargs heq =>
      subst harg hargs
      exact settling_eq_ok_iff.2 ⟨s', hsettle, congrArg Except.ok heq⟩
    | flag harg hrest =>
      rw [harg, Shape.of_doubleFlag]
      simp only [ofLong?_eq_cpuprofile_iff.2 rfl]
      exact settling_eq_ok_iff.2 ⟨s', hsettle, hrest⟩
    | attached path harg hgiven hrest =>
      rw [harg, Shape.of_doubleFlag_append]
      simp only [ofLong?_eq_cpuprofile_iff.2 rfl]
      refine settling_eq_ok_iff.2 ⟨s', hsettle, ?_⟩
      exact settling_eq_ok_iff.2 ⟨_, settle_value_eq_iff.2 ⟨hgiven, path, rfl, rfl⟩, hrest⟩

theorem parseFrom_nil : parseFrom s pending [] = .ok t ↔ s.settle pending = (t, none) := by
  rw [parseFrom, settling_eq_ok_iff]
  constructor
  · rintro ⟨s', hsettle, h⟩
    rw [hsettle, Except.ok.inj h]
  · intro h
    exact ⟨t, h, rfl⟩

/-- The value after the flag is taken as it is, whatever it looks like. -/
theorem parseFrom_awaiting (arg : Bytes) :
    parseFrom s .awaiting (arg :: args) = parseFrom s (.value arg) args := by
  rw [parseFrom.eq_def]
  exact if_pos rfl

/-- Where nothing is pending, nothing is to be settled. -/
theorem parseFrom_nothing_cons (arg : Bytes) :
    parseFrom s .nothing (arg :: args) = .ok t ↔ GoesOn s t arg args := by
  rw [parseFrom_cons Pending.noConfusion]
  simp only [settle_nothing_eq_iff, exists_eq_left']

/-- **The value after the flag**: it is settled sooner or later, and then reading goes on
as if nothing had been pending. -/
theorem parseFrom_value (v : Bytes) :
    parseFrom s (.value v) args = .ok t ↔
      s.given = false ∧ ∃ path, v = Utf8.encode path ∧
        parseFrom ⟨true, path⟩ .nothing args = .ok t := by
  -- reading on looks at what was settled, and at nothing that was pending
  have hread : parseFrom s (.value v) args = .ok t ↔
      ∃ s', s.settle (.value v) = (s', none) ∧ parseFrom s' .nothing args = .ok t := by
    cases args with
    | nil => simp only [parseFrom_nil, settle_nothing_eq_iff, exists_eq_right]
    | cons arg args =>
      rw [parseFrom_cons Pending.noConfusion]
      simp only [parseFrom_nothing_cons]
  rw [hread]
  constructor
  · rintro ⟨s', hsettle, h⟩
    obtain ⟨hgiven, path, hv, rfl⟩ := settle_value_eq_iff.1 hsettle
    exact ⟨hgiven, path, hv, h⟩
  · rintro ⟨hgiven, path, hv, h⟩
    exact ⟨_, settle_value_eq_iff.2 ⟨hgiven, path, hv, rfl⟩, h⟩

/-! ### Whole command lines -/

/-- **Once a profile is asked for**, only the terminator may follow: a second flag fails,
with its value or without. -/
theorem parseFrom_given (path : List Char) :
    parseFrom ⟨true, path⟩ .nothing args = .ok t ↔ Ends args ∧ t = ⟨true, path⟩ := by
  constructor
  · intro h
    cases args with
    | nil => exact ⟨.inl rfl, (settle_nothing_eq_iff.1 (parseFrom_nil.1 h)).symm⟩
    | cons arg args =>
      cases (parseFrom_nothing_cons arg).1 h with
      | terminator harg hargs heq => exact ⟨.inr (by rw [harg, hargs]), heq.symm⟩
      | flag harg hrest =>
        cases args with
        | nil => cases parseFrom_nil.1 hrest
        | cons v args =>
          rw [parseFrom_awaiting, parseFrom_value] at hrest
          cases hrest.1
      | attached path' harg hgiven hrest => cases hgiven
  · rintro ⟨rfl | rfl, rfl⟩
    · rw [parseFrom_nil, settle_nothing_eq_iff]
    · rw [parseFrom_nothing_cons]
      exact .terminator rfl rfl rfl

/-- The first pass keeps the end of a command line. -/
theorem ends_normalizeFrom_iff : Ends (normalizeFrom false args) ↔ Ends args :=
  or_congr normalizeFrom_eq_nil_iff normalizeFrom_eq_terminator_iff

/-- Both passes take the rest of a command line that has asked for a profile alike. -/
theorem parseFrom_normalizeFrom_given (path : List Char) :
    parseFrom ⟨true, path⟩ .nothing (normalizeFrom false args) = .ok t ↔
      Ends args ∧ t = ⟨true, path⟩ := by
  rw [parseFrom_given, ends_normalizeFrom_iff]

/-- **What is accepted is in the grammar.** -/
theorem asks_of_parseFrom (h : parseFrom {} .nothing (normalizeFrom false args) = .ok t) :
    ∃ words rest, Asks words t.profile ∧ Ends rest ∧ args = words ++ rest := by
  cases args with
  | nil =>
    obtain rfl := settle_nothing_eq_iff.1 (parseFrom_nil.1 h)
    exact ⟨[], [], .nothing, .inl rfl, rfl⟩
  | cons arg args =>
    by_cases harg : arg = terminator
    · subst harg
      rw [normalizeFrom_terminator, parseFrom_nothing_cons] at h
      cases h with
      | terminator _ hargs heq =>
        subst hargs heq
        exact ⟨[], [terminator], .nothing, .inr rfl, rfl⟩
      | flag hflag => exact absurd hflag terminator_ne_doubleFlag
      | attached path hflag => exact absurd hflag (terminator_ne_append _)
    · rw [normalizeFrom_cons harg, parseFrom_nothing_cons] at h
      cases h with
      | terminator hterm => exact absurd (normalizeArg_eq_terminator_iff.1 hterm) harg
      | flag hflag hrest =>
        have hnext : takesNext arg := normalizeArg_eq_flag_iff.1 hflag
        rw [hnext] at hrest
        cases args with
        | nil => cases parseFrom_nil.1 hrest
        | cons v args =>
          rw [normalizeFrom, parseFrom_awaiting, parseFrom_value] at hrest
          obtain ⟨-, path, rfl, hgiven⟩ := hrest
          obtain ⟨hends, rfl⟩ := (parseFrom_normalizeFrom_given path).1 hgiven
          exact ⟨[arg, Utf8.encode path], args, .next ((takesNext_iff arg).1 hnext) path, hends, rfl⟩
      | attached path hflag _ hrest =>
        rw [takesNext_of_attached hflag] at hrest
        obtain ⟨hends, rfl⟩ := (parseFrom_normalizeFrom_given path).1 hrest
        rcases (normalizeArg_eq_attached_iff path).1 hflag with rfl | rfl
        · exact ⟨_, args, .attached (.inl rfl) path, hends, rfl⟩
        · exact ⟨_, args, .attached (.inr rfl) path, hends, rfl⟩

/-- **What is in the grammar is accepted.** -/
theorem parseFrom_of_asks {words rest : List Bytes} {path : List Char} (h : Asks words path)
    (hrest : Ends rest) :
    ∃ t, parseFrom {} .nothing (normalizeFrom false (words ++ rest)) = .ok t ∧ t.profile = path := by
  cases h with
  | nothing =>
    refine ⟨{}, ?_, rfl⟩
    rcases hrest with rfl | rfl
    · rw [List.append_nil, normalizeFrom, parseFrom_nil, settle_nothing_eq_iff]
    · rw [List.nil_append, normalizeFrom_terminator, parseFrom_nothing_cons]
      exact .terminator rfl rfl rfl
  | next hflag =>
    have hnext : takesNext _ := (takesNext_iff _).2 hflag
    have hnormal := normalizeArg_eq_flag_iff.2 hnext
    have harg := ne_terminator_of_normalizeArg (hnormal.trans (List.append_nil _).symm)
    refine ⟨⟨true, path⟩, ?_, rfl⟩
    rw [List.cons_append, List.singleton_append, normalizeFrom_cons harg, hnext, normalizeFrom,
      parseFrom_nothing_cons]
    refine .flag hnormal ?_
    rw [parseFrom_awaiting, parseFrom_value]
    exact ⟨rfl, path, rfl, (parseFrom_normalizeFrom_given path).2 ⟨hrest, rfl⟩⟩
  | @attached flag hflag =>
    have hnormal : normalizeArg (flag ++ equals :: Utf8.encode path) =
        doubleFlag ++ equals :: Utf8.encode path := by
      rw [normalizeArg_eq_attached_iff]
      exact hflag.imp (congrArg (· ++ _)) (congrArg (· ++ _))
    have harg := ne_terminator_of_normalizeArg hnormal
    refine ⟨⟨true, path⟩, ?_, rfl⟩
    rw [List.singleton_append, normalizeFrom_cons harg, takesNext_of_attached hnormal,
      parseFrom_nothing_cons]
    exact .attached path hnormal rfl ((parseFrom_normalizeFrom_given path).2 ⟨hrest, rfl⟩)

theorem normalize_tail (arguments : List Bytes) :
    (normalize arguments).tail = normalizeFrom false arguments.tail := by
  cases arguments <;> rfl

end

/-- **The grammar**: a command line is accepted exactly if it is in the grammar, and its
path is what the grammar says. -/
theorem parse_eq_ok_iff {arguments : List Bytes} {path : List Char} :
    parse arguments = .ok path ↔ Accepts arguments path := by
  have hmap : parse arguments = .ok path ↔
      ∃ t, parseFrom {} .nothing (normalizeFrom false arguments.tail) = .ok t ∧
        t.profile = path := by
    rw [parse, normalize_tail]
    cases parseFrom {} .nothing (normalizeFrom false arguments.tail) <;> simp [Except.map]
  rw [hmap]
  constructor
  · rintro ⟨t, h, rfl⟩
    exact asks_of_parseFrom h
  · rintro ⟨words, rest, hwords, hrest, htail⟩
    rw [htail]
    exact parseFrom_of_asks hwords hrest

end ProfilingTargets.CommandLine

namespace ProfilingTargets.Burner

open CommandLine (Accepts parse)

theorem configure_eq_ok_iff {arguments : List Bytes} {config : Config} :
    configure arguments = .ok config ↔
      ∃ path, parse arguments = .ok path ∧ config = Config.ofProfile path := by
  rw [configure]
  cases parse arguments <;> simp [Except.map, eq_comm]

/-- **What the burner accepts, and what it makes of it.** The command lines of the grammar
are accepted, with the path of the grammar untouched, and all others are refused, requests
for help and for the version among them. What is accepted is a profile at that path, or none
if it is empty, with everything else as it is by default. -/
theorem commandLine_grammar (arguments : List Bytes) :
    (∀ path, parse arguments = .ok path ↔ Accepts arguments path) ∧
      (∀ config, configure arguments = .ok config ↔ ∃ path, Accepts arguments path ∧
        config = { profile := if path = [] then none else some (String.ofList path) }) ∧
      ((∃ refusal, parse arguments = .error refusal) ↔ ∀ path, ¬ Accepts arguments path) := by
  have hparse : ∀ path, parse arguments = .ok path ↔ Accepts arguments path :=
    fun _ => CommandLine.parse_eq_ok_iff
  have hconfig : ∀ path, Config.ofProfile path =
      { profile := if path = [] then none else some (String.ofList path) } := by
    intro path
    simp only [Config.ofProfile, List.isEmpty_iff]
  refine ⟨hparse, ?_, ?_⟩
  · intro config
    simp only [configure_eq_ok_iff, hparse, hconfig]
  · simp only [← hparse]
    cases parse arguments <;> simp

/-- Of two terminators after the flag, the first is its value. -/
example : (parse [Utf8.encode "simple".toList, CommandLine.LongFlags.singleFlag,
    CommandLine.terminator, CommandLine.terminator]).toOption = some "--".toList := by rfl

end ProfilingTargets.Burner
