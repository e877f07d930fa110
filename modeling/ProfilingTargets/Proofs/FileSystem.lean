import ProfilingTargets.FileSystem

/-!
# Paths while files come and go

What a program that only creates and writes files does to a file system: the
directories stay as they are, so that a path leads where it led before (`Keeps`,
`LeadsTo`). A file that is created is empty until something is written to it.

## What is proved

* `Keeps.target`, `LeadsTo.keeps`: paths go on leading where they led.
* `create_cases`: a file that is created stands, empty, where its path leads, unless a
  device stands there.
* `Keeps.create`: a path at which a file can be created remains one.
-/

namespace ProfilingTargets.FileSystem

variable {fs fs' fs'' : FileSystem} {loc : Location} {path : Bytes}

/-! ### Changes -/

/-- Nothing stands at a location, or a file does. -/
def Vacant (fs : FileSystem) (loc : Location) : Prop :=
  fs.at? loc = none ∨ ∃ content, fs.at? loc = some (.file content)

/-- **All but the files is kept**: what else stands somewhere, and where paths begin. -/
structure Keeps (fs fs' : FileSystem) : Prop where
  /-- Relative paths begin where they did. -/
  workingDirectory : fs'.workingDirectory = fs.workingDirectory
  /-- What stands at a location differs only if it is a file, and only a file was there. -/
  entry : ∀ loc, fs'.at? loc = fs.at? loc ∨
    fs.Vacant loc ∧ ∃ content, fs'.at? loc = some (.file content)

theorem Vacant.ne_nil (h : fs.Vacant loc) : loc ≠ [] := by
  rintro rfl
  rcases h with h | ⟨content, h⟩ <;> cases h

theorem lookup_filter_ne (entries : List (Location × Entry)) {loc loc' : Location}
    (h : loc' ≠ loc) :
    (entries.filter (·.1 != loc)).lookup loc' = entries.lookup loc' := by
  induction entries with
  | nil => rfl
  | cons head rest ih =>
    obtain ⟨place, entry⟩ := head
    by_cases hplace : place = loc
    · rw [List.filter_cons_of_neg (by simp [hplace]), ih, List.lookup_cons, hplace,
        beq_eq_false_iff_ne.2 h]
    · rw [List.filter_cons_of_pos (by simp [hplace]), List.lookup_cons, List.lookup_cons, ih]

/-- What has been put somewhere stands there, and all else where it stood. -/
theorem at?_put (hloc : loc ≠ []) (entry : Entry) (loc' : Location) :
    (fs.put loc entry).at? loc' = if loc' = loc then some entry else fs.at? loc' := by
  by_cases hroot : loc' = []
  · subst hroot
    rw [if_neg (Ne.symm hloc)]
    rfl
  by_cases h : loc' = loc
  · subst h
    rw [if_pos rfl, at?, if_neg hroot, put, List.lookup_cons_self]
  · rw [if_neg h, at?, at?, if_neg hroot, if_neg hroot, put, List.lookup_cons,
      beq_eq_false_iff_ne.2 h, lookup_filter_ne fs.entries h]

theorem at?_put_self (h : fs.Vacant loc) (entry : Entry) :
    (fs.put loc entry).at? loc = some entry := by
  rw [at?_put h.ne_nil, if_pos rfl]

theorem Keeps.refl (fs : FileSystem) : fs.Keeps fs := ⟨rfl, fun _ => .inl rfl⟩

theorem keeps_put (h : fs.Vacant loc) (content : Bytes) :
    fs.Keeps (fs.put loc (.file content)) := by
  refine ⟨rfl, fun loc' => ?_⟩
  rw [at?_put h.ne_nil]
  by_cases hloc : loc' = loc
  · rw [if_pos hloc, hloc]
    exact .inr ⟨h, content, rfl⟩
  · rw [if_neg hloc]
    exact .inl rfl

/-- What is no file stays where it is. -/
theorem Keeps.at?_eq (h : fs.Keeps fs') {entry : Entry} (hentry : fs.at? loc = some entry)
    (hfile : ∀ content, entry ≠ .file content) : fs'.at? loc = some entry := by
  rcases h.entry loc with heq | ⟨hnone | ⟨content, hcontent⟩, -⟩
  · rw [heq, hentry]
  · rw [hentry] at hnone
    cases hnone
  · rw [hentry, Option.some.injEq] at hcontent
    exact absurd hcontent (hfile content)

theorem Vacant.keeps (hvacant : fs.Vacant loc) (h : fs.Keeps fs') : fs'.Vacant loc := by
  rcases h.entry loc with heq | ⟨-, hfile⟩
  · rwa [Vacant, heq]
  · exact .inr hfile

/-! ### Paths -/

/-- The last component of a path is a name at this location. -/
def LeadsTo (fs : FileSystem) (path : Bytes) (loc : Location) : Prop :=
  ∃ t name, fs.target path = .ok t ∧ t.name? = some name ∧ t.slashed = false ∧
    next t.dir name = .ok loc

theorem bind_eq_ok_iff {ε α β : Type} {x : Except ε α} {f : α → Except ε β} {b : β} :
    (x >>= f) = .ok b ↔ ∃ a, x = .ok a ∧ f a = .ok b := by
  cases x with
  | error e => simp [bind, Except.bind]
  | ok a => simp [bind, Except.bind]

/-- A walk leads where it led. -/
theorem Keeps.walk (h : fs.Keeps fs') {names : List Bytes} {dir dir' : Location}
    (hwalk : fs.walk dir names = .ok dir') : fs'.walk dir names = .ok dir' := by
  induction names generalizing dir with
  | nil => exact hwalk
  | cons name names ih =>
    rw [FileSystem.walk, bind_eq_ok_iff] at hwalk ⊢
    obtain ⟨loc, hnext, hstep⟩ := hwalk
    refine ⟨loc, hnext, ?_⟩
    cases hentry : fs.at? loc with
    | none =>
      rw [hentry] at hstep
      cases hstep
    | some entry =>
      simp only [hentry] at hstep
      cases hdir : entry.isDirectory with
      | false =>
        rw [hdir] at hstep
        cases hstep
      | true =>
        have hfile : ∀ content, entry ≠ .file content := by
          rintro content rfl
          cases hdir
        simp only [hdir, if_true] at hstep
        simp only [h.at?_eq hentry hfile, hdir, if_true]
        exact ih hstep

/-- **Paths go on leading where they led.** -/
theorem Keeps.target (h : fs.Keeps fs') {t : Target} (ht : fs.target path = .ok t) :
    fs'.target path = .ok t := by
  rw [FileSystem.target] at ht ⊢
  split
  · next hnul =>
    rw [if_pos hnul] at ht
    cases ht
  next hnul =>
  rw [if_neg hnul] at ht
  split
  · next hempty =>
    rw [if_pos hempty] at ht
    cases ht
  next hempty =>
  rw [if_neg hempty] at ht
  split
  · next hlong =>
    rw [if_pos hlong] at ht
    cases ht
  next hlong =>
  rw [if_neg hlong] at ht
  rw [h.workingDirectory]
  dsimp only at ht ⊢
  rw [bind_eq_ok_iff] at ht ⊢
  obtain ⟨dir, hwalk, htarget⟩ := ht
  exact ⟨dir, h.walk hwalk, htarget⟩

theorem LeadsTo.keeps (hpath : fs.LeadsTo path loc) (h : fs.Keeps fs') :
    fs'.LeadsTo path loc := by
  obtain ⟨t, name, ht, hrest⟩ := hpath
  exact ⟨t, name, h.target ht, hrest⟩

/-- What stands where a path leads is what is found there. -/
theorem find_of_leadsTo (hpath : fs.LeadsTo path loc) {entry : Entry}
    (hentry : fs.at? loc = some entry) : fs.find path = .ok entry := by
  obtain ⟨t, name, ht, hname, hslash, hnext⟩ := hpath
  simp only [find, bind, Except.bind, ht, hname, hnext, hentry, hslash, Bool.false_and,
    Bool.false_eq_true, if_false]

/-! ### Creating -/

/-- A file can be created exactly if its path leads somewhere and can be opened there. -/
theorem create_eq_ok_iff {created : Handle × FileSystem} :
    fs.create path = .ok created ↔ ∃ t name loc, fs.target path = .ok t ∧ t.name? = some name ∧
      t.slashed = false ∧ next t.dir name = .ok loc ∧ fs.openAt t.dir loc = .ok created := by
  rw [create, bind_eq_ok_iff]
  constructor
  · rintro ⟨t, ht, hcreate⟩
    cases hname : t.name? with
    | none =>
      rw [hname] at hcreate
      cases hcreate
    | some name =>
      simp only [hname] at hcreate
      cases hslash : t.slashed with
      | true =>
        rw [hslash] at hcreate
        cases hcreate
      | false =>
        simp only [hslash, Bool.false_eq_true, if_false, bind_eq_ok_iff] at hcreate
        obtain ⟨loc, hnext, hopen⟩ := hcreate
        exact ⟨t, name, loc, ht, hname, hslash, hnext, hopen⟩
  · rintro ⟨t, name, loc, ht, hname, hslash, hnext, hopen⟩
    refine ⟨t, ht, ?_⟩
    simp only [hname, hslash, Bool.false_eq_true, if_false, bind_eq_ok_iff]
    exact ⟨loc, hnext, hopen⟩

/-- What is opened is open at its beginning, and is an empty file or a device. -/
theorem openAt_cases {dir : Location} {h : Handle} (hopen : fs.openAt dir loc = .ok (h, fs')) :
    h = { location := loc } ∧
      (fs.Vacant loc ∧ fs' = fs.put loc (.file []) ∨
        (∃ d, fs.at? loc = some (.device d)) ∧ fs' = fs) := by
  rw [openAt] at hopen
  split at hopen
  · next hnone =>
    split at hopen
    · cases hopen
    · cases hopen
      exact ⟨rfl, .inl ⟨.inl hnone, rfl⟩⟩
  · next content hfile =>
    cases hopen
    exact ⟨rfl, .inl ⟨.inr ⟨content, hfile⟩, rfl⟩⟩
  · next d hdevice =>
    cases hopen
    exact ⟨rfl, .inr ⟨⟨d, hdevice⟩, rfl⟩⟩
  · cases hopen
  · cases hopen
  · cases hopen

/-- **What a file that is created is**: it is open at its beginning where its path leads, and
it is empty there, unless a device stands there, which is left alone. -/
theorem create_cases {h : Handle} (hcreate : fs.create path = .ok (h, fs')) :
    h.offset = 0 ∧ fs.LeadsTo path h.location ∧
      (fs.Vacant h.location ∧ fs' = fs.put h.location (.file []) ∨
        (∃ d, fs.at? h.location = some (.device d)) ∧ fs' = fs) := by
  obtain ⟨t, name, loc, ht, hname, hslash, hnext, hopen⟩ := create_eq_ok_iff.1 hcreate
  obtain ⟨rfl, hentry⟩ := openAt_cases hopen
  exact ⟨rfl, ⟨t, name, ht, hname, hslash, hnext⟩, hentry⟩

theorem keeps_create {h : Handle} (hcreate : fs.create path = .ok (h, fs')) : fs.Keeps fs' := by
  obtain ⟨-, -, ⟨hvacant, rfl⟩ | ⟨-, rfl⟩⟩ := create_cases hcreate
  · exact keeps_put hvacant []
  · exact .refl _

/-- A file can still be opened where one could be opened. -/
theorem Keeps.openAt (h : fs.Keeps fs') {dir : Location} {created : Handle × FileSystem}
    (hopen : fs.openAt dir loc = .ok created) : ∃ created', fs'.openAt dir loc = .ok created' := by
  obtain ⟨handle, files⟩ := created
  obtain ⟨-, ⟨hvacant, -⟩ | ⟨⟨d, hdevice⟩, -⟩⟩ := openAt_cases hopen
  · rcases hvacant.keeps h with hnone | ⟨content, hfile⟩
    · -- nothing stands there yet, so that the directory must not have been closed
      have hbefore : fs.at? loc = none := by
        rcases h.entry loc with heq | ⟨-, content, hfile⟩
        · rw [← heq, hnone]
        · rw [hnone] at hfile
          cases hfile
      rw [FileSystem.openAt, hnone]
      dsimp only
      split
      · next why hclosed =>
        rcases h.entry dir with heq | ⟨-, content, hfile⟩
        · rw [FileSystem.openAt, hbefore, ← heq, hclosed] at hopen
          cases hopen
        · rw [hclosed] at hfile
          cases hfile
      · exact ⟨_, rfl⟩
    · rw [FileSystem.openAt, hfile]
      exact ⟨_, rfl⟩
  · have hkept : fs'.at? loc = some (.device d) := h.at?_eq hdevice (by simp)
    rw [FileSystem.openAt, hkept]
    exact ⟨_, rfl⟩

/-- **A path at which a file can be created remains one.** -/
theorem Keeps.create (h : fs.Keeps fs') {created : Handle × FileSystem}
    (hcreate : fs.create path = .ok created) : ∃ created', fs'.create path = .ok created' := by
  obtain ⟨t, name, loc, ht, hname, hslash, hnext, hopen⟩ := create_eq_ok_iff.1 hcreate
  obtain ⟨created', hopen'⟩ := h.openAt hopen
  exact ⟨created', create_eq_ok_iff.2 ⟨t, name, loc, h.target ht, hname, hslash, hnext, hopen'⟩⟩

/-! ### Writing -/

theorem overwrite_nil (bytes : Bytes) : overwrite [] 0 bytes = bytes := by
  cases bytes <;> simp [overwrite]

end ProfilingTargets.FileSystem
