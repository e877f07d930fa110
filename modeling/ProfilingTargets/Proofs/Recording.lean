import ProfilingTargets.Proofs.FileSystem
import ProfilingTargets.Recording

/-!
# How recordings start and end

What comes of a start is decided by the file first and by the sampler then; whatever
becomes of the file, a recording that ends stops the sampler. A recording whose file is
open at its beginning and empty (`Opened`) fills it with its profile when it ends, unless
the world has something against it (`Outside.Permits`). The end of a recording has stages,
and fails at the first of them that does (`FailsAt`).
-/

namespace ProfilingTargets

/-- The world has nothing against a recording's being written. -/
structure Outside.Permits (o : Outside) : Prop where
  /-- The report is made and encoded. -/
  unreported : o.unreported = none
  /-- Writing does not fail. -/
  writing : o.writing = none
  /-- Syncing does not fail. -/
  syncing : o.syncing = none

/-- The bytes of a profile begin with its columns: they are never none. -/
theorem Profile.encode_ne_nil (p : Profile) : p.encode ≠ [] := by
  simp [encode, sampleTypes, bytesField, varint]

end ProfilingTargets

namespace ProfilingTargets.Recording

variable {o : Outside} {path : String} {frequency : Int32} {host : Host}

/-! ### Starts -/

/-- A file that cannot be created leaves everything as it was. -/
theorem start_of_not_created {e : IoError} (hfile : createFile o path host.files = .error e) :
    start o path frequency host = (.error (.error (.io e)), [], host) := by
  simp only [start, hfile]

/-- A sampler that is running refuses to start, after the file has been created. -/
theorem start_of_running {file : Handle} {files : FileSystem}
    (hfile : createFile o path host.files = .ok (file, files))
    (hrunning : host.sampler.running = true) :
    start o path frequency host =
      (.error (.error (.profiler .running)), [Sampler.starting], ⟨host.sampler, files⟩) := by
  simp only [start, hfile, Sampler.start, hrunning, if_true]

/-- A sampler that is not running starts at any frequency but zero. -/
theorem start_of_idle {file : Handle} {files : FileSystem}
    (hfile : createFile o path host.files = .ok (file, files))
    (hidle : host.sampler.running = false) (hfrequency : frequency ≠ 0) :
    start o path frequency host =
      (.ok { path := path, file := file, frequency := frequency },
        [Sampler.starting, started path frequency], ⟨{ running := true }, files⟩) := by
  simp only [start, hfile, Sampler.start, hidle, Bool.false_eq_true, if_false, hfrequency]

/-- An error is logged, and the recording done without. -/
theorem startOptional_of_error {e : Error} {events : List Log.Event} {host' : Host}
    (h : start o path frequency host = (.error (.error e), events, host')) :
    startOptional o (some path) frequency host =
      (.ok none, events ++ [disabled path e], host') := by
  simp only [startOptional, h]

theorem startOptional_of_ok {r : Recording} {events : List Log.Event} {host' : Host}
    (h : start o path frequency host = (.ok r, events, host')) :
    startOptional o (some path) frequency host = (.ok (some r), events, host') := by
  simp only [startOptional, h]

/-- A recording that need not start leaves the host as one does that has to. -/
theorem host_startOptional (o : Outside) (path : String) (frequency : Int32) (host : Host) :
    (startOptional o (some path) frequency host).2.2 = (start o path frequency host).2.2 := by
  simp only [startOptional]
  rcases start o path frequency host with ⟨(e | e) | r, events, host'⟩ <;> rfl

/-- It starts exactly if one does that has to. -/
theorem startOptional_eq_some_iff {r : Recording} :
    (startOptional o (some path) frequency host).1 = .ok (some r) ↔
      (start o path frequency host).1 = .ok r := by
  simp only [startOptional]
  rcases start o path frequency host with ⟨(e | e) | r', events, host'⟩ <;> simp

/-- A sampler that is not running breaks off at frequency zero, and runs then. -/
theorem start_of_zero {file : Handle} {files : FileSystem}
    (hfile : createFile o path host.files = .ok (file, files))
    (hidle : host.sampler.running = false) :
    start o path 0 host =
      (.error (.panic .divideByZero), [Sampler.starting], ⟨{ running := true }, files⟩) := by
  simp only [start, hfile, Sampler.start, hidle, Bool.false_eq_true, if_false, if_true]

/-- **At a frequency other than zero no start breaks off**, and a recording that starts holds
the sampler. -/
theorem startOptional_of_ne_zero (o : Outside) (path? : Option String) (host : Host)
    (hfrequency : frequency ≠ 0) :
    ∃ recording? events host',
      startOptional o path? frequency host = (.ok recording?, events, host') ∧
        ∀ r, recording? = some r → r.pending = true := by
  cases path? with
  | none => exact ⟨none, [], host, rfl, by simp⟩
  | some path =>
    cases hfile : createFile o path host.files with
    | error e => exact ⟨none, _, _, startOptional_of_error (start_of_not_created hfile), by simp⟩
    | ok created =>
      cases hr : host.sampler.running with
      | true => exact ⟨none, _, _, startOptional_of_error (start_of_running hfile hr), by simp⟩
      | false =>
        refine ⟨some _, _, _, startOptional_of_ok (start_of_idle hfile hr hfrequency), ?_⟩
        rintro r ⟨⟩
        rfl

/-- **What a start says**: the sampler announces itself once the file is there, and the recording
is told if it starts. -/
theorem mem_events_start {event : Log.Event} (h : event ∈ (start o path frequency host).2.1) :
    event = Sampler.starting ∨
      event = started path frequency ∧ ∃ r, (start o path frequency host).1 = .ok r := by
  simp only [start] at h ⊢
  split at h
  · cases h
  · split at h
    · exact .inl (List.mem_singleton.1 h)
    · rcases List.mem_cons.1 h with rfl | h
      · exact .inl rfl
      · exact .inr ⟨List.mem_singleton.1 h, _, rfl⟩

/-- What is said of a recording that need not start: the same, or that it does not. -/
theorem mem_events_startOptional {path? : Option String} {event : Log.Event}
    (h : event ∈ (startOptional o path? frequency host).2.1) :
    event = Sampler.starting ∨ (∃ path, event = started path frequency) ∨
      ∃ path e, event = disabled path e := by
  cases path? with
  | none => cases h
  | some path =>
    have hstart : ∀ event ∈ (start o path frequency host).2.1,
        event = Sampler.starting ∨ ∃ path, event = started path frequency :=
      fun event hmem => (mem_events_start hmem).imp_right fun hstarted => ⟨path, hstarted.1⟩
    simp only [startOptional] at h
    split at h
    · next heq => exact (hstart event (by rw [heq]; exact h)).imp_right .inl
    · next e _ _ heq =>
      rcases List.mem_append.1 h with h | h
      · exact (hstart event (by rw [heq]; exact h)).imp_right .inl
      · exact .inr (.inr ⟨path, e, List.mem_singleton.1 h⟩)
    · next heq => exact (hstart event (by rw [heq]; exact h)).imp_right .inl

/-! ### Ends -/

/-- What is left of a recording that has been written out is not written out again. -/
@[simp] theorem pending_writeOut (o : Outside) (r : Recording) (host : Host) :
    (writeOut o r host).2.2.1.pending = false := by
  cases hr : r.pending with
  | false => simp only [writeOut, hr, Bool.false_eq_true, if_false]
  | true =>
    simp only [writeOut, hr, if_true]
    split
    · rfl
    · split <;> rfl

/-- **Writing out stops the sampler**, at whatever stage it fails. -/
theorem sampler_writeOut (o : Outside) {r : Recording} (h : r.pending = true) (host : Host) :
    (writeOut o r host).2.2.2.sampler = { running := false } := by
  simp only [writeOut, h, if_true]
  split
  · rfl
  · split <;> rfl

/-- What is left of a recording that has been written out does nothing when dropped. -/
theorem drop_of_not_pending {r : Recording} (h : r.pending = false) :
    drop o r host = ([], host) := by
  simp only [drop, h, Bool.false_eq_true, if_false]

/-- **Finishing a recording writes it out**; dropping what is left adds nothing. -/
theorem finish_eq (o : Outside) (r : Recording) (host : Host) :
    finish o r host =
      ((writeOut o r host).1, (writeOut o r host).2.1, (writeOut o r host).2.2.2) := by
  simp only [finish, drop_of_not_pending (pending_writeOut o r host), List.append_nil]

/-- Dropping a recording that can be written out is writing it out. -/
theorem drop_of_ok {r : Recording} (hpending : r.pending = true) {w : Written}
    (h : (writeOut o r host).1 = .ok w) :
    drop o r host = ((writeOut o r host).2.1, (writeOut o r host).2.2.2) := by
  simp only [drop, hpending, if_true]
  split
  · next heq => rw [heq]
  · next heq =>
    rw [heq] at h
    cases h

/-- If it cannot, that is logged besides. -/
theorem drop_of_error {r : Recording} (hpending : r.pending = true) {e : Error}
    (h : (writeOut o r host).1 = .error e) :
    drop o r host =
      ((writeOut o r host).2.1 ++ [writeFailed r.path e], (writeOut o r host).2.2.2) := by
  simp only [drop, hpending, if_true]
  split
  · next heq =>
    rw [heq] at h
    cases h
  · next heq =>
    rw [heq] at h ⊢
    cases h
    rfl

/-- Writing out says nothing of its own failure. -/
theorem events_writeOut_of_error {r : Recording} (hpending : r.pending = true) {e : Error}
    (h : (writeOut o r host).1 = .error e) : (writeOut o r host).2.1 = [Sampler.stopping] := by
  simp only [writeOut, hpending, if_true] at h ⊢
  split
  · rfl
  · split
    · rfl
    · next hunreported _ _ _ heq =>
      simp only [hunreported, heq] at h
      cases h

/-- **What is said while a recording is written out**: that the sampler stops, and that the
profile is written. -/
theorem mem_events_writeOut {r : Recording} {event : Log.Event}
    (h : event ∈ (writeOut o r host).2.1) :
    event = Sampler.stopping ∨ ∃ bytes, event = written r.path bytes := by
  simp only [writeOut] at h
  split at h
  · split at h
    · exact .inl (List.mem_singleton.1 h)
    · split at h
      · exact .inl (List.mem_singleton.1 h)
      · rcases List.mem_cons.1 h with rfl | h
        · exact .inl rfl
        · exact .inr ⟨_, List.mem_singleton.1 h⟩
  · cases h

theorem sampler_drop {r : Recording} (h : r.pending = true) :
    (drop o r host).2.sampler = { running := false } := by
  have hstop := sampler_writeOut o h host
  simp only [drop, h, if_true]
  split <;> simpa only [*] using hstop

theorem sampler_finish {r : Recording} (h : r.pending = true) :
    (finish o r host).2.2.sampler = { running := false } := by
  rw [finish_eq]
  exact sampler_writeOut o h host

/-! ### What is written -/

/-- **A recording's file is ready**: it is open at its beginning where the recording's path
leads, and an empty file or a device stands there. -/
structure Opened (r : Recording) (fs : FileSystem) : Prop where
  /-- Nothing has been written through the handle. -/
  offset : r.file.offset = 0
  /-- The path leads to the file. -/
  leads : fs.LeadsTo (Utf8.encode r.path.toList) r.file.location
  /-- A file there is empty. -/
  empty : fs.at? r.file.location = some (.file []) ∨
    ∃ d, fs.at? r.file.location = some (.device d)

/-- A file that has just been created is ready. -/
theorem opened_of_create {r : Recording} {fs fs' : FileSystem}
    (hcreate : fs.create (Utf8.encode r.path.toList) = .ok (r.file, fs')) : r.Opened fs' := by
  have hkeeps := FileSystem.keeps_create hcreate
  obtain ⟨hoffset, hleads, hentry⟩ := FileSystem.create_cases hcreate
  refine ⟨hoffset, hleads.keeps hkeeps, ?_⟩
  rcases hentry with ⟨hvacant, rfl⟩ | ⟨hdevice, rfl⟩
  · exact .inl (FileSystem.at?_put_self hvacant _)
  · exact .inr hdevice

/-- **It remains so when files are created**, be it at the same path. -/
theorem Opened.create {r : Recording} {fs fs' : FileSystem} (hr : r.Opened fs) {path : Bytes}
    {h : Handle} (hcreate : fs.create path = .ok (h, fs')) : r.Opened fs' := by
  refine ⟨hr.offset, hr.leads.keeps (FileSystem.keeps_create hcreate), ?_⟩
  obtain ⟨-, -, ⟨hvacant, rfl⟩ | ⟨-, rfl⟩⟩ := FileSystem.create_cases hcreate
  · rw [FileSystem.at?_put hvacant.ne_nil]
    by_cases hloc : r.file.location = h.location
    · rw [if_pos hloc]
      exact .inl rfl
    · rw [if_neg hloc]
      exact hr.empty
  · exact hr.empty

/-- A recording is on a file, and on no device, exactly if an empty file stands at its
location. -/
theorem Opened.find_eq_file_iff {r : Recording} {fs : FileSystem} (hr : r.Opened fs) :
    (∃ content, fs.find (Utf8.encode r.path.toList) = .ok (.file content)) ↔
      fs.at? r.file.location = some (.file []) := by
  constructor
  · rintro ⟨content, hfind⟩
    rcases hr.empty with hfile | ⟨d, hdevice⟩
    · exact hfile
    · rw [FileSystem.find_of_leadsTo hr.leads hdevice] at hfind
      cases hfind
  · exact fun hfile => ⟨[], FileSystem.find_of_leadsTo hr.leads hfile⟩

/-- **What may be written is written**: the file of a recording is filled with its profile. -/
theorem writeOut_of_permits (ho : o.Permits) {r : Recording} (hpending : r.pending = true)
    (hopen : r.Opened host.files) (hfile : host.files.at? r.file.location = some (.file [])) :
    writeOut o r host =
      (.ok ⟨r.profile o, (r.profile o).encode.length⟩,
        [Sampler.stopping, written r.path (r.profile o).encode.length],
        { r with pending := false, file := r.file.advance (r.profile o).encode.length },
        ⟨{ running := false },
          host.files.put r.file.location (.file (r.profile o).encode)⟩) := by
  have hvacant : host.files.Vacant r.file.location := .inr ⟨[], hfile⟩
  have hwrite : host.files.write r.file (r.profile o).encode =
      .ok (r.file.advance (r.profile o).encode.length,
        host.files.put r.file.location (.file (r.profile o).encode)) := by
    simp only [FileSystem.write, hfile, hopen.offset, FileSystem.overwrite_nil]
  have hsync : (host.files.put r.file.location (.file (r.profile o).encode)).sync
      (r.file.advance (r.profile o).encode.length) = .ok () := by
    simp only [FileSystem.sync, Handle.advance, FileSystem.at?_put_self hvacant]
  simp only [writeOut, hpending, if_true, ho.unreported, putBytes, ho.writing,
    profile] at hwrite hsync ⊢
  simp only [hwrite, ho.syncing, hsync]
  rfl

/-- What is put into a file has been written and synced. -/
theorem putBytes_eq_ok {file : Handle} {bytes : Bytes} {fs : FileSystem}
    (h : (putBytes o file bytes fs).1 = .ok ()) :
    o.writing = none ∧ o.syncing = none ∧ ∃ file' fs', fs.write file bytes = .ok (file', fs') ∧
      fs'.sync file' = .ok () := by
  unfold putBytes at h
  split at h
  · split at h <;> cases h
  · next hwriting =>
    split at h
    · cases h
    · next file' fs' hwrite =>
      split at h
      · cases h
      · next hsyncing => exact ⟨hwriting, hsyncing, file', fs', hwrite, h⟩

/-- **Only what may be written is written**, and only to a file: no device can be synced. -/
theorem permits_of_writeOut {r : Recording} (hpending : r.pending = true)
    (hopen : r.Opened host.files) {w : Written} (h : (writeOut o r host).1 = .ok w) :
    o.Permits ∧ host.files.at? r.file.location = some (.file []) := by
  simp only [writeOut, hpending, if_true] at h
  split at h
  · cases h
  · next hunreported =>
    have hput : (putBytes o r.file (r.profile o).encode host.files).1 = .ok () := by
      split at h
      · cases h
      · next heq =>
        rw [profile] at heq ⊢
        rw [heq]
    obtain ⟨hwriting, hsyncing, file', fs', hwrite, hsync⟩ := putBytes_eq_ok hput
    refine ⟨⟨hunreported, hwriting, hsyncing⟩, ?_⟩
    rcases hopen.empty with hfile | ⟨d, hdevice⟩
    · exact hfile
    · cases d with
      | sink =>
        simp only [FileSystem.write, hdevice] at hwrite
        cases hwrite
        simp only [FileSystem.sync, Handle.advance, hdevice] at hsync
        cases hsync
      | full =>
        have hbytes : (r.profile o).encode.isEmpty = false :=
          List.isEmpty_eq_false_iff.2 (Profile.encode_ne_nil _)
        simp only [FileSystem.write, hdevice, hbytes, Bool.false_eq_true, if_false] at hwrite
        cases hwrite

/-! ### What fails at the end -/

/-- The stages of a recording's end. -/
inductive EndStage where
  /-- The report is made. -/
  | report
  /-- It is encoded. -/
  | encode
  /-- It is written to the file. -/
  | write
  /-- The file is synced. -/
  | sync
  deriving DecidableEq, Repr

/-- **How the end of a recording fails**: each stage may fail once the ones before it have not,
because of the world or because of the file. -/
inductive FailsAt (o : Outside) (r : Recording) (fs : FileSystem) : EndStage → Error → Prop where
  /-- There is no report. -/
  | report {e : ProfilerError} (h : o.reporting = some e) : FailsAt o r fs .report (.profiler e)
  /-- There is one, which cannot be encoded. -/
  | encode {e : ProfilerError} (hreport : o.reporting = none) (h : o.encoding = some e) :
    FailsAt o r fs .encode (.profiler e)
  /-- The world does not let it be written. -/
  | write {count : Nat} {e : IoError} (hreport : o.unreported = none)
    (h : o.writing = some (count, e)) : FailsAt o r fs .write (.io e)
  /-- The file does not take it. -/
  | refused {e : IoError} (hreport : o.unreported = none) (hwriting : o.writing = none)
    (h : fs.write r.file (r.profile o).encode = .error e) : FailsAt o r fs .write (.io e)
  /-- The world does not let it be synced. -/
  | sync {e : IoError} {file : Handle} {fs' : FileSystem} (hreport : o.unreported = none)
    (hwriting : o.writing = none) (hwrite : fs.write r.file (r.profile o).encode = .ok (file, fs'))
    (h : o.syncing = some e) : FailsAt o r fs .sync (.io e)
  /-- What has been written is no file that can be synced. -/
  | unsynced {e : IoError} {file : Handle} {fs' : FileSystem} (hreport : o.unreported = none)
    (hwriting : o.writing = none) (hwrite : fs.write r.file (r.profile o).encode = .ok (file, fs'))
    (hsyncing : o.syncing = none) (h : fs'.sync file = .error e) : FailsAt o r fs .sync (.io e)

theorem unreported_eq_some_iff {e : ProfilerError} :
    o.unreported = some e ↔ o.reporting = some e ∨ o.reporting = none ∧ o.encoding = some e := by
  unfold Outside.unreported
  cases o.reporting <;> simp

theorem failsAt_of_putBytes {r : Recording} {fs : FileSystem} (hreport : o.unreported = none)
    {e : IoError} (h : (putBytes o r.file (r.profile o).encode fs).1 = .error e) :
    ∃ stage, FailsAt o r fs stage (.io e) := by
  unfold putBytes at h
  split at h
  · next count why hwriting =>
    have hwhy : why = e := by
      split at h <;> cases h <;> rfl
    exact ⟨.write, .write hreport (hwhy ▸ hwriting)⟩
  · next hwriting =>
    split at h
    · next why hwrite =>
      cases h
      exact ⟨.write, .refused hreport hwriting hwrite⟩
    · next file fs' hwrite =>
      split at h
      · next why hsyncing =>
        cases h
        exact ⟨.sync, .sync hreport hwriting hwrite hsyncing⟩
      · next hsyncing => exact ⟨.sync, .unsynced hreport hwriting hwrite hsyncing h⟩

/-- A failure comes from a stage. -/
theorem failsAt_of_writeOut {r : Recording} (hpending : r.pending = true) {e : Error}
    (h : (writeOut o r host).1 = .error e) : ∃ stage, FailsAt o r host.files stage e := by
  simp only [writeOut, hpending, if_true] at h
  split at h
  · next why hreport =>
    cases h
    rcases unreported_eq_some_iff.1 hreport with hreporting | ⟨hreporting, hencoding⟩
    · exact ⟨.report, .report hreporting⟩
    · exact ⟨.encode, .encode hreporting hencoding⟩
  · next hreport =>
    split at h
    · next why _ _ heq =>
      cases h
      refine failsAt_of_putBytes hreport ?_
      rw [profile] at heq ⊢
      rw [heq]
    · cases h

/-- A stage that fails fails the whole. -/
theorem FailsAt.writeOut {r : Recording} (hpending : r.pending = true) {stage : EndStage}
    {e : Error} (h : FailsAt o r host.files stage e) : (writeOut o r host).1 = .error e := by
  simp only [Recording.writeOut, hpending, if_true]
  cases h with
  | report h => simp only [unreported_eq_some_iff.2 (.inl h)]
  | encode hreport h => simp only [unreported_eq_some_iff.2 (.inr ⟨hreport, h⟩)]
  | write hreport h =>
    simp only [hreport, putBytes, h]
    split <;> next heq => split at heq <;> cases heq <;> rfl
  | refused hreport hwriting h =>
    simp only [profile] at h
    simp only [hreport, putBytes, hwriting, profile, h]
  | sync hreport hwriting hwrite h =>
    simp only [profile] at hwrite
    simp only [hreport, putBytes, hwriting, profile, hwrite, h]
  | unsynced hreport hwriting hwrite hsyncing h =>
    simp only [profile] at hwrite
    simp only [hreport, putBytes, hwriting, profile, hwrite, hsyncing, h]

/-- **The end of a recording fails exactly if one of its stages does**, with that stage's
error. -/
theorem writeOut_eq_error_iff {r : Recording} (hpending : r.pending = true) {e : Error} :
    (writeOut o r host).1 = .error e ↔ ∃ stage, FailsAt o r host.files stage e :=
  ⟨failsAt_of_writeOut hpending, fun ⟨_, h⟩ => h.writeOut hpending⟩

end ProfilingTargets.Recording
