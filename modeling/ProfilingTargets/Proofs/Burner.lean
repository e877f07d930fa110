import ProfilingTargets.Burner
import ProfilingTargets.Proofs.CommandLine.Parser
import ProfilingTargets.Proofs.Recording

/-!
# How the burner exits

A command line that is refused ends the run before anything is touched, and only a request
for help or for the version ends it well. Otherwise the burn goes ahead with or without a
profile, to its end or to an interrupt, and the run ends well unless it had a profile that
could not be finished. What the profile failed at then makes the status: a profile that
is not reported is a failure of the sampler, one that is not written is not.

## What is proved

* `Ends`: the status of a run from what becomes of its profile; `ends_conclude`: the end of
  a run follows it, whatever has been started.
* `exitStatus_run`: the status of every run.
-/

namespace ProfilingTargets.Burner

open CommandLine (Refusal parse)
open Recording (EndStage FailsAt)

/-- **The status of a run that may have a profile.** -/
inductive Ends (o : Outside) (fs : FileSystem) : Option Recording → Nat → Prop where
  /-- There is none. -/
  | unprofiled : Ends o fs none 0
  /-- No stage of its end fails. -/
  | finished {r : Recording} (h : ∀ stage e, ¬ r.FailsAt o fs stage e) : Ends o fs (some r) 0
  /-- It is not reported. -/
  | unreported {r : Recording} {stage : EndStage} {e : Error} (h : r.FailsAt o fs stage e)
    (hstage : stage = .report ∨ stage = .encode) : Ends o fs (some r) 3
  /-- It is not written. -/
  | unwritten {r : Recording} {stage : EndStage} {e : Error} (h : r.FailsAt o fs stage e)
    (hstage : stage = .write ∨ stage = .sync) : Ends o fs (some r) 1

/-! ### Profiles -/

theorem ends_of_failsAt {o : Outside} {r : Recording} {fs : FileSystem} {stage : EndStage}
    {e : Error} (h : r.FailsAt o fs stage e) : Ends o fs (some r) e.exitStatus.code := by
  cases h with
  | report hreporting => exact .unreported (.report hreporting) (.inl rfl)
  | encode hreporting hencoding => exact .unreported (.encode hreporting hencoding) (.inr rfl)
  | write hreport hwriting => exact .unwritten (.write hreport hwriting) (.inl rfl)
  | refused hreport hwriting hwrite =>
    exact .unwritten (.refused hreport hwriting hwrite) (.inl rfl)
  | sync hreport hwriting hwrite hsyncing =>
    exact .unwritten (.sync hreport hwriting hwrite hsyncing) (.inr rfl)
  | unsynced hreport hwriting hwrite hsyncing hsync =>
    exact .unwritten (.unsynced hreport hwriting hwrite hsyncing hsync) (.inr rfl)

/-- **The end of a run follows from its profile**, whatever has been started before. -/
theorem ends_conclude (o : Outside) {recording? : Option Recording}
    (hpending : ∀ r, recording? = some r → r.pending = true) (events : List Log.Event)
    (stats : Burn.Stats) (host : Host) :
    Ends o host.files recording? (conclude o recording? events stats host).status.code := by
  cases recording? with
  | none => exact .unprofiled
  | some r =>
    have hr := hpending r rfl
    have hfinish : (r.finish o host).1 = (r.writeOut o host).1 := by rw [Recording.finish_eq]
    unfold conclude
    split
    · next r' heq => cases heq
    · next r' heq =>
      cases heq
      split
      · next written more host' hresult =>
        rw [hresult] at hfinish
        refine .finished fun stage e h => ?_
        rw [(Recording.writeOut_eq_error_iff hr).2 ⟨stage, h⟩] at hfinish
        cases hfinish
      · next e more host' hresult =>
        rw [hresult] at hfinish
        obtain ⟨stage, hstage⟩ := (Recording.writeOut_eq_error_iff hr).1 hfinish.symm
        exact ends_of_failsAt hstage

theorem stats_conclude (o : Outside) (recording? : Option Recording) (events : List Log.Event)
    (stats : Burn.Stats) (host : Host) :
    (conclude o recording? events stats host).stats = some stats := by
  unfold conclude
  split
  · rfl
  · split <;> rfl

/-! ### Command lines -/

theorem frequency_of_configure {arguments : List Bytes} {config : Config}
    (h : configure arguments = .ok config) : config.frequency ≠ 0 := by
  obtain ⟨path, -, rfl⟩ := configure_eq_ok_iff.1 h
  have hdefault : Sampler.defaultFrequency ≠ 0 := by decide
  exact hdefault

theorem code_refusal (refusal : Refusal) :
    refusal.exitStatus.code = if refusal = .help ∨ refusal = .version then 0 else 2 := by
  cases refusal <;> simp [Refusal.exitStatus, Refusal.isMistake, ExitStatus.code]

/-! ### Runs -/

/-- **The status of a run.** -/
structure Statuses (arguments : List Bytes) (world : Surroundings) (host : Host) : Prop where
  /-- What is refused burns and touches nothing; a request for help or for the version is
  answered, and all else is a mistake. -/
  refused : ∀ refusal, configure arguments = .error refusal →
    (run arguments world host).status.code =
        (if refusal = .help ∨ refusal = .version then 0 else 2) ∧
      (run arguments world host).host = host ∧ (run arguments world host).events = [] ∧
      (run arguments world host).stats = none
  /-- What is accepted burns for as long as the world lets it, with a profile or without one,
  and the profile makes the status. -/
  accepted : ∀ config, configure arguments = .ok config →
    (run arguments world host).stats = some (Burn.run config.plan world.running) ∧
      ∃ recording? events host',
        Recording.startOptional world.outside config.profile config.frequency host =
          (.ok recording?, events, host') ∧
        Ends world.outside host'.files recording? (run arguments world host).status.code
  /-- An interrupt makes no difference to the status. -/
  interrupted : ∀ running,
    (run arguments { world with running := running } host).status =
      (run arguments world host).status
  /-- Had the start come to anything else, the profile would have made the status as well. -/
  concluded : ∀ recording? events stats host',
    (∀ r, recording? = some r → r.pending = true) →
    Ends world.outside host'.files recording?
      (conclude world.outside recording? events stats host').status.code

theorem status_conclude (o : Outside) (recording? : Option Recording)
    (events events' : List Log.Event) (stats stats' : Burn.Stats) (host : Host) :
    (conclude o recording? events stats host).status =
      (conclude o recording? events' stats' host).status := by
  cases recording? with
  | none => rfl
  | some r =>
    simp only [conclude]
    rcases r.finish o host with ⟨e | w, more, host'⟩ <;> rfl

/-- **How the burner exits**: with a status of the command line's if that is refused, before
anything is touched; else with 0, interrupted or not, with a profile or without one, unless a
profile had been started whose end fails: with 3 if it was not reported, with 1 if it was not
written or not synced. -/
theorem exitStatus_run (arguments : List Bytes) (world : Surroundings) (host : Host) :
    Statuses arguments world host := by
  constructor
  case refused =>
    intro refusal h
    have hcode := code_refusal refusal
    simp only [run, h, refuse]
    split <;> exact ⟨hcode, rfl, rfl, rfl⟩
  case accepted =>
    intro config h
    obtain ⟨recording?, events, host', hstart, hpending⟩ :=
      Recording.startOptional_of_ne_zero world.outside config.profile host
        (frequency_of_configure h)
    simp only [run, h, burn, hstart]
    exact ⟨stats_conclude _ _ _ _ _, recording?, events, host', rfl,
      ends_conclude _ hpending _ _ _⟩
  case interrupted =>
    intro running
    cases h : configure arguments with
    | error refusal => simp only [run, h]
    | ok config =>
      simp only [run, h, burn]
      split
      · rfl
      · exact status_conclude _ _ _ _ _ _ _
  case concluded =>
    intro recording? events stats host' hpending
    exact ends_conclude _ hpending events stats host'

/-- A profile on a full device is started, and cannot be written: the status is not that of
a failed profile. -/
theorem exits_with_one_on_full_device :
    let path := "/dev/full"
    let arguments := ["simple", "-cpuprofile=" ++ path].map fun word => Utf8.encode word.toList
    let host : Host := { files := .leadingTo (Utf8.encode path.toList) }
    let world : Surroundings := { running := fun _ => false }
    let location := ["dev", "full"].map fun name => Utf8.encode name.toList
    let r : Recording := { path := path, file := { location := location }, frequency := 100 }
    configure arguments = .ok { profile := some path } ∧
      Recording.startOptional world.outside (some path) 100 host =
        (.ok (some r), [Sampler.starting, Recording.started path 100],
          ⟨{ running := true }, host.files⟩) ∧
      r.FailsAt world.outside host.files .write (.io .noSpace) ∧
      (run arguments world host).status.code = 1 ∧ ExitStatus.profile.code = 3 := by
  intro path arguments host world location r
  refine ⟨by decide +kernel, by decide +kernel, .refused rfl rfl ?_, ?_, rfl⟩
  · decide +kernel
  · decide +kernel

end ProfilingTargets.Burner
