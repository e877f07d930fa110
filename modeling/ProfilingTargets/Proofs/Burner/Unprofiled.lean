import ProfilingTargets.Proofs.Burner

/-!
# Burning without the profile

A profile that cannot be started is done without. The burn is then the one of a run that was
asked for no profile: nothing tells the two runs apart but a warning that the one gives before
it burns.

Two runs never take the same time, and what the sampler says is its own affair: runs are
compared by what the program and its library say, with the times taken out (`Ending.own`). Why a
start fails is up to the file system and the sampler, and a sampler may have more reasons than
the one that ours has. `burnAfter` is a run from wherever the attempt to start a profile has
left it, so that a failure of any kind can be put there.

## What is proved

* `burn_eq_burnAfter`: a run is `burnAfter` the start that it makes itself.
* `unprofiled_burnAfter`: a run whose profile did not start beside one that was asked for none.
* `tellsInterrupts_goOn`: a run mentions an interruption exactly if there was one.
* `unharmed_run`: both, for every command line.
-/

namespace ProfilingTargets.Burner

variable {arguments : List Bytes} {config config' : Config} {world world' : Surroundings}
  {host left : Host} {path : String} {said events : List Log.Event}

/-! ### What a run says itself -/

/-- A field, with the time taken out if it tells one. -/
def timeless (field : String × Log.Value) : String × Log.Value :=
  if field.1 = "elapsed" then (field.1, .text "") else field

/-- An event, with the times taken out. -/
def withoutTimes (event : Log.Event) : Log.Event :=
  { event with fields := event.fields.map timeless }

/-- The events of the program and its library, with the times taken out. -/
def ownEvents (events : List Log.Event) : List Log.Event :=
  (events.filter (·.speaker ≠ .sampler)).map withoutTimes

/-- What a run says itself, as opposed to the sampler. -/
def Ending.own (ending : Ending) : List Log.Event := ownEvents ending.events

theorem ownEvents_append (events more : List Log.Event) :
    ownEvents (events ++ more) = ownEvents events ++ ownEvents more := by
  simp only [ownEvents, List.filter_append, List.map_append]

theorem ownEvents_of_sampler (h : ∀ event ∈ said, event.speaker = .sampler) :
    ownEvents said = [] := by
  rw [ownEvents, List.filter_eq_nil_iff.2 (by simpa using h), List.map_nil]

theorem ownEvents_disabled (path : String) (e : Error) :
    ownEvents [Recording.disabled path e] = [Recording.disabled path e] := by
  simp [ownEvents, withoutTimes, timeless, Recording.disabled]

theorem ownEvents_interrupted (stats : Burn.Stats) (plan : Burn.Plan) :
    ownEvents [interrupted stats plan] = [interrupted stats plan] := by
  simp [ownEvents, withoutTimes, timeless, interrupted]

theorem ownEvents_burned (stats : Burn.Stats) (elapsed elapsed' : Duration) :
    ownEvents [burned stats elapsed] = ownEvents [burned stats elapsed'] := by
  simp [ownEvents, withoutTimes, timeless, burned]

/-- A burn says that it is complete, and then perhaps that it was interrupted. -/
theorem burnEvents_eq (config : Config) (stats : Burn.Stats) (elapsed : Duration) :
    burnEvents config stats elapsed = [burned stats elapsed] ++
      if stats.iterations < config.plan.iterations.toNat then [interrupted stats config.plan]
      else [] :=
  rfl

/-- **What a burn says** depends on its plan and on what it has done. -/
theorem ownEvents_burnEvents (hplan : config.plan = config'.plan) (stats : Burn.Stats)
    (elapsed elapsed' : Duration) :
    ownEvents (burnEvents config stats elapsed) = ownEvents (burnEvents config' stats elapsed') := by
  rw [burnEvents_eq, burnEvents_eq, ownEvents_append, ownEvents_append,
    ownEvents_burned stats elapsed elapsed', hplan]

/-- A message that a run gives itself has been given. -/
theorem exists_of_mem_ownEvents {event : Log.Event} (h : event ∈ ownEvents events) :
    ∃ event' ∈ events, event'.message = event.message := by
  obtain ⟨event', hmem, rfl⟩ := List.mem_map.1 h
  exact ⟨event', List.mem_of_mem_filter hmem, rfl⟩

/-- No burn says that there is no profile. -/
theorem not_disabled_of_mem_burnEvents {stats : Burn.Stats} {elapsed : Duration}
    {event : Log.Event} (h : event ∈ ownEvents (burnEvents config stats elapsed)) :
    event.message ≠ "cpu profiling disabled" := by
  obtain ⟨event', hmem, hmessage⟩ := exists_of_mem_ownEvents h
  rw [← hmessage]
  rw [burnEvents_eq] at hmem
  rcases List.mem_append.1 hmem with hburned | hinterrupted
  · rw [List.mem_singleton.1 hburned]
    simp [burned]
  · split at hinterrupted
    · rw [List.mem_singleton.1 hinterrupted]
      simp [interrupted]
    · cases hinterrupted

/-! ### Interruptions -/

/-- The interruptions that a run mentions. -/
def interruptions (events : List Log.Event) : List Log.Event :=
  (ownEvents events).filter (·.message = "interrupted")

theorem interruptions_append (events more : List Log.Event) :
    interruptions (events ++ more) = interruptions events ++ interruptions more := by
  rw [interruptions, ownEvents_append, List.filter_append]
  rfl

theorem interruptions_of_sampler (h : ∀ event ∈ said, event.speaker = .sampler) :
    interruptions said = [] := by
  rw [interruptions, ownEvents_of_sampler h, List.filter_nil]

theorem interruptions_eq_nil (h : ∀ event ∈ events, event.message ≠ "interrupted") :
    interruptions events = [] := by
  rw [interruptions, List.filter_eq_nil_iff]
  intro event hmem
  obtain ⟨event', hmem', hmessage⟩ := exists_of_mem_ownEvents hmem
  rw [← hmessage]
  simpa using h event' hmem'

/-- Nothing is mentioned while a profile is started. -/
theorem interruptions_startOptional (o : Outside) (path? : Option String) (frequency : Int32)
    (host : Host) :
    interruptions (Recording.startOptional o path? frequency host).2.1 = [] := by
  refine interruptions_eq_nil fun event hmem => ?_
  rcases Recording.mem_events_startOptional hmem with rfl | ⟨path, rfl⟩ | ⟨path, e, rfl⟩
  · simp [Sampler.starting]
  · simp [Recording.started]
  · simp [Recording.disabled]

/-- **A burn mentions that it was interrupted if rounds are missing**, and only then. -/
theorem interruptions_burnEvents (config : Config) (stats : Burn.Stats) (elapsed : Duration) :
    interruptions (burnEvents config stats elapsed) =
      if stats.iterations < config.plan.iterations.toNat then [interrupted stats config.plan]
      else [] := by
  have hburned : interruptions [burned stats elapsed] = [] :=
    interruptions_eq_nil (by simp [burned])
  rw [burnEvents_eq, interruptions_append, hburned, List.nil_append]
  split
  · rw [interruptions, ownEvents_interrupted]
    simp [interrupted]
  · rfl

/-- **A run tells whether it was interrupted**: if rounds are missing it warns once, of how many
have been done and how many were planned, and it does not mention an interruption otherwise. -/
def TellsInterrupts (plan : Burn.Plan) (ending : Ending) : Prop :=
  ∃ stats, ending.stats = some stats ∧
    (interruptions ending.events).map (fun event => (event.level, event.fields)) =
      if stats.iterations < plan.iterations.toNat then
        [(.warn, [("iterations", .number stats.iterations),
          ("planned", .number plan.iterations.toNat)])]
      else []

/-! ### Runs, from their attempt to start a profile -/

/-- A run from its burn on. -/
def goOn (config : Config) (world : Surroundings) (recording? : Option Recording)
    (said : List Log.Event) (host : Host) : Ending :=
  let stats := Burn.run config.plan world.running
  conclude world.outside recording? (said ++ burnEvents config stats world.elapsed) stats host

/-- A run that was asked for a profile at a path, from what the attempt to start it came to. -/
def burnAfter (config : Config) (world : Surroundings) (path : String) :
    Except Failure Recording × List Log.Event × Host → Ending
  | (.ok r, said, host) => goOn config world (some r) said host
  | (.error (.error e), said, host) =>
    goOn config world none (said ++ [Recording.disabled path e]) host
  | (.error (.panic p), said, host) =>
    { status := .general, events := said, complaint := p.message ++ "\n", host := host }

theorem burn_eq_goOn {recording? : Option Recording}
    (h : Recording.startOptional world.outside config.profile config.frequency host =
      (.ok recording?, said, left)) :
    burn config world host = goOn config world recording? said left := by
  simp only [burn, h, goOn]

/-- **A run goes on from the start that it makes itself.** -/
theorem burn_eq_burnAfter (h : config.profile = some path) :
    burn config world host =
      burnAfter config world path (Recording.start world.outside path config.frequency host) := by
  rw [burn, h, Recording.startOptional]
  rcases Recording.start world.outside path config.frequency host with
    ⟨(e | p) | r, said, left⟩ <;> rfl

/-- After the burn nothing is said of it: only the profile is left. -/
theorem events_conclude (o : Outside) (recording? : Option Recording) (said : List Log.Event)
    (stats : Burn.Stats) (host : Host) :
    ∃ more, (conclude o recording? said stats host).events = said ++ more ∧
      ∀ event ∈ more, event.message ≠ "interrupted" := by
  cases recording? with
  | none => exact ⟨[], (List.append_nil _).symm, by simp⟩
  | some r =>
    have hfinish : ∀ event ∈ (r.finish o host).2.1, event.message ≠ "interrupted" := by
      intro event hmem
      rw [Recording.finish_eq] at hmem
      rcases Recording.mem_events_writeOut hmem with rfl | ⟨bytes, rfl⟩
      · simp [Sampler.stopping]
      · simp [Recording.written]
    simp only [conclude]
    split
    · next written more host' heq =>
      rw [heq] at hfinish
      refine ⟨more ++ [profileWritten r.path written.bytes], List.append_assoc _ _ _, ?_⟩
      intro event hmem
      rcases List.mem_append.1 hmem with hmem | hmem
      · exact hfinish event hmem
      · rw [List.mem_singleton.1 hmem]
        simp [profileWritten]
    · next e more host' heq =>
      rw [heq] at hfinish
      exact ⟨more, rfl, hfinish⟩

/-- **A run with or without a profile tells whether it was interrupted**, if nothing before its
burn has told it already. -/
theorem tellsInterrupts_goOn (config : Config) (world : Surroundings)
    (recording? : Option Recording) (hsaid : interruptions said = []) (host : Host) :
    TellsInterrupts config.plan (goOn config world recording? said host) := by
  refine ⟨Burn.run config.plan world.running, stats_conclude _ _ _ _ _, ?_⟩
  obtain ⟨more, hevents, hmore⟩ := events_conclude world.outside recording?
    (said ++ burnEvents config (Burn.run config.plan world.running) world.elapsed)
    (Burn.run config.plan world.running) host
  rw [goOn, hevents, interruptions_append, interruptions_append, hsaid,
    interruptions_eq_nil hmore, List.nil_append, List.append_nil, interruptions_burnEvents]
  split <;> rfl

/-- A warning that there is no profile: it names the path and the error. -/
structure Disables (path : String) (e : Error) (warning : Log.Event) : Prop where
  /-- It is a warning. -/
  level : warning.level = .warn
  /-- It says what there is not. -/
  message : warning.message = "cpu profiling disabled"
  /-- It names the path. -/
  path : ("path", .text path) ∈ warning.fields
  /-- It names the error. -/
  error : ("error", .text e.message) ∈ warning.fields

theorem disables_disabled (path : String) (e : Error) :
    Disables path e (Recording.disabled path e) where
  level := rfl
  message := rfl
  path := List.mem_cons_self
  error := List.mem_cons_of_mem _ List.mem_cons_self

/-- **A run without the profile that it was asked for**, beside one that was asked for none. -/
structure Unprofiled (path : String) (e : Error) (ending plain : Ending) : Prop where
  /-- Both have burned the same. -/
  stats : ∃ stats, ending.stats = some stats ∧ plain.stats = some stats
  /-- Both end well. -/
  status : ending.status.code = 0 ∧ plain.status.code = 0
  /-- The one says what the other says, after a warning. -/
  own : ∃ warning, Disables path e warning ∧ ending.own = warning :: plain.own
  /-- There is no other such warning. -/
  once : ∀ event ∈ plain.own, event.message ≠ "cpu profiling disabled"
  /-- Nothing is printed besides the log. -/
  unprinted : ending.output = "" ∧ ending.complaint = ""

/-- **A profile that does not start makes no difference but for a warning**, whatever kept it from
starting, and wherever this has left the sampler and the files. -/
theorem unprofiled_burnAfter (hplan : config.plan = config'.plan)
    (hrunning : world.running = world'.running) (path : String) (e : Error)
    (hsaid : ∀ event ∈ said, event.speaker = .sampler) (left host' : Host) :
    Unprofiled path e (burnAfter config world path (.error (.error e), said, left))
      (goOn config' world' none [] host') where
  stats := ⟨Burn.run config.plan world.running, rfl, by rw [hplan, hrunning]; rfl⟩
  status := ⟨rfl, rfl⟩
  own := by
    have hevents : ownEvents (said ++ [Recording.disabled path e] ++
        burnEvents config (Burn.run config.plan world.running) world.elapsed) =
        Recording.disabled path e ::
          ownEvents (burnEvents config' (Burn.run config'.plan world'.running) world'.elapsed) := by
      rw [ownEvents_append, ownEvents_append, ownEvents_of_sampler hsaid, ownEvents_disabled,
        ← hplan, ← hrunning, ownEvents_burnEvents hplan _ _ world'.elapsed]
      rfl
    exact ⟨_, disables_disabled path e, hevents⟩
  once := fun _ hmem => not_disabled_of_mem_burnEvents hmem
  unprinted := ⟨rfl, rfl⟩

/-! ### Command lines -/

/-- A command line that is accepted, and the path of the profile that it asks for, or that it asks
for none. -/
def Accepted (arguments : List Bytes) (profile? : Option String) : Prop :=
  ∃ config, configure arguments = .ok config ∧ config.profile = profile?

/-- Nothing but the path of a profile can be asked for. -/
theorem run_of_accepted {profile? : Option String} (h : Accepted arguments profile?) :
    run arguments world host = burn { profile := profile? } world host := by
  obtain ⟨config, hconfig, rfl⟩ := h
  obtain ⟨path, -, rfl⟩ := configure_eq_ok_iff.1 hconfig
  rw [run, hconfig]
  rfl

/-- A run that is asked for no profile goes on at once. -/
theorem run_of_accepted_none (h : Accepted arguments none) :
    run arguments world host = goOn {} world none [] host := by
  rw [run_of_accepted h]
  rfl

/-- A run that is asked for a profile tries to start it. -/
theorem run_of_accepted_some (h : Accepted arguments (some path)) :
    run arguments world host =
      burnAfter { profile := some path } world path
        (Recording.start world.outside path 100 host) := by
  rw [run_of_accepted h]
  exact burn_eq_burnAfter rfl

/-- The name of the program alone asks for no profile. -/
theorem accepted_take_one (arguments : List Bytes) : Accepted (arguments.take 1) none := by
  refine ⟨{}, configure_eq_ok_iff.2 ⟨[], CommandLine.parse_eq_ok_iff.2 ?_, rfl⟩, rfl⟩
  refine ⟨[], [], .nothing, .inl rfl, ?_⟩
  cases arguments <;> rfl

/-! ### Runs -/

/-- **A profile that cannot be started harms no burn.** -/
structure Unharmed (arguments : List Bytes) (world : Surroundings) (host : Host) : Prop where
  /-- If the start of the profile fails, the run is like any that is asked for none and finds the
  flag the same. -/
  failed : ∀ path e, Accepted arguments (some path) →
    (Recording.start world.outside path 100 host).1 = .error (.error e) →
    ∀ unasked world' host', Accepted unasked none → world.running = world'.running →
      Unprofiled path e (run arguments world host) (run unasked world' host')
  /-- A file that cannot be created is such a failure, and leaves all files as they were. -/
  uncreated : ∀ path e, Accepted arguments (some path) →
    Recording.createFile world.outside path host.files = .error e →
    (Recording.start world.outside path 100 host).1 = .error (.error (.io e)) ∧
      (run arguments world host).host = host
  /-- The run depends on the start of the profile only for what this comes to. -/
  attempted : ∀ path, Accepted arguments (some path) →
    run arguments world host =
      burnAfter { profile := some path } world path (Recording.start world.outside path 100 host)
  /-- Had the start failed in any other way, the run would also be like one without a profile. -/
  elsewise : ∀ path e said left, (∀ event ∈ said, event.speaker = Log.Speaker.sampler) →
    ∀ unasked world' host', Accepted unasked none → world.running = world'.running →
      let ending := burnAfter { profile := some path } world path (.error (.error e), said, left)
      Unprofiled path e ending (run unasked world' host') ∧ TellsInterrupts {} ending
  /-- There is a run to compare with: the same command line, without its arguments. -/
  unasked : Accepted (arguments.take 1) none
  /-- In every run that burns, an interruption is mentioned exactly if there was one. -/
  interrupted : ∀ config, configure arguments = .ok config →
    TellsInterrupts config.plan (run arguments world host)
  /-- In every other run nothing is said. -/
  refused : ∀ refusal, configure arguments = .error refusal →
    (run arguments world host).stats = none ∧ (run arguments world host).own = []

/-- **A profile that cannot be started never changes the burn**, and an interruption is mentioned
in a run exactly if it has burned less than planned. -/
theorem unharmed_run (arguments : List Bytes) (world : Surroundings) (host : Host) :
    Unharmed arguments world host := by
  constructor
  case failed =>
    intro path e haccepted hfailed unasked world' host' hunasked hrunning
    have hsaid : ∀ event ∈ (Recording.start world.outside path 100 host).2.1,
        event.speaker = Log.Speaker.sampler := by
      intro event hmem
      rcases Recording.mem_events_start hmem with rfl | ⟨-, r, hok⟩
      · rfl
      · rw [hfailed] at hok
        cases hok
    have hstart : Recording.start world.outside path 100 host =
        (.error (.error e), (Recording.start world.outside path 100 host).2) :=
      Prod.ext hfailed rfl
    rw [run_of_accepted_some haccepted, run_of_accepted_none hunasked, hstart]
    exact unprofiled_burnAfter rfl hrunning path e hsaid _ _
  case uncreated =>
    intro path e haccepted hfile
    refine ⟨by rw [Recording.start_of_not_created hfile], ?_⟩
    rw [run_of_accepted_some haccepted, Recording.start_of_not_created hfile]
    rfl
  case attempted => exact fun path haccepted => run_of_accepted_some haccepted
  case elsewise =>
    intro path e said left hsaid unasked world' host' hunasked hrunning
    rw [run_of_accepted_none hunasked]
    refine ⟨unprofiled_burnAfter rfl hrunning path e hsaid _ _, ?_⟩
    refine tellsInterrupts_goOn { profile := some path } world none ?_ left
    rw [interruptions_append, interruptions_of_sampler hsaid, List.nil_append]
    exact interruptions_eq_nil (by simp [Recording.disabled])
  case unasked => exact accepted_take_one arguments
  case interrupted =>
    intro config hconfig
    obtain ⟨recording?, said, left, hstart, -⟩ := Recording.startOptional_of_ne_zero
      world.outside config.profile host (frequency_of_configure hconfig)
    have hsaid := interruptions_startOptional world.outside config.profile config.frequency host
    rw [hstart] at hsaid
    simp only [run, hconfig]
    rw [burn_eq_goOn hstart]
    exact tellsInterrupts_goOn config world recording? hsaid left
  case refused =>
    intro refusal hrefusal
    simp only [run, hrefusal, refuse]
    split <;> exact ⟨rfl, rfl⟩

/-- A profile in a directory that is not there. -/
example :
    let path := "missing/cpu.prof"
    let arguments := ["simple", "-cpuprofile", path].map fun word => Utf8.encode word.toList
    let ending := run arguments { running := fun _ => false } { files := ⟨[], []⟩ }
    ending.own.map (·.message) = ["cpu profiling disabled", "burn complete", "interrupted"] ∧
      ending.own.head? = some (Recording.disabled path (.io .notFound)) := by
  decide +kernel

end ProfilingTargets.Burner
