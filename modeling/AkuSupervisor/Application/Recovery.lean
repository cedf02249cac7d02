import AkuSupervisor.Application.StartTimes

namespace AkuSupervisor

namespace ServiceEntry

variable {P E Q : Type}

/-- The automatic restart of the failure episode is used up, or nothing runs that could fail. -/
def Spent (e : ServiceEntry P) : Prop :=
  e.supervision.automaticRestartsInEpisode≠0 ∨
    e.supervision.desiredState=.stopped ∧ e.runtime.process=none

/-- Recovery's own requests do not give the episode another automatic restart. -/
theorem Effect.episode {platform : Platform P E Q} {action : LifecycleAction} {reason : Reason}
    {e e' : ServiceEntry P} {calls : List (TreeCall P E)}
    (h : Effect platform action .recovery reason e e' calls) (launch : action≠.stop) :
    e'.supervision.automaticRestartsInEpisode=e.supervision.automaticRestartsInEpisode := by
  have kept : (e.accepted .recovery action reason).supervision.automaticRestartsInEpisode=
      e.supervision.automaticRestartsInEpisode := by
    cases action with
    | stop => contradiction
    | _ => rfl
  cases h with
  | refused => rfl
  | stopped health calls stop => contradiction
  | up before process e' accepts launch cleared quiet =>
    obtain ⟨pids,supervision⟩ := quiet.supervision
    rw [supervision]
    exact kept
  | _ => exact kept

end ServiceEntry

namespace RegistryOp

open ServiceRegistry ServiceEntry

variable {P E Q : Type} (serviceId : String)

/-- The step is a request for the service that is accepted. -/
def Accepted (r : ServiceRegistry P) (op : RegistryOp P E Q) : Prop :=
  ∃platform action actor reason e,op=.request platform action serviceId actor reason ∧
    r.services[serviceId]?=some e ∧ e.Accepts platform actor action

/-- The step is an accepted stop, or an accepted start or restart by anyone but Recovery. -/
def Interrupts (r : ServiceRegistry P) (op : RegistryOp P E Q) : Prop :=
  ∃platform action actor reason e,op=.request platform action serviceId actor reason ∧
    r.services[serviceId]?=some e ∧ e.Accepts platform actor action ∧
    (action=.stop ∨ actor≠.recovery)

/-- The exit a step reports for the service. -/
def exitOf (op : RegistryOp P E Q) (r : ServiceRegistry P) : Option ProcessExitEvent :=
  if op.target=some serviceId then op.exit r else none

/-- The exits a run reports for the service. -/
def exits : List (RegistryOp P E Q) → RegistrySys P E → List ProcessExitEvent
  | [],_ => []
  | op::ops,s => (op.exitOf serviceId s.registry).toList++exits ops (op.track serviceId s)

/-- The step sees the exit of a process that ran for at least the stability window. -/
def RanStable (s : RegistrySys P E) (op : RegistryOp P E Q) : Prop :=
  ∃platform process status started,op=.refresh platform serviceId ∧
    op.calls serviceId s.registry=[.tryWait process (.ok (some status))] ∧
    RecordedFor serviceId process started s.calls ∧
    s.registry.restartStabilityWindow≤platform.now-started

variable {serviceId} {window : Nat} {op : RegistryOp P E Q}
  {before after : Option (ServiceEntry P)} {calls : List (TreeCall P E)}
  {exit : Option ProcessExitEvent}

theorem Turn.spent (h : Turn serviceId window op before calls after exit) (silent : exit=none)
    (spent : ∀e∈before,e.Spent)
    (quiet : ∀platform action actor reason e,op=.request platform action serviceId actor reason →
      before=some e → e.Accepts platform actor action → action≠.stop ∧ actor=.recovery) :
    ∀e∈after,e.Spent := by
  cases h with
  | absent => simp
  | elsewhere => exact spent
  | requested platform action actor reason e e' calls effect =>
    intro _ same
    cases same
    by_cases accepts : e.Accepts platform actor action
    · obtain ⟨launch,rfl⟩ := quiet platform action actor reason e rfl rfl accepts
      -- Recovery is not admitted to a service that is meant to be stopped
      have wanted := (accepts.admits launch).2
      rcases spent e rfl with used|⟨stopped,-⟩
      · exact .inl (by rwa [effect.episode launch])
      · exact absurd ⟨launch,rfl,stopped⟩ wanted
    · rw [(effect.eq_of_refused accepts).1]
      exact spent e rfl
  | watched platform e e' calls watched looked =>
    intro _ same
    cases same
    obtain ⟨pids,supervision⟩ := watched.supervision
    unfold Spent
    rw [supervision,watched.process]
    exact spent e rfl
  | exited => cases silent
  | replaced =>
    intro _ same
    cases same
    exact .inr ⟨rfl,rfl⟩
  | dropped => simp

theorem Turn.planned (h : Turn serviceId window op before calls after exit)
    (event : ProcessExitEvent) (reported : exit=some event)
    (planned : event.automaticRestartPlanned=true) :
    event.deferredRestartPlanned=false ∧ (∀e∈after,e.Spent) ∧
      ∃platform process status e,op=.refresh platform serviceId ∧ before=some e ∧
        calls=[.tryWait process (.ok (some status))] ∧ e.runtime.process=some process ∧
        e.supervision.episodeAt window platform.now=0 := by
  cases h with
  | exited platform e process status owned =>
    cases reported
    simp only [exitEvent] at planned
    have parts := planned
    simp only [SupervisionState.automaticRestartPlanned,Bool.and_eq_true,Bool.not_eq_true',
      decide_eq_true_eq] at parts
    refine ⟨parts.1.1.1.1.1,?_,platform,process,status,e,rfl,rfl,rfl,owned.1,parts.2⟩
    intro _ same
    cases same
    refine .inl ?_
    simp [ServiceEntry.exited,SupervisionState.recordExit,planned]
  | _ => cases reported

/-- The process a service owns. -/
def ownerOf (entry : Option (ServiceEntry P)) : Option P :=
  entry.bind fun e => e.runtime.process

theorem process_of_inactive (e : ServiceEntry P) (inactive : active e=false) :
    e.runtime.process=none := by
  simp only [active,ServiceRuntime.hasProcess,Bool.or_eq_false_iff] at inactive
  simpa using inactive.2

/-- Without an accepted request, an owner can only stay or be seen to exit. -/
theorem Turn.unaccepted (h : Turn serviceId window op before calls after exit)
    (quiet : ∀platform action actor reason e,op=.request platform action serviceId actor reason →
      before=some e → ¬e.Accepts platform actor action) :
    (exit=none ∧ ownerOf after=ownerOf before) ∨
      ∃process status,ownerOf before=some process ∧
        calls=[.tryWait process (.ok (some status))] ∧ ownerOf after=none := by
  cases h with
  | absent => exact .inl ⟨rfl,rfl⟩
  | elsewhere => exact .inl ⟨rfl,rfl⟩
  | requested platform action actor reason e e' calls effect =>
    have refused := quiet platform action actor reason e rfl rfl
    rw [(effect.eq_of_refused refused).1]
    exact .inl ⟨rfl,rfl⟩
  | watched platform e e' calls watched looked =>
    exact .inl ⟨rfl,by simp [ownerOf,watched.process]⟩
  | exited platform e process status owned =>
    exact .inr ⟨process,status,owned.1,rfl,rfl⟩
  | replaced registrations e registration id inactive =>
    refine .inl ⟨rfl,?_⟩
    cases before with
    | none => rfl
    | some e =>
      have vacant := inactive e rfl
      exact (process_of_inactive e vacant).symm
  | dropped registrations e inactive =>
    refine .inl ⟨rfl,?_⟩
    exact (process_of_inactive e inactive).symm

variable (serviceId)

theorem exits_silent (ops : List (RegistryOp P E Q)) (s : RegistrySys P E)
    (silent : Run.Along (track serviceId)
      (fun s op => op.exitOf serviceId s.registry=none) ops s) : exits serviceId ops s=[] := by
  induction ops generalizing s with
  | nil => rfl
  | cons op ops ih => rw [exits,silent.1,ih _ silent.2]; rfl

/-- Until a request is accepted, nothing comes of a service without an owner. -/
theorem unowned_silent (ops : List (RegistryOp P E Q)) (s : RegistrySys P E)
    (sound : s.registry.Sound) (vacant : ownerOf s.registry.services[serviceId]?=none)
    (quiet : Run.Along (track serviceId) (fun s op => ¬op.Accepted serviceId s.registry) ops s) :
    Run.Along (track serviceId) (fun s op => op.exitOf serviceId s.registry=none) ops s := by
  induction ops generalizing s with
  | nil => trivial
  | cons op ops ih =>
    have turn := (op.turn s.registry sound serviceId).unaccepted
      fun platform action actor reason e request here accepts =>
        quiet.1 ⟨platform,action,actor,reason,e,request,here,accepts⟩
    rw [vacant] at turn
    rcases turn with ⟨silent,same⟩|⟨process,status,owner,-⟩
    · exact ⟨silent,ih (op.track serviceId s) (sound_step op s.registry sound) same quiet.2⟩
    · cases owner

/-- Until a request is accepted, a retained owner exits at most once, and nothing else does. -/
theorem owned_exits (ops : List (RegistryOp P E Q)) (s : RegistrySys P E)
    (sound : s.registry.Sound) (process : P)
    (owner : ownerOf s.registry.services[serviceId]?=some process)
    (quiet : Run.Along (track serviceId) (fun s op => ¬op.Accepted serviceId s.registry) ops s) :
    (exits serviceId ops s).length≤1 ∧
      Run.Along (track serviceId) (fun s op => op.exitOf serviceId s.registry≠none →
        ∃status,op.calls serviceId s.registry=[.tryWait process (.ok (some status))]) ops s := by
  induction ops generalizing s with
  | nil => exact ⟨by simp [exits],trivial⟩
  | cons op ops ih =>
    have next := sound_step op s.registry sound
    have turn := (op.turn s.registry sound serviceId).unaccepted
      fun platform action actor reason e request here accepts =>
        quiet.1 ⟨platform,action,actor,reason,e,request,here,accepts⟩
    rw [owner] at turn
    rcases turn with ⟨silent,same⟩|⟨process,status,⟨⟩,calls,gone⟩
    · obtain ⟨few,along⟩ := ih (op.track serviceId s) next same quiet.2
      exact ⟨by simpa [exits,exitOf,silent] using few,fun reported => absurd silent reported,along⟩
    · have rest := unowned_silent serviceId ops (op.track serviceId s) next gone quiet.2
      refine ⟨?_,fun _ => ⟨status,calls⟩,rest.mono fun s op silent reported => ?_⟩
      · rw [exits,exits_silent serviceId ops _ rest,List.append_nil]
        cases op.exitOf serviceId s.registry <;> simp
      · exact absurd silent reported

/-- A restart that ends with its owner still terminating retains that owner. -/
theorem pending_owner (platform : Platform P E Q) (actor : Actor) (reason : Reason)
    (s : RegistrySys P E) (sound : s.registry.Sound) (report : Option TreeStopReport)
    (t : RegistrySys P E)
    (pending : (restartWithReport platform serviceId actor reason).run ⟨s.registry,[]⟩=
      .ok ⟨.terminationPending,report⟩ t) :
    ∃process,ownerOf s.registry.services[serviceId]?=some process ∧
      ownerOf ((RegistryOp.request platform .restart serviceId actor reason).track serviceId
        s).registry.services[serviceId]?=some process := by
  rw [restartWithReport,run_withEntry] at pending
  cases here : s.registry.services[serviceId]? with
  | none => simp [here] at pending
  | some e =>
    have cases := restart_cases platform actor reason e (sound.consistent serviceId e here)
    have after := lookup_request platform .restart serviceId actor reason s.registry serviceId
    rw [if_pos rfl,here,Option.map_some,ServiceEntry.request,StateError.final_run_map] at after
    change ∃process,_ ∧ ownerOf ((RegistryOp.request platform .restart serviceId actor
      reason).step s.registry).services[serviceId]?=some process
    rw [after]
    simp only [here] at pending
    generalize (ServiceEntry.restart platform actor reason).run ⟨e,[]⟩=result at cases pending ⊢
    cases cases with
    | pending process report admits owned => exact ⟨process,owned.1,rfl⟩
    | launched result admits idle prepared launch => cases launch <;> simp at pending
    | replaced result process report admits owned prepared answer complete launch =>
      cases launch <;> simp at pending
    | _ => simp at pending

theorem exclusive_plans (op : RegistryOp P E Q) (r : ServiceRegistry P) (sound : r.Sound)
    (event : ProcessExitEvent) (reported : op.exitOf serviceId r=some event) :
    ¬(event.automaticRestartPlanned=true ∧ event.deferredRestartPlanned=true) := by
  intro h
  obtain ⟨automatic,deferred⟩ := h
  have exclusive := ((op.turn r sound serviceId).planned event reported automatic).1
  simp [deferred] at exclusive

/-- Between two exits, the spent episode stays spent unless somebody interrupts. -/
theorem spent_between (first : RegistryOp P E Q) (between : List (RegistryOp P E Q))
    (s : RegistrySys P E) (sound : s.registry.Sound) (event : ProcessExitEvent)
    (reported : first.exitOf serviceId s.registry=some event)
    (planned : event.automaticRestartPlanned=true)
    (quiet : Run.Along (track serviceId) (fun s op => op.exitOf serviceId s.registry=none ∧
      ¬op.Interrupts serviceId s.registry) between (first.track serviceId s)) :
    let t := Run.final (track serviceId) between (first.track serviceId s)
    t.registry.Sound ∧ ∀e∈t.registry.services[serviceId]?,e.Spent := by
  have keeps : Run.Keeps (track serviceId)
      (fun s (op : RegistryOp P E Q) => op.exitOf serviceId s.registry=none ∧
        ¬op.Interrupts serviceId s.registry)
      (fun s => s.registry.Sound ∧ ∀e∈s.registry.services[serviceId]?,e.Spent) := by
    intro s op inv ok
    refine ⟨sound_step op s.registry inv.1,
      (op.turn s.registry inv.1 serviceId).spent ok.1 inv.2 ?_⟩
    intro platform action actor reason e request here accepts
    by_contra other
    refine ok.2 ⟨platform,action,actor,reason,e,request,here,accepts,?_⟩
    by_cases halt : action=.stop
    · exact .inl halt
    · exact .inr fun recovery => other ⟨halt,recovery⟩
  exact keeps.final ⟨sound_step first s.registry sound,
    ((first.turn s.registry sound serviceId).planned event reported planned).2.1⟩ quiet

theorem ranStable_of_planned (op : RegistryOp P E Q) (s : RegistrySys P E)
    (sound : s.registry.Sound) (spent : ∀e∈s.registry.services[serviceId]?,e.Spent)
    (recorded : ∀e∈s.registry.services[serviceId]?,e.StartRecorded serviceId s.calls)
    (event : ProcessExitEvent) (reported : op.exitOf serviceId s.registry=some event)
    (planned : event.automaticRestartPlanned=true) : op.RanStable serviceId s := by
  obtain ⟨-,-,platform,process,status,e,request,here,calls,owner,fresh⟩ :=
    (op.turn s.registry sound serviceId).planned event reported planned
  have used : e.supervision.automaticRestartsInEpisode≠0 := by
    rcases spent e here with used|⟨-,vacant⟩
    · exact used
    · simp [vacant] at owner
  unfold SupervisionState.episodeAt at fresh
  split_ifs at fresh with stable
  · unfold SupervisionState.ranStable at stable
    cases started : e.supervision.startedAt with
    | none => simp [started] at stable
    | some now =>
      exact ⟨platform,process,status,now,request,calls,recorded e here now process started owner,
        by simpa [started] using stable⟩
  · exact absurd fresh used

/-- Automatic recovery is bounded, in every run and with any clock readings. No exit plans both
kinds of restart. Of two exits in a row that both plan an automatic restart, with no accepted stop
and no accepted start or restart by anyone but Recovery between them, the second is that of a
process that ran for at least the stability window. And after a restart that left its owner
terminating, until another request is accepted, at most one deferred restart is planned, at the
exit of that owner. -/
theorem recovery_bounded (registrations : List ServiceRegistration) (window : Nat)
    (r : ServiceRegistry P) (built : ServiceRegistry.new registrations window=.ok r)
    (ops : List (RegistryOp P E Q)) :
    let s := Run.final (track serviceId) ops ⟨r,[]⟩
    (∀(op : RegistryOp P E Q) (event : ProcessExitEvent),
      op.exitOf serviceId s.registry=some event →
      ¬(event.automaticRestartPlanned=true ∧ event.deferredRestartPlanned=true)) ∧
    (∀(first : RegistryOp P E Q) (between : List (RegistryOp P E Q)) (second : RegistryOp P E Q)
      (event₁ event₂ : ProcessExitEvent),
      first.exitOf serviceId s.registry=some event₁ → event₁.automaticRestartPlanned=true →
      Run.Along (track serviceId) (fun s op => op.exitOf serviceId s.registry=none ∧
        ¬op.Interrupts serviceId s.registry) between (first.track serviceId s) →
      let t := Run.final (track serviceId) between (first.track serviceId s)
      second.exitOf serviceId t.registry=some event₂ → event₂.automaticRestartPlanned=true →
      second.RanStable serviceId t) ∧
    ∀(platform : Platform P E Q) (actor : Actor) (reason : Reason)
      (report : Option TreeStopReport) (t : RegistrySys P E),
      (restartWithReport platform serviceId actor reason).run ⟨s.registry,[]⟩=
        .ok ⟨.terminationPending,report⟩ t →
      let pending := (RegistryOp.request platform .restart serviceId actor reason).track serviceId s
      ∃process,ownerOf s.registry.services[serviceId]?=some process ∧
        ∀later : List (RegistryOp P E Q),
          Run.Along (track serviceId) (fun s op => ¬op.Accepted serviceId s.registry) later
            pending →
          (exits serviceId later pending).countP (·.deferredRestartPlanned)≤1 ∧
          Run.Along (track serviceId) (fun s op => ∀event,
            op.exitOf serviceId s.registry=some event → event.deferredRestartPlanned=true →
            ∃status,op.calls serviceId s.registry=[.tryWait process (.ok (some status))])
            later pending := by
  intro s
  have sound : s.registry.Sound := (reachable_track serviceId ⟨r,[]⟩
    (.new registrations window r built) ops).sound
  refine ⟨fun op event => exclusive_plans serviceId op s.registry sound event,?_,?_⟩
  · intro first between second event₁ event₂ reported₁ planned₁ quiet t reported₂ planned₂
    obtain ⟨sound',spent⟩ :=
      spent_between serviceId first between s sound event₁ reported₁ planned₁ quiet
    have recorded := startRecorded_run serviceId registrations window r built (ops++first::between)
    rw [Run.final_append] at recorded
    exact ranStable_of_planned serviceId second t sound' spent recorded event₂ reported₂ planned₂
  · intro platform actor reason report t answer pending
    obtain ⟨process,owner,retained⟩ :=
      pending_owner serviceId platform actor reason s sound report t answer
    refine ⟨process,owner,fun later quiet => ?_⟩
    obtain ⟨few,along⟩ := owned_exits serviceId later pending (sound_step _ s.registry sound)
      process retained quiet
    refine ⟨Nat.le_trans List.countP_le_length few,along.mono fun s op exits event reported _ => ?_⟩
    exact exits (by simp [reported])

/-- A platform that reports an exit with code 1 at the clock reading `now`. -/
def crashedPlatform (now : Nat) : Platform Nat Unit Unit :=
  { fixturePlatform with
    ownedPids := fun _ _ => .ok []
    tryWait := fun _ => .ok (some ⟨some 1⟩)
    now }

theorem recovery_bounded_crash :
    (RegistryOp.refresh (crashedPlatform (fromMillis 70000)) "fixture").RanStable "fixture"
      (Run.final (track "fixture")
        [.request fixturePlatform .start "fixture" .codex fixtureReason,
          .refresh (crashedPlatform 1) "fixture",
          .request fixturePlatform .restart "fixture" .recovery fixtureReason]
        ⟨fixtureRegistry [fixture "fixture" "Fixture"],[]⟩) := by
  have bounded := (recovery_bounded "fixture" [fixture "fixture" "Fixture"] _
    (fixtureRegistry [fixture "fixture" "Fixture"]) rfl
    [.request fixturePlatform .start "fixture" .codex fixtureReason]).2.1
    (.refresh (crashedPlatform 1) "fixture")
    [.request fixturePlatform .restart "fixture" .recovery fixtureReason]
    (.refresh (crashedPlatform (fromMillis 70000)) "fixture")
    ⟨"fixture",.running,[],some 1,false,true,false⟩ ⟨"fixture",.running,[],some 1,false,true,false⟩
  refine bounded (by decide +kernel) rfl ⟨⟨by decide +kernel,?_⟩,trivial⟩ (by decide +kernel) rfl
  intro h
  obtain ⟨platform,action,actor,reason,e,request,-,-,other⟩ := h
  cases request
  rcases other with halt|other
  · cases halt
  · exact other rfl

end RegistryOp

end AkuSupervisor
