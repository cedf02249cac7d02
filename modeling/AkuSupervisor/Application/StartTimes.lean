import AkuSupervisor.Application.RegistryRun

namespace AkuSupervisor

/-- A call that brings a tree up: a successful spawn, or the record of it. -/
def TreeCall.isStart {P E : Type} : TreeCall P E → Bool
  | .spawn _ _ (.ok _) | .recordStarted _ _ => true
  | _ => false

/-- The service's last successful spawn made `process`, and its start was recorded at `now`. -/
def RecordedFor {P E : Type} (serviceId : String) (process : P) (now : Nat)
    (log : List (TreeCall P E)) : Prop :=
  ∃earlier launch later,log=earlier++.spawn serviceId launch (.ok process)::
    .recordStarted serviceId now::later ∧ ∀call∈later,call.isStart=false

theorem RecordedFor.append {P E : Type} {serviceId : String} {process : P} {now : Nat}
    {log : List (TreeCall P E)} (h : RecordedFor serviceId process now log)
    (more : List (TreeCall P E)) (silent : ∀call∈more,call.isStart=false) :
    RecordedFor serviceId process now (log++more) := by
  obtain ⟨earlier,launch,later,rfl,quiet⟩ := h
  refine ⟨earlier,launch,later++more,by simp,?_⟩
  intro call mem
  rcases List.mem_append.mp mem with first|last
  · exact quiet call first
  · exact silent call last

namespace ServiceEntry

open ServiceRuntime

variable {P E Q : Type}

/-- A deferred restart waits for a retained owner to finish terminating. -/
def DeferralWaits (e : ServiceEntry P) : Prop :=
  e.supervision.restartAfterTermination=true →
    e.runtime.lifecycle=.terminationPending ∧ e.runtime.process.isSome=true ∧
      e.supervision.desiredState=.running

/-- A start time next to an owner is the one that was recorded for that owner. -/
def StartRecorded (serviceId : String) (log : List (TreeCall P E)) (e : ServiceEntry P) : Prop :=
  ∀now process,e.supervision.startedAt=some now → e.runtime.process=some process →
    RecordedFor serviceId process now log

/-- Without an owner there is no start time. -/
def StartForgotten (e : ServiceEntry P) : Prop :=
  e.runtime.process=none →
    e.supervision.startedAt=none ∧ e.supervision.startedAtUnixMs=none

/-- A restart whose launch fails once its stop has released the owner of a recorded start. -/
def RestartLosesOwner (platform : Platform P E Q) (actor : Actor) (e : ServiceEntry P) : Prop :=
  e.Accepts platform actor .restart ∧
    ¬(e.supervision.startedAt=none ∧ e.supervision.startedAtUnixMs=none) ∧
    LaunchFails platform e ∧ ∃process report,e.runtime.process=some process ∧
      platform.stop process e.registration.shutdownGrace=.ok report ∧ report.isComplete=true

theorem accepted_deferral (actor : Actor) (action : LifecycleAction) (reason : Reason)
    (e : ServiceEntry P) :
    (e.accepted actor action reason).supervision.restartAfterTermination=false := by
  cases action <;> rfl

theorem Effect.deferral {platform : Platform P E Q} {action : LifecycleAction} {actor : Actor}
    {reason : Reason} {e e' : ServiceEntry P} {calls : List (TreeCall P E)}
    (h : Effect platform action actor reason e e' calls) (waits : e.DeferralWaits) :
    e'.DeferralWaits := by
  have cleared := accepted_deferral actor action reason e
  cases h with
  | refused => exact waits
  | pending process report accepts owned halt =>
    intro deferred
    rcases halt with rfl|rfl
    · simp at deferred
    · exact ⟨rfl,rfl,rfl⟩
  | up before process e' accepts launch clear quiet =>
    intro deferred
    obtain ⟨pids,supervision⟩ := quiet.supervision
    simp [supervision,spawnedBy,SupervisionState.recordStarted] at deferred
  | _ => exact fun deferred => by simp [cleared] at deferred

theorem Quiet.deferral {e e' : ServiceEntry P} (quiet : Quiet e e') (waits : e.DeferralWaits) :
    e'.DeferralWaits := by
  obtain ⟨pids,supervision⟩ := quiet.supervision
  intro deferred
  rw [supervision] at deferred ⊢
  obtain ⟨lifecycle,owner,desired⟩ := waits deferred
  rw [quiet.lifecycle (by simp [lifecycle]),quiet.process]
  exact ⟨lifecycle,owner,desired⟩

theorem accepted_startedAt (actor : Actor) (action : LifecycleAction) (reason : Reason)
    (e : ServiceEntry P) (launch : action=.start ∨ action=.restart) :
    (e.accepted actor action reason).supervision.startedAt=e.supervision.startedAt ∧
      (e.accepted actor action reason).supervision.startedAtUnixMs=
        e.supervision.startedAtUnixMs := by
  rcases launch with rfl|rfl <;> exact ⟨rfl,rfl⟩

section Effects

variable {platform : Platform P E Q} {action : LifecycleAction} {actor : Actor} {reason : Reason}
  {e e' : ServiceEntry P} {calls : List (TreeCall P E)}

theorem Effect.startRecorded {serviceId : String} {log : List (TreeCall P E)}
    (h : Effect platform action actor reason e e' calls) (named : e.registration.id=serviceId)
    (recorded : e.StartRecorded serviceId log) : e'.StartRecorded serviceId (log++calls) := by
  intro now process started owner
  cases h with
  | refused => simpa using recorded now process started owner
  | pending previous report accepts owned halt =>
    cases owner
    rcases halt with rfl|rfl
    · cases started
    · exact (recorded now process started owned.1).append _ (by simp [TreeCall.isStart])
  | failed previous error accepts owned halt =>
    cases owner
    rcases halt with rfl|rfl
    · cases started
    · exact (recorded now process started owned.1).append _ (by simp [TreeCall.isStart])
  | up before previous e' accepts launch cleared quiet =>
    obtain ⟨pids,supervision⟩ := quiet.supervision
    rw [supervision] at started
    rw [quiet.process] at owner
    cases started
    cases owner
    exact ⟨log++before,e.registration.launch,[],by simp [named],by simp⟩
  | _ => cases owner

theorem Effect.startForgotten (h : Effect platform action actor reason e e' calls)
    (forgotten : e.StartForgotten)
    (kept : ¬(action=.restart ∧ e.RestartLosesOwner platform actor)) : e'.StartForgotten := by
  intro vacant
  cases h with
  | refused => exact forgotten vacant
  | stopped health calls stop halts =>
    subst stop
    exact ⟨rfl,rfl⟩
  | down before calls accepts launch cleared fails attempt =>
    obtain ⟨time,unix⟩ := accepted_startedAt actor action reason e launch
    cases cleared with
    | vacant _ vacant =>
      obtain ⟨started,reported⟩ := forgotten vacant
      exact ⟨time.trans started,unix.trans reported⟩
    | replaced process report owned answer complete =>
      by_cases none : e.supervision.startedAt=none ∧ e.supervision.startedAtUnixMs=none
      · exact ⟨time.trans none.1,unix.trans none.2⟩
      · exact absurd ⟨rfl,accepts,none,fails,process,report,owned.1,answer,complete⟩ kept
  | up before process e' accepts launch cleared quiet =>
    rw [quiet.process] at vacant
    cases vacant
  | _ => cases vacant

theorem Quiet.startRecorded {serviceId : String} {log : List (TreeCall P E)} (quiet : Quiet e e')
    (looked : NoExit calls) (recorded : e.StartRecorded serviceId log) :
    e'.StartRecorded serviceId (log++calls) := by
  intro now process started owner
  obtain ⟨pids,supervision⟩ := quiet.supervision
  rw [supervision] at started
  rw [quiet.process] at owner
  refine (recorded now process started owner).append calls ?_
  intro call mem
  obtain ⟨process,answer,rfl,-⟩ := looked call mem
  rfl

theorem Quiet.startForgotten (quiet : Quiet e e') (forgotten : e.StartForgotten) :
    e'.StartForgotten := by
  intro vacant
  obtain ⟨pids,supervision⟩ := quiet.supervision
  rw [quiet.process] at vacant
  rw [supervision]
  exact forgotten vacant

end Effects

end ServiceEntry

namespace RegistryOp

open ServiceRegistry ServiceEntry

variable {P E Q : Type} (serviceId : String)

/-- Steps the registry and logs the calls made for the service. -/
def track (op : RegistryOp P E Q) (s : RegistrySys P E) : RegistrySys P E :=
  ⟨op.step s.registry,s.calls++op.calls serviceId s.registry⟩

/-- The step restarts the service, releases its owner and fails to launch the replacement. -/
def LosesOwner (s : RegistrySys P E) (op : RegistryOp P E Q) : Prop :=
  ∃platform actor reason e,op=.request platform .restart serviceId actor reason ∧
    s.registry.services[serviceId]?=some e ∧ e.RestartLosesOwner platform actor

variable {serviceId} {window : Nat} {op : RegistryOp P E Q}
  {before after : Option (ServiceEntry P)} {calls : List (TreeCall P E)}
  {exit : Option ProcessExitEvent}

theorem Turn.deferral (h : Turn serviceId window op before calls after exit)
    (waits : ∀e∈before,e.DeferralWaits) : ∀e∈after,e.DeferralWaits := by
  cases h with
  | absent => simp
  | elsewhere => exact waits
  | requested platform action actor reason e e' calls effect =>
    intro _ same
    cases same
    exact effect.deferral (waits e rfl)
  | watched platform e e' calls quiet looked =>
    intro _ same
    cases same
    exact quiet.deferral (waits e rfl)
  | exited | replaced =>
    intro _ same
    cases same
    intro deferred
    cases deferred
  | dropped => simp

theorem Turn.startRecorded (h : Turn serviceId window op before calls after exit)
    (named : ∀e∈before,e.registration.id=serviceId) (log : List (TreeCall P E))
    (recorded : ∀e∈before,e.StartRecorded serviceId log) :
    ∀e∈after,e.StartRecorded serviceId (log++calls) := by
  cases h with
  | absent => simp
  | elsewhere => simpa using recorded
  | requested platform action actor reason e e' calls effect =>
    intro _ same
    cases same
    exact effect.startRecorded (named e rfl) (recorded e rfl)
  | watched platform e e' calls quiet looked =>
    intro _ same
    cases same
    exact quiet.startRecorded looked (recorded e rfl)
  | exited | replaced =>
    intro _ same
    cases same
    intro now process started owner
    cases owner
  | dropped => simp

theorem Turn.startForgotten (h : Turn serviceId window op before calls after exit)
    (forgotten : ∀e∈before,e.StartForgotten)
    (kept : ∀platform actor reason e,op=.request platform .restart serviceId actor reason →
      before=some e → ¬e.RestartLosesOwner platform actor) :
    ∀e∈after,e.StartForgotten := by
  cases h with
  | absent => simp
  | elsewhere => exact forgotten
  | requested platform action actor reason e e' calls effect =>
    intro _ same
    cases same
    refine effect.startForgotten (forgotten e rfl) ?_
    intro h
    obtain ⟨rfl,loses⟩ := h
    exact kept platform actor reason e rfl rfl loses
  | watched platform e e' calls quiet looked =>
    intro _ same
    cases same
    exact quiet.startForgotten (forgotten e rfl)
  | exited | replaced =>
    intro _ same
    cases same
    intro vacant
    exact ⟨rfl,rfl⟩
  | dropped => simp

variable (serviceId)

/-- In every run, whatever the callbacks answer, a deferred restart waits for an owner that is
still terminating. -/
theorem deferral_waits (r : ServiceRegistry P) (reachable : Reachable E Q r) :
    ∀e∈r.services[serviceId]?,e.DeferralWaits := by
  induction reachable with
  | new registrations window r built =>
    intro e here
    obtain ⟨registration,-,rfl⟩ := new_entry registrations window r built serviceId e here
    intro deferred
    cases deferred
  | step op r reachable ih => exact (op.turn r reachable.sound serviceId).deferral ih

theorem reachable_track (s : RegistrySys P E) (reachable : Reachable E Q s.registry)
    (ops : List (RegistryOp P E Q)) :
    Reachable E Q (Run.final (track serviceId) ops s).registry := by
  refine Run.always (fun s : RegistrySys P E => Reachable E Q s.registry) ?_ ops reachable
  intro s op reachable
  exact .step op s.registry reachable

section NewRegistry

variable (registrations : List ServiceRegistration) (window : Nat) (r : ServiceRegistry P)
  (built : ServiceRegistry.new registrations window=.ok r) (ops : List (RegistryOp P E Q))

include built

/-- In every run, a start time next to an owner is that of the owner. -/
theorem startRecorded_run :
    let s := Run.final (track serviceId) ops ⟨r,[]⟩
    ∀e∈s.registry.services[serviceId]?,e.StartRecorded serviceId s.calls := by
  refine (Run.always (fun s : RegistrySys P E => s.registry.Sound ∧
    ∀e∈s.registry.services[serviceId]?,e.StartRecorded serviceId s.calls) ?_ ops ⟨?_,?_⟩).2
  · intro s op inv
    exact ⟨sound_step op s.registry inv.1,(op.turn s.registry inv.1 serviceId).startRecorded
      (inv.1.keyed serviceId) s.calls inv.2⟩
  · exact sound_new registrations window r built
  · intro e here
    obtain ⟨registration,-,rfl⟩ := new_entry registrations window r built serviceId e here
    intro now process started
    cases started

/-- In a run in which no restart loses the owner of a start, no start time outlives its owner. -/
theorem startForgotten_run
    (kept : Run.Along (track serviceId) (fun s op => ¬op.LosesOwner serviceId s) ops ⟨r,[]⟩) :
    ∀e∈(Run.final (track serviceId) ops ⟨r,[]⟩).registry.services[serviceId]?,
      e.StartForgotten := by
  have keeps : Run.Keeps (track serviceId)
      (fun s (op : RegistryOp P E Q) => ¬op.LosesOwner serviceId s)
      (fun s => s.registry.Sound ∧ ∀e∈s.registry.services[serviceId]?,e.StartForgotten) := by
    intro s op inv kept
    refine ⟨sound_step op s.registry inv.1,
      (op.turn s.registry inv.1 serviceId).startForgotten inv.2 ?_⟩
    intro platform actor reason e request here loses
    exact kept ⟨platform,actor,reason,e,request,here,loses⟩
  refine (keeps.final ⟨sound_new registrations window r built,?_⟩ kept).2
  intro e here
  obtain ⟨registration,-,rfl⟩ := new_entry registrations window r built serviceId e here
  intro vacant
  exact ⟨rfl,rfl⟩

end NewRegistry

theorem snapshot_start (platform : Platform P E Q) (e : ServiceEntry P) (shot : ServiceSnapshot)
    (taken : e.snapshot platform=.ok shot) :
    shot.rootPid=e.runtime.process.map platform.rootPid ∧
      shot.startedAtUnixMs=e.supervision.startedAtUnixMs := by
  unfold ServiceEntry.snapshot at taken
  revert taken
  cases e.runtime.process with
  | none =>
    intro taken
    cases taken
    exact ⟨rfl,rfl⟩
  | some process =>
    intro taken
    cases answer : platform.ownedProcesses process with
    | error error => simp [answer,Except.mapError,bind,Except.bind] at taken
    | ok processes =>
      simp only [answer,Except.mapError,bind,Except.bind] at taken
      cases taken
      exact ⟨rfl,rfl⟩

/-- Supervision agrees with ownership in every state of a run, with any answers of the callbacks,
as long as no restart releases the owner of a recorded start and then fails to launch: a start time
is that of the tree the entry owns, a snapshot without a root process carries none, and a deferred
restart waits for an owner that is still terminating. -/
theorem supervision_agrees (registrations : List ServiceRegistration) (window : Nat)
    (r : ServiceRegistry P) (built : ServiceRegistry.new registrations window=.ok r)
    (ops : List (RegistryOp P E Q))
    (kept : Run.Along (track serviceId) (fun s op => ¬op.LosesOwner serviceId s) ops ⟨r,[]⟩) :
    let s := Run.final (track serviceId) ops ⟨r,[]⟩
    ∀e,s.registry.services[serviceId]?=some e →
      (∀now,e.supervision.startedAt=some now →
        ∃process,e.runtime.process=some process ∧ RecordedFor serviceId process now s.calls) ∧
      (∀(platform : Platform P E Q) (shot : ServiceSnapshot),e.snapshot platform=.ok shot →
        shot.rootPid=none → shot.startedAtUnixMs=none) ∧
      (e.supervision.restartAfterTermination=true →
        e.runtime.lifecycle=.terminationPending ∧ e.runtime.process.isSome=true ∧
          e.supervision.desiredState=.running) := by
  intro s e here
  have recorded := startRecorded_run serviceId registrations window r built ops e here
  have forgotten := startForgotten_run serviceId registrations window r built ops kept e here
  refine ⟨?_,?_,?_⟩
  · intro now started
    cases owner : e.runtime.process with
    | none => simp [(forgotten owner).1] at started
    | some process => exact ⟨process,rfl,recorded now process started owner⟩
  · intro platform shot taken rootless
    obtain ⟨root,unix⟩ := snapshot_start platform e shot taken
    rw [root,Option.map_eq_none_iff] at rootless
    exact unix.trans (forgotten rootless).2
  · exact deferral_waits serviceId s.registry
      (reachable_track serviceId ⟨r,[]⟩ (.new registrations window r built) ops) e here

theorem supervision_agrees_start :
    let s := Run.final (track "fixture")
      [.request fixturePlatform .start "fixture" .codex fixtureReason]
      ⟨fixtureRegistry [fixture "fixture" "Fixture"],[]⟩
    ∀e,s.registry.services["fixture"]?=some e →
      (∀now,e.supervision.startedAt=some now →
        ∃process,e.runtime.process=some process ∧ RecordedFor "fixture" process now s.calls) ∧
      (∀(platform : Platform Nat Unit Unit) (shot : ServiceSnapshot),
        e.snapshot platform=.ok shot → shot.rootPid=none → shot.startedAtUnixMs=none) ∧
      (e.supervision.restartAfterTermination=true →
        e.runtime.lifecycle=.terminationPending ∧ e.runtime.process.isSome=true ∧
          e.supervision.desiredState=.running) := by
  refine supervision_agrees "fixture" [fixture "fixture" "Fixture"] _ _ rfl _ ⟨?_,trivial⟩
  intro h
  obtain ⟨platform,actor,reason,e,request,-⟩ := h
  cases request

/-- A restart whose replacement cannot be spawned keeps the start time of the tree it stopped. -/
theorem start_time_left :
    ¬∀(registrations : List ServiceRegistration) (window : Nat) (r : ServiceRegistry Nat)
      (serviceId : String) (ops : List (RegistryOp Nat Unit Unit)),
      ServiceRegistry.new registrations window=.ok r →
      ∀e,(Run.final (track serviceId) ops ⟨r,[]⟩).registry.services[serviceId]?=some e →
        ∀now,e.supervision.startedAt=some now → ∃process,e.runtime.process=some process := by
  intro claim
  let broken : Platform Nat Unit Unit := { fixturePlatform with spawn := fun _ _ => .error () }
  let ops : List (RegistryOp Nat Unit Unit) :=
    [.request fixturePlatform .start "fixture" .codex fixtureReason,
      .request broken .restart "fixture" .codex fixtureReason]
  have left : ((Run.final (track "fixture") ops ⟨fixtureRegistry [fixture "fixture" "Fixture"],
      []⟩).registry.services["fixture"]?.map fun e =>
        (e.supervision.startedAt,e.runtime.process))=some (some 0,none) := by
    decide +kernel
  obtain ⟨e,here,state⟩ := Option.map_eq_some_iff.mp left
  obtain ⟨started,vacant⟩ := Prod.mk.inj state
  obtain ⟨process,owner⟩ := claim [fixture "fixture" "Fixture"] _ _ "fixture" ops rfl e here 0
    started
  rw [vacant] at owner
  cases owner

end RegistryOp

end AkuSupervisor
