import AkuSupervisor.Application.RegistryRun

namespace AkuSupervisor

namespace RegistryOp

open StateError ServiceRegistry ServiceEntry

variable {P E Q : Type} (serviceId : String)

/-- The step is an accepted start or restart of the service by an actor that `who` admits. -/
def Resumes (who : Actor → Prop) (r : ServiceRegistry P) (op : RegistryOp P E Q) : Prop :=
  ∃platform action actor reason e,op=.request platform action serviceId actor reason ∧
    action≠.stop ∧ who actor ∧ r.services[serviceId]?=some e ∧ e.Accepts platform actor action

/-- The step does not invoke the launcher for the service. -/
def SpawnFree (r : ServiceRegistry P) (op : RegistryOp P E Q) : Prop :=
  ∀launch answer,.spawn serviceId launch answer∉(op.apply r).calls

section Stopped

/-- A registry whose service, if it is registered at all, is meant to be stopped. -/
structure StopRequested (r : ServiceRegistry P) : Prop where
  sound : r.Sound
  desired : ∀e∈r.services[serviceId]?,e.supervision.desiredState=.stopped

/-- While the service is meant to be stopped, Recovery cannot get it accepted again. -/
theorem resumes_of_accepts (op : RegistryOp P E Q) (r : ServiceRegistry P)
    (stopped : StopRequested serviceId r) (platform : Platform P E Q) (action : LifecycleAction)
    (actor : Actor) (reason : Reason) (e : ServiceEntry P)
    (request : op=.request platform action serviceId actor reason)
    (here : r.services[serviceId]?=some e) (launch : action≠.stop)
    (accepts : e.Accepts platform actor action) : op.Resumes serviceId (·≠.recovery) r := by
  refine ⟨platform,action,actor,reason,e,request,launch,?_,here,accepts⟩
  intro same
  subst same
  exact (accepts.admits launch).2 ⟨launch,rfl,stopped.desired e here⟩

variable {serviceId} in
theorem Turn.desired {window : Nat} {op : RegistryOp P E Q}
    {before after : Option (ServiceEntry P)} {calls : List (TreeCall P E)}
    {exit : Option ProcessExitEvent} (h : Turn serviceId window op before calls after exit)
    (stopped : ∀e∈before,e.supervision.desiredState=.stopped)
    (still : ∀platform action actor reason e,op=.request platform action serviceId actor reason →
      before=some e → e.Accepts platform actor action → action=.stop) :
    ∀e∈after,e.supervision.desiredState=.stopped := by
  cases h with
  | absent => simp
  | elsewhere => exact stopped
  | requested platform action actor reason e e' calls effect =>
    intro _ same
    cases same
    by_cases accepts : e.Accepts platform actor action
    · rw [effect.desiredState accepts,
        if_pos (still platform action actor reason e rfl rfl accepts)]
    · rw [(effect.eq_of_refused accepts).1]
      exact stopped e rfl
  | watched platform e e' calls quiet looked =>
    intro _ same
    cases same
    obtain ⟨pids,supervision⟩ := quiet.supervision
    rw [supervision]
    exact stopped e rfl
  | exited platform e process status owned =>
    intro _ same
    cases same
    exact stopped e rfl
  | replaced =>
    intro _ same
    cases same
    rfl
  | dropped => simp

theorem stopRequested_step (op : RegistryOp P E Q) (r : ServiceRegistry P)
    (stopped : StopRequested serviceId r) (still : ¬op.Resumes serviceId (·≠.recovery) r) :
    StopRequested serviceId (op.step r) := by
  refine ⟨sound_step op r stopped.sound,?_⟩
  refine (op.turn r stopped.sound serviceId).desired stopped.desired ?_
  intro platform action actor reason e request here accepts
  by_contra launch
  exact still (resumes_of_accepts serviceId op r stopped platform action actor reason e request
    here launch accepts)

theorem stopRequested_spawnFree (op : RegistryOp P E Q) (r : ServiceRegistry P)
    (stopped : StopRequested serviceId r) (still : ¬op.Resumes serviceId (·≠.recovery) r) :
    op.SpawnFree serviceId r := by
  intro launch answer mem
  obtain ⟨-,platform,action,actor,reason,e,request,here,launches,accepts⟩ :=
    (op.turn r stopped.sound serviceId).spawn (fun e found => stopped.sound.keyed serviceId e found)
      serviceId launch answer (spawn_calls op r stopped.sound serviceId launch answer mem)
  exact still (resumes_of_accepts serviceId op r stopped platform action actor reason e request
    here launches accepts)

theorem stopRequested_stop (r : ServiceRegistry P) (sound : r.Sound) (platform : Platform P E Q)
    (actor : Actor) (reason : Reason) :
    StopRequested serviceId
      ((RegistryOp.request platform .stop serviceId actor reason).step r) := by
  refine ⟨sound_step _ r sound,?_⟩
  intro e here
  rw [lookup_request,if_pos rfl] at here
  obtain ⟨before,found,rfl⟩ := Option.map_eq_some_iff.mp here
  exact (request_effect platform actor reason before .stop
    (sound.consistent serviceId before found)).desiredState trivial

/-- An explicit stop wins. After it, whatever the interleaving of requests, refreshes and
reconciliations, the launcher is not invoked for the service until a start or restart of it by an
actor other than Recovery is accepted. -/
theorem stop_wins (r : ServiceRegistry P) (reachable : Reachable E Q r)
    (platform : Platform P E Q) (actor : Actor) (reason : Reason)
    (later : List (RegistryOp P E Q))
    (still : Run.Along step (fun r op => ¬op.Resumes serviceId (·≠.recovery) r) later
      ((RegistryOp.request platform .stop serviceId actor reason).step r)) :
    Run.Along step (fun r op => op.SpawnFree serviceId r) later
      ((RegistryOp.request platform .stop serviceId actor reason).step r) := by
  have keeps : Run.Keeps step (fun r (op : RegistryOp P E Q) =>
      ¬op.Resumes serviceId (·≠.recovery) r) (StopRequested serviceId) :=
    fun r op stopped still => stopRequested_step serviceId op r stopped still
  exact keeps.along (fun r op stopped still => stopRequested_spawnFree serviceId op r stopped still)
    (stopRequested_stop serviceId r reachable.sound platform actor reason) still

theorem stop_wins_over_recovery :
    Run.Along step (fun r op => op.SpawnFree "fixture" r)
      [.request fixturePlatform .restart "fixture" .recovery fixtureReason]
      ((RegistryOp.request fixturePlatform .stop "fixture" .codex fixtureReason).step
        (fixtureRegistry [fixture "fixture" "Fixture"])) := by
  refine stop_wins "fixture" _ (.new [fixture "fixture" "Fixture"] _ _ rfl) fixturePlatform .codex
    fixtureReason _ ⟨?_,trivial⟩
  intro h
  obtain ⟨platform,action,actor,reason,e,request,-,other,-⟩ := h
  cases request
  exact other rfl

end Stopped

section Hold

/-- A registry whose service, if it is registered at all, a user has stopped. -/
structure Held (r : ServiceRegistry P) : Prop where
  sound : r.Sound
  hold : ∀e∈r.services[serviceId]?,e.control.policy.operatorHold=.stopped

/-- Whether a step, if it starts or restarts the service for anyone but a user, is rejected and
leaves everything as it was. -/
def HoldRespected (r : ServiceRegistry P) (op : RegistryOp P E Q) : Prop :=
  ∀platform action actor reason,op=.request platform action serviceId actor reason →
    action≠.stop → actor.isUser=false →
    (∃error,failure ((withEntry serviceId (ServiceEntry.request platform action actor reason)).run
      (⟨r,[]⟩ : RegistrySys P E))=some error) ∧ op.apply r=⟨r,[]⟩

/-- A reconciliation that is not refused names the service only by the registration it has. -/
def KeepsRegistration (r : ServiceRegistry P) (op : RegistryOp P E Q) : Prop :=
  ∀registrations,op=.reconcile registrations → Refuses registrations r ∨
    ∀registration∈registrations,registration.id=serviceId →
      ∃e,r.services[serviceId]?=some e ∧ e.registration=registration

theorem held_admits (e : ServiceEntry P) (actor : Actor) (action : LifecycleAction)
    (hold : e.control.policy.operatorHold=.stopped) (other : actor.isUser=false)
    (launch : action≠.stop) : ¬e.Admits actor action := by
  intro admits
  have denied := e.control.policy.authorize_held actor action hold other
    (by cases action <;> simp_all)
  rw [admits.1] at denied
  cases denied

theorem held_respected (op : RegistryOp P E Q) (r : ServiceRegistry P)
    (held : Held serviceId r) : op.HoldRespected serviceId r := by
  intro platform action actor reason same
  subst same
  intro launch other
  rw [apply,run_withEntry]
  cases here : r.services[serviceId]? with
  | none => exact ⟨⟨_,rfl⟩,rfl⟩
  | some e =>
    obtain ⟨error,run⟩ := request_denied platform actor reason e action
      (held.sound.consistent serviceId e here) launch
      (held_admits e actor action (held.hold e here) other launch)
    simp only [run,ServiceMap.insert_self r.services serviceId e here]
    exact ⟨⟨_,rfl⟩,rfl⟩

/-- Requests that no user makes, refreshes and other services' turns keep the hold. -/
theorem Turn.hold {serviceId : String} {window : Nat} {op : RegistryOp P E Q}
    {before after : Option (ServiceEntry P)} {calls : List (TreeCall P E)}
    {exit : Option ProcessExitEvent} (h : Turn serviceId window op before calls after exit)
    (held : ∀e∈before,e.control.policy.operatorHold=.stopped)
    (still : ∀platform action actor reason e,op=.request platform action serviceId actor reason →
      before=some e → e.Accepts platform actor action → actor.isUser=true → action=.stop)
    (live : ∀registrations,op≠.reconcile registrations) :
    ∀e∈after,e.control.policy.operatorHold=.stopped := by
  cases h with
  | absent => simp
  | elsewhere => exact held
  | requested platform action actor reason e e' calls effect =>
    intro _ same
    cases same
    by_cases accepts : e.Accepts platform actor action
    · rw [effect.control accepts]
      cases user : actor.isUser with
      | false =>
        rw [ControlPolicy.applyUserAction_other _ _ _ user]
        exact held e rfl
      | true =>
        rw [ControlPolicy.applyUserAction_user _ _ _ user,
          still platform action actor reason e rfl rfl accepts user]
    · rw [(effect.eq_of_refused accepts).1]
      exact held e rfl
  | watched platform e e' calls quiet looked =>
    intro _ same
    cases same
    rw [quiet.control]
    exact held e rfl
  | exited platform e process status owned =>
    intro _ same
    cases same
    exact held e rfl
  | replaced registrations => exact absurd rfl (live registrations)
  | dropped => simp

theorem held_reconcile (registrations : List ServiceRegistration) (r : ServiceRegistry P)
    (held : Held serviceId r)
    (keeps : (RegistryOp.reconcile registrations : RegistryOp P E Q).KeepsRegistration
      serviceId r) :
    ∀e∈((RegistryOp.reconcile registrations : RegistryOp P E Q).step r).services[serviceId]?,
      e.control.policy.operatorHold=.stopped := by
  rcases keeps registrations rfl with refuses|same
  · obtain ⟨error,run⟩ := run_of_refuses registrations r refuses
    rw [step,apply,run]
    exact held.hold
  · rw [step,apply]
    rcases reconcileRegistrations_cases r registrations with
      ⟨error,run⟩|⟨desired,outcome,after,collected,run,h⟩
    · rw [run]
      exact held.hold
    · rw [run,final_ok]
      intro e here
      rw [Option.mem_def,h.lookup,Option.map_eq_some_iff] at here
      obtain ⟨registration,wanted,rfl⟩ := here
      obtain ⟨mem,named⟩ := (collect_ok registrations desired collected _ _).mp wanted
      obtain ⟨e,here,rfl⟩ := same registration mem named
      simpa [here,retained] using held.hold e here

theorem held_step (op : RegistryOp P E Q) (r : ServiceRegistry P) (held : Held serviceId r)
    (still : ¬op.Resumes serviceId (·.isUser=true) r) (keeps : op.KeepsRegistration serviceId r) :
    Held serviceId (op.step r) := by
  refine ⟨sound_step op r held.sound,?_⟩
  cases op with
  | reconcile registrations => exact held_reconcile serviceId registrations r held keeps
  | _ =>
    refine (turn _ r held.sound serviceId).hold held.hold ?_ (by simp)
    intro platform action actor reason e request here accepts user
    by_contra launch
    exact still ⟨platform,action,actor,reason,e,request,launch,user,here,accepts⟩

theorem held_stop (r : ServiceRegistry P) (sound : r.Sound) (platform : Platform P E Q)
    (actor : Actor) (user : actor.isUser=true) (reason : Reason) :
    Held serviceId ((RegistryOp.request platform .stop serviceId actor reason).step r) := by
  refine ⟨sound_step _ r sound,?_⟩
  intro e here
  rw [lookup_request,if_pos rfl] at here
  obtain ⟨before,found,rfl⟩ := Option.map_eq_some_iff.mp here
  rw [(request_effect platform actor reason before .stop
    (sound.consistent serviceId before found)).control trivial]
  exact before.control.policy.applyUserAction_user actor .stop user

/-- After a user's stop, whatever follows, every start and restart of the service by anyone else is
rejected and does nothing, as long as no user's start or restart of it is accepted and no
reconciliation puts a fresh entry in its place. -/
theorem hold_kept (r : ServiceRegistry P) (reachable : Reachable E Q r) (platform : Platform P E Q)
    (actor : Actor) (user : actor.isUser=true) (reason : Reason) (later : List (RegistryOp P E Q))
    (still : Run.Along step (fun r op => ¬op.Resumes serviceId (·.isUser=true) r) later
      ((RegistryOp.request platform .stop serviceId actor reason).step r))
    (keeps : Run.Along step (fun r op => op.KeepsRegistration serviceId r) later
      ((RegistryOp.request platform .stop serviceId actor reason).step r)) :
    Run.Along step (fun r op => op.HoldRespected serviceId r) later
      ((RegistryOp.request platform .stop serviceId actor reason).step r) := by
  have kept : Run.Keeps step (fun r (op : RegistryOp P E Q) =>
      ¬op.Resumes serviceId (·.isUser=true) r ∧ op.KeepsRegistration serviceId r)
      (Held serviceId) :=
    fun r op held ok => held_step serviceId op r held ok.1 ok.2
  exact kept.along (fun r op held _ => held_respected serviceId op r held)
    (held_stop serviceId r reachable.sound platform actor user reason) (still.and keeps)

theorem hold_kept_through_restart :
    Run.Along step (fun r op => op.HoldRespected "fixture" r)
      [.request fixturePlatform .restart "fixture" .codex fixtureReason]
      ((RegistryOp.request fixturePlatform .stop "fixture" .userCli fixtureReason).step
        (fixtureRegistry [fixture "fixture" "Fixture"])) := by
  refine hold_kept "fixture" _ (.new [fixture "fixture" "Fixture"] _ _ rfl) fixturePlatform
    .userCli rfl fixtureReason _ ⟨?_,trivial⟩ ⟨?_,trivial⟩
  · intro h
    obtain ⟨platform,action,actor,reason,e,request,-,user,-⟩ := h
    cases request
    cases user
  · intro registrations request
    cases request

/-- A changed label is enough for an agent to start what a user has stopped. -/
theorem hold_forgotten :
    ¬∀(serviceId : String) (r : ServiceRegistry Nat) (platform : Platform Nat Unit Unit)
      (actor : Actor) (reason : Reason) (later : List (RegistryOp Nat Unit Unit)),
      Reachable Unit Unit r → actor.isUser=true →
      Run.Along step (fun r op => ¬op.Resumes serviceId (·.isUser=true) r) later
        ((RegistryOp.request platform .stop serviceId actor reason).step r) →
      Run.Along step (fun r op => op.HoldRespected serviceId r) later
        ((RegistryOp.request platform .stop serviceId actor reason).step r) := by
  intro claim
  have respected := claim "fixture" (fixtureRegistry [fixture "fixture" "Fixture"])
    fixturePlatform .userCli fixtureReason
    [.reconcile [fixture "fixture" "Changed fixture"],
      .request fixturePlatform .start "fixture" .codex fixtureReason]
    (.new [fixture "fixture" "Fixture"] _ _ rfl) rfl ⟨?_,?_,trivial⟩
  · have unchanged := (respected.2.1 fixturePlatform .start .codex fixtureReason rfl (by decide)
      rfl).2
    have calls := congrArg (fun s => s.calls.length) unchanged
    revert calls
    decide +kernel
  · intro h
    obtain ⟨platform,action,actor,reason,e,request,-⟩ := h
    cases request
  · intro h
    obtain ⟨platform,action,actor,reason,e,request,-,user,-⟩ := h
    cases request
    cases user

end Hold

section Recorded

/-- The hold and the desired state that a user's request stands for. -/
def IntentRecorded (action : LifecycleAction) (e : ServiceEntry P) : Prop :=
  if action=.stop then
    e.control.policy.operatorHold=.stopped ∧ e.supervision.desiredState=.stopped
  else e.control.policy.operatorHold≠.stopped ∧ e.supervision.desiredState=.running

/-- If the request returns `Ok`, the entry it leaves carries the intent. -/
def RecordsIntent (platform : Platform P E Q) (action : LifecycleAction) (actor : Actor)
    (reason : Reason) (r : ServiceRegistry P) : Prop :=
  ∀t,(withEntry serviceId (ServiceEntry.request platform action actor reason)).run
      (⟨r,[]⟩ : RegistrySys P E)=.ok () t →
    ∃e,t.registry.services[serviceId]?=some e ∧ IntentRecorded action e

/-- The request finds an owner and an intent that is not its own. -/
def FindsOppositeIntent (action : LifecycleAction) (e : ServiceEntry P) : Prop :=
  action=.start ∧ e.runtime.process.isSome=true ∧
    (e.control.policy.operatorHold=.stopped ∨ e.supervision.desiredState=.stopped)

theorem user_admits (e : ServiceEntry P) (actor : Actor) (action : LifecycleAction)
    (user : actor.isUser=true) : e.Admits actor action :=
  ⟨ControlPolicy.authorize_user _ _ _ user,fun held =>
    Actor.ne_recovery_of_isUser actor user held.2.1⟩

theorem intentRecorded_of_accepts (platform : Platform P E Q) (action : LifecycleAction)
    (actor : Actor) (reason : Reason) (e e' : ServiceEntry P) (calls : List (TreeCall P E))
    (user : actor.isUser=true) (effect : Effect platform action actor reason e e' calls)
    (accepts : e.Accepts platform actor action) : IntentRecorded action e' := by
  unfold IntentRecorded
  rw [effect.control accepts,effect.desiredState accepts]
  simp only [ControlPolicy.applyUserAction_user _ _ _ user]
  cases action <;> simp

/-- A user's start that finds an owner answers `AlreadyRunning` and changes nothing. -/
theorem request_alreadyRunning (platform : Platform P E Q) (actor : Actor) (reason : Reason)
    (e : ServiceEntry P) (rest : ServiceRuntime.Consistent e.runtime) (user : actor.isUser=true)
    (owner : e.runtime.process.isSome=true) :
    (ServiceEntry.request platform .start actor reason).run (⟨e,[]⟩ : EntrySys P E)=
      .ok () ⟨e,[]⟩ := by
  have cases := start_cases platform actor reason e rest
  rw [ServiceEntry.request,run_map]
  generalize (ServiceEntry.start platform actor reason).run ⟨e,[]⟩=result at cases ⊢
  cases cases with
  | denied error denied => exact absurd (user_admits e actor .start user) denied
  | alreadyRunning => rfl
  | unprepared error admits vacant => simp [vacant] at owner
  | launched result admits vacant => simp [vacant] at owner

theorem recordsIntent_entry (platform : Platform P E Q) (action : LifecycleAction)
    (actor : Actor) (reason : Reason) (r : ServiceRegistry P) (e : ServiceEntry P)
    (here : r.services[serviceId]?=some e) :
    RecordsIntent serviceId platform action actor reason r ↔
      ∀t : EntrySys P E,(ServiceEntry.request platform action actor reason).run ⟨e,[]⟩=.ok () t →
        IntentRecorded action t.entry := by
  unfold RecordsIntent
  rw [run_withEntry]
  simp only [here]
  constructor
  · intro records t ran
    rw [ran] at records
    simpa using records _ rfl
  · intro records t ran
    cases result : (ServiceEntry.request platform action actor reason).run ⟨e,[]⟩ with
    | error error u => simp [result] at ran
    | ok a u =>
      simp only [result,EStateM.Result.ok.injEq,true_and] at ran
      subst ran
      exact ⟨u.entry,by simp,records u result⟩

/-- A user's request that returns `Ok` leaves its intent recorded, except for exactly one kind of
request: a start of a service that still has an owner, held or meant to be stopped. -/
theorem recordsIntent_iff (r : ServiceRegistry P) (reachable : Reachable E Q r)
    (platform : Platform P E Q) (action : LifecycleAction) (actor : Actor)
    (user : actor.isUser=true) (reason : Reason) :
    RecordsIntent serviceId platform action actor reason r ↔
      ∀e,r.services[serviceId]?=some e → ¬FindsOppositeIntent action e := by
  cases here : r.services[serviceId]? with
  | none =>
    refine iff_of_true ?_ (by simp)
    intro t ran
    rw [run_withEntry] at ran
    simp [here] at ran
  | some e =>
    have rest := reachable.sound.consistent serviceId e here
    rw [recordsIntent_entry serviceId platform action actor reason r e here]
    simp only [Option.some.injEq,forall_eq']
    by_cases owned : action=.start ∧ e.runtime.process.isSome=true
    · obtain ⟨rfl,owner⟩ := owned
      rw [request_alreadyRunning platform actor reason e rest user owner]
      simp [FindsOppositeIntent,IntentRecorded,owner]
    · refine iff_of_true ?_ fun opposite => owned ⟨opposite.1,opposite.2.1⟩
      intro t ran
      have effect := request_effect platform actor reason e action rest
      rw [ran] at effect
      exact intentRecorded_of_accepts platform action actor reason e _ _ user effect
        (accepts_of_ok platform actor reason e action rest t ran owned)

theorem recordsIntent_start :
    RecordsIntent "fixture" fixturePlatform .start .userUi fixtureReason
        (fixtureRegistry [fixture "fixture" "Fixture"]) ↔
      ∀e,(fixtureRegistry [fixture "fixture" "Fixture"]).services["fixture"]?=some e →
        ¬FindsOppositeIntent .start e :=
  recordsIntent_iff "fixture" _ (.new [fixture "fixture" "Fixture"] _ _ rfl) fixturePlatform
    .start .userUi rfl fixtureReason

/-- While a stopped tree is still terminating, a user's start answers `AlreadyRunning` and leaves
the user's own hold in place. -/
theorem intent_lost :
    ¬∀(serviceId : String) (r : ServiceRegistry Nat) (platform : Platform Nat Unit Unit)
      (action : LifecycleAction) (actor : Actor) (reason : Reason),
      Reachable Unit Unit r → actor.isUser=true →
      RecordsIntent serviceId platform action actor reason r := by
  intro claim
  let pending : Platform Nat Unit Unit :=
    { fixturePlatform with stop := fun process _ => .ok ⟨[process],[process],true,none,true⟩ }
  let r := Run.final step
    [.request fixturePlatform .start "fixture" .userCli fixtureReason,
      .request pending .stop "fixture" .userCli fixtureReason]
    (fixtureRegistry [fixture "fixture" "Fixture"])
  have reachable : Reachable Unit Unit r :=
    .step _ _ (.step _ _ (.new [fixture "fixture" "Fixture"] _ _ rfl))
  have returns : (failure ((withEntry "fixture" (ServiceEntry.request fixturePlatform .start
      .userCli fixtureReason)).run (⟨r,[]⟩ : RegistrySys Nat Unit))).isNone=true := by
    decide +kernel
  have held : (final ((withEntry "fixture" (ServiceEntry.request fixturePlatform .start .userCli
      fixtureReason)).run (⟨r,[]⟩ : RegistrySys Nat Unit))).registry.services["fixture"]?.map
        (·.control.policy.operatorHold)=some .stopped := by
    decide +kernel
  cases ran : (withEntry "fixture" (ServiceEntry.request fixturePlatform .start .userCli
      fixtureReason)).run (⟨r,[]⟩ : RegistrySys Nat Unit) with
  | error error t => simp [ran] at returns
  | ok a t =>
    obtain ⟨e,here,intent⟩ := claim "fixture" r fixturePlatform .start .userCli fixtureReason
      reachable rfl t ran
    rw [ran,final_ok,here] at held
    exact intent.1 (Option.some.inj held)

end Recorded

end RegistryOp

end AkuSupervisor
