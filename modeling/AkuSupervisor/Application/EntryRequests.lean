import AkuSupervisor.Application.EntrySteps

namespace AkuSupervisor

namespace ServiceEntry

open ServiceRuntime StateError

variable {P E Q α : Type}

/-- Whether a request passes the operator hold, agent policy and recovery checks. -/
def Admits (e : ServiceEntry P) (actor : Actor) (action : LifecycleAction) : Prop :=
  e.control.policy.authorize actor action=.ok () ∧
    ¬(action≠.stop ∧ actor=.recovery ∧ e.supervision.desiredState=.stopped)
  deriving Decidable

/-- What an admitted request records before it touches the runtime. -/
def accepted (actor : Actor) (action : LifecycleAction) (reason : Reason) (e : ServiceEntry P) :
    ServiceEntry P :=
  let recorded := recordAction action actor reason e
  match action with
  | .start | .restart => requestRunning actor recorded
  | .stop => requestStopped recorded

@[simp] theorem recordAction_registration (action : LifecycleAction) (actor : Actor)
    (reason : Reason) (e : ServiceEntry P) :
    (recordAction action actor reason e).registration=e.registration := rfl

@[simp] theorem requestRunning_registration (actor : Actor) (e : ServiceEntry P) :
    (requestRunning actor e).registration=e.registration := rfl

@[simp] theorem accepted_registration (actor : Actor) (action : LifecycleAction)
    (reason : Reason) (e : ServiceEntry P) :
    (e.accepted actor action reason).registration=e.registration := by
  cases action <;> rfl

@[simp] theorem accepted_control (actor : Actor) (action : LifecycleAction)
    (reason : Reason) (e : ServiceEntry P) :
    (e.accepted actor action reason).control=
      ⟨e.control.policy.applyUserAction actor action,some ⟨action,actor,reason⟩⟩ := by
  cases action <;> rfl

section Requests

variable (platform : Platform P E Q) (actor : Actor) (reason : Reason) (e : ServiceEntry P)

/-- What `start` does to an entry at rest. -/
inductive Started : EStateM.Result (RegistryError E Q) (EntrySys P E) StartOutcome → Prop
  | denied (error : AuthorizationError) (denied : ¬e.Admits actor .start) :
      Started (.error (.unauthorized error) ⟨e,[]⟩)
  | alreadyRunning (process : P) (admits : e.Admits actor .start)
      (owner : e.runtime.process=some process) : Started (.ok .alreadyRunning ⟨e,[]⟩)
  | unprepared (error : E) (admits : e.Admits actor .start) (vacant : e.runtime.process=none)
      (answer : platform.preflightLaunch e.registration.id e.registration.launch=.error error) :
      Started (.error (.runtime (.start (.process error))) ⟨e,[]⟩)
  | launched (result : EStateM.Result (RegistryError E Q) (EntrySys P E) StartOutcome)
      (admits : e.Admits actor .start) (vacant : e.runtime.process=none)
      (prepared : platform.preflightLaunch e.registration.id e.registration.launch=.ok ())
      (launch : Launch platform .start (e.accepted actor .start reason) [] .started result) :
      Started result

/-- What `stop` does to an entry at rest. -/
inductive Stopped : EStateM.Result (RegistryError E Q) (EntrySys P E) ServiceStopResult → Prop
  | idle (idle : Idle e.runtime) :
      Stopped (.ok ⟨if e.runtime.lifecycle=.failed then .stopped else .alreadyStopped,none⟩
        ⟨{ e.accepted actor .stop reason with
          runtime := ⟨.stopped,none⟩
          health := if e.runtime.lifecycle=.failed then .unknown else e.health },[]⟩)
  | complete (process : P) (report : TreeStopReport) (owned : Owned process e.runtime)
      (answer : platform.stop process e.registration.shutdownGrace=.ok report)
      (complete : report.isComplete=true) :
      Stopped (.ok ⟨.stopped,some report⟩
        ⟨{ e.accepted actor .stop reason with
          runtime := ⟨.stopped,none⟩
          health := .unknown },[.stop process e.registration.shutdownGrace (.ok report)]⟩)
  | pending (process : P) (report : TreeStopReport) (owned : Owned process e.runtime)
      (answer : platform.stop process e.registration.shutdownGrace=.ok report)
      (pending : report.isComplete=false) :
      Stopped (.ok ⟨.terminationPending,some report⟩
        ⟨{ e.accepted actor .stop reason with
          runtime := ⟨.terminationPending,some process⟩
          health := .unknown
          supervision := { e.supervision.requestStopped with
            lastOwnedPids := report.ownedPidsBefore } },
          [.stop process e.registration.shutdownGrace (.ok report)]⟩)
  | failed (process : P) (error : E) (owned : Owned process e.runtime)
      (answer : platform.stop process e.registration.shutdownGrace=.error error) :
      Stopped (.error (.runtime (.stop (.process error)))
        ⟨{ e.accepted actor .stop reason with runtime := ⟨.failed,some process⟩ },
          [.stop process e.registration.shutdownGrace (.error error)]⟩)

/-- What `restart` does to an entry at rest. -/
inductive Restarted :
    EStateM.Result (RegistryError E Q) (EntrySys P E) ServiceRestartResult → Prop
  | denied (error : AuthorizationError) (denied : ¬e.Admits actor .restart) :
      Restarted (.error (.unauthorized error) ⟨e,[]⟩)
  | unprepared (error : E) (admits : e.Admits actor .restart)
      (answer : platform.preflightLaunch e.registration.id e.registration.launch=.error error) :
      Restarted (.error (.runtime (.start (.process error))) ⟨e,[]⟩)
  | launched (result : EStateM.Result (RegistryError E Q) (EntrySys P E) ServiceRestartResult)
      (admits : e.Admits actor .restart) (idle : Idle e.runtime)
      (prepared : platform.preflightLaunch e.registration.id e.registration.launch=.ok ())
      (launch : Launch platform .restart (e.accepted actor .restart reason) []
        ⟨.started,none⟩ result) : Restarted result
  | replaced (result : EStateM.Result (RegistryError E Q) (EntrySys P E) ServiceRestartResult)
      (process : P) (report : TreeStopReport) (admits : e.Admits actor .restart)
      (owned : Owned process e.runtime)
      (prepared : platform.preflightLaunch e.registration.id e.registration.launch=.ok ())
      (answer : platform.stop process e.registration.shutdownGrace=.ok report)
      (complete : report.isComplete=true)
      (launch : Launch platform .restart (e.accepted actor .restart reason)
        [.stop process e.registration.shutdownGrace (.ok report)]
        ⟨.restarted,some report⟩ result) : Restarted result
  | pending (process : P) (report : TreeStopReport) (admits : e.Admits actor .restart)
      (owned : Owned process e.runtime)
      (prepared : platform.preflightLaunch e.registration.id e.registration.launch=.ok ())
      (answer : platform.stop process e.registration.shutdownGrace=.ok report)
      (pending : report.isComplete=false) :
      Restarted (.ok ⟨.terminationPending,some report⟩
        ⟨{ e.accepted actor .restart reason with
          runtime := ⟨.terminationPending,some process⟩
          health := .unknown
          supervision := { (e.supervision.requestRunning actor).deferRestartAfterTermination with
            lastOwnedPids := report.ownedPidsBefore } },
          [.stop process e.registration.shutdownGrace (.ok report)]⟩)
  | failed (process : P) (error : E) (admits : e.Admits actor .restart)
      (owned : Owned process e.runtime)
      (prepared : platform.preflightLaunch e.registration.id e.registration.launch=.ok ())
      (answer : platform.stop process e.registration.shutdownGrace=.error error) :
      Restarted (.error (.runtime (.stop (.process error)))
        ⟨{ e.accepted actor .restart reason with runtime := ⟨.failed,some process⟩ },
          [.stop process e.registration.shutdownGrace (.error error)]⟩)

theorem run_authorize (action : LifecycleAction) (s : EntrySys P E) :
    EStateM.run (authorize actor action : EntryM P E Q _) s=
      match s.entry.control.policy.authorize actor action with
      | .ok () => .ok () s
      | .error error => .error (.unauthorized error) s := by
  simp only [authorize,EStateM.run_bind,run_get]
  cases s.entry.control.policy.authorize actor action <;> rfl

theorem run_preflightEntry (s : EntrySys P E) :
    (preflightEntry platform).run s=
      match platform.preflightLaunch s.entry.registration.id s.entry.registration.launch with
      | .ok () => .ok () s
      | .error error => .error (.runtime (.start (.process error))) s := by
  simp only [preflightEntry,EStateM.run_bind,run_get]
  cases platform.preflightLaunch s.entry.registration.id s.entry.registration.launch <;> rfl

/-- The two checks in front of every start and restart change nothing. -/
theorem run_admission (action : LifecycleAction) (launch : action≠.stop)
    (next : EntryM P E Q α) (s : EntrySys P E) :
    (s.entry.Admits actor action ∧
      EStateM.run (do authorize actor action; authorizeRecovery actor; next) s=next.run s) ∨
    ∃error,¬s.entry.Admits actor action ∧
      EStateM.run (do authorize actor action; authorizeRecovery actor; next) s=
        .error (.unauthorized error) s := by
  simp only [EStateM.run_bind,run_authorize]
  cases permitted : s.entry.control.policy.authorize actor action with
  | error error => exact .inr ⟨error,fun admits => by simp [admits.1] at permitted,rfl⟩
  | ok =>
    simp only [authorizeRecovery,EStateM.run_bind,run_get,run_ite]
    by_cases revived : actor=.recovery ∧ s.entry.supervision.desiredState=.stopped
    · rw [if_pos revived]
      exact .inr ⟨.recoveryDesiredStateStopped,fun admits => admits.2 ⟨launch,revived⟩,rfl⟩
    · rw [if_neg revived]
      exact .inl ⟨⟨permitted,fun held => revived held.2⟩,rfl⟩

/-- The checks in front of a start or restart that a request can fail, and what it then answers. A
start checks the launch of a service without a process only. -/
inductive Fails (action : LifecycleAction) : RegistryError E Q → Prop
  | held (error : AuthorizationError)
      (refused : e.control.policy.authorize actor action=.error error) :
      Fails action (.unauthorized error)
  | recovery (permitted : e.control.policy.authorize actor action=.ok ())
      (revives : actor=.recovery ∧ e.supervision.desiredState=.stopped) :
      Fails action (.unauthorized .recoveryDesiredStateStopped)
  | preflight (error : E) (admits : e.Admits actor action)
      (vacant : action=.start → e.runtime.process=none)
      (answer : platform.preflightLaunch e.registration.id e.registration.launch=.error error) :
      Fails action (.runtime (.start (.process error)))

/-- A request that fails the first two checks ends before anything after them. -/
theorem run_denied (action : LifecycleAction) (next : EntryM P E Q α) (error : AuthorizationError)
    (denied : e.control.policy.authorize actor action=.error error ∨
      e.control.policy.authorize actor action=.ok () ∧
        (actor=.recovery ∧ e.supervision.desiredState=.stopped) ∧
        error=.recoveryDesiredStateStopped) :
    EStateM.run (do authorize actor action; authorizeRecovery actor; next) ⟨e,[]⟩=
      .error (.unauthorized error) ⟨e,[]⟩ := by
  simp only [EStateM.run_bind,run_authorize]
  rcases denied with refused|⟨permitted,revives,rfl⟩
  · rw [refused]
  · rw [permitted]
    simp only [authorizeRecovery,EStateM.run_bind,run_get,if_pos revives]
    rfl

theorem start_fails (error : RegistryError E Q) (fails : Fails platform actor e .start error) :
    (start platform actor reason).run ⟨e,[]⟩=.error error ⟨e,[]⟩ := by
  unfold start
  cases fails with
  | held error refused => exact run_denied actor e .start _ error (.inl refused)
  | recovery permitted revives =>
    exact run_denied actor e .start _ _ (.inr ⟨permitted,revives,rfl⟩)
  | preflight error admits vacant answer =>
    rcases run_admission actor .start (by decide) _ ⟨e,[]⟩ with ⟨-,run⟩|⟨-,denied,-⟩
    · rw [run]
      simp only [EStateM.run_bind,run_get,run_ite,EStateM.run_pure]
      rw [if_neg (by simp [hasProcess,vacant rfl]),run_preflightEntry,answer]
    · exact absurd admits denied

theorem restart_fails (error : RegistryError E Q)
    (fails : Fails platform actor e .restart error) :
    (restart platform actor reason).run ⟨e,[]⟩=.error error ⟨e,[]⟩ := by
  unfold restart
  cases fails with
  | held error refused => exact run_denied actor e .restart _ error (.inl refused)
  | recovery permitted revives =>
    exact run_denied actor e .restart _ _ (.inr ⟨permitted,revives,rfl⟩)
  | preflight error admits vacant answer =>
    rcases run_admission actor .restart (by decide) _ ⟨e,[]⟩ with ⟨-,run⟩|⟨-,denied,-⟩
    · rw [run,EStateM.run_bind,run_preflightEntry,answer]
    · exact absurd admits denied

theorem start_cases (rest : Consistent e.runtime) :
    Started platform actor reason e ((start platform actor reason).run ⟨e,[]⟩) := by
  unfold start
  rcases run_admission actor .start (by decide) _ ⟨e,[]⟩ with ⟨admits,run⟩|⟨error,denied,run⟩
  · rw [run]
    simp only [EStateM.run_bind,run_get,run_ite,EStateM.run_pure]
    rcases rest with idle|⟨process,owned⟩
    · rw [if_neg (by simp [hasProcess,idle.1]),run_preflightEntry]
      cases prepared : platform.preflightLaunch e.registration.id e.registration.launch with
      | error error => exact .unprepared error admits idle.1 prepared
      | ok =>
        refine .launched _ admits idle.1 prepared ?_
        exact bind_launched platform .start (e.accepted actor .start reason) [] []
          StartOutcome.started StartOutcome.started _ _ (startWith_idle _ _ idle) rfl
    · rw [if_pos (by simp [hasProcess,owned.1])]
      exact .alreadyRunning process admits owned.1
  · rw [run]
    exact .denied error denied

theorem stop_cases (rest : Consistent e.runtime) :
    Stopped platform actor reason e ((stop platform actor reason).run ⟨e,[]⟩) := by
  simp only [stop,EStateM.run_bind,run_authorize,ControlPolicy.authorize_stop,run_update,run_get,
    run_withRuntime,run_ite]
  rcases rest with idle|⟨process,owned⟩
  · rw [stopWith_idle _ ⟨(requestStopped (recordAction .stop actor reason e)).runtime,[]⟩ idle]
    have outcome : Stopped platform actor reason e _ := .idle idle
    rcases idle.2 with down|down <;>
      simpa [down,shutdownReport,idle.1,forgetHealth,accepted,requestStopped,recordAction]
        using outcome
  · rw [stopWith_owned _ ⟨(requestStopped (recordAction .stop actor reason e)).runtime,[]⟩
      process owned]
    cases answer : platform.stop process e.registration.shutdownGrace with
    | error error =>
      have outcome : Stopped platform actor reason e _ := .failed process error owned answer
      simpa [halt,halted,answer,Except.mapError,Except.map,accepted,requestStopped,recordAction]
        using outcome
    | ok report =>
      cases done : report.isComplete with
      | true =>
        have outcome : Stopped platform actor reason e _ :=
          .complete process report owned answer done
        simpa [halt,halted,answer,Except.mapError,Except.map,done,shutdownReport,owned.1,
          Except.toOption,forgetHealth,accepted,requestStopped,recordAction] using outcome
      | false =>
        have outcome : Stopped platform actor reason e _ :=
          .pending process report owned answer done
        simpa [halt,halted,answer,Except.mapError,Except.map,done,shutdownReport,owned.1,
          Except.toOption,forgetHealth,keepPids,accepted,requestStopped,recordAction] using outcome

theorem run_restartWith (process : P) (owned : Owned process e.runtime) :
    (restartWith (halt platform e.registration.shutdownGrace) (launch platform e)).run
      ⟨e.runtime,[]⟩=
      match platform.stop process e.registration.shutdownGrace with
      | .error error =>
        .error (.stop (.process error)) ⟨⟨.failed,some process⟩,
          [.stop process e.registration.shutdownGrace (.error error)]⟩
      | .ok report =>
        if report.isComplete then
          launched .restarted (launch platform e
            [.stop process e.registration.shutdownGrace (.ok report)])
        else
          .ok .terminationPending ⟨⟨.terminationPending,some process⟩,
            [.stop process e.registration.shutdownGrace (.ok report)]⟩ := by
  rw [restartWith_owned _ _ ⟨e.runtime,[]⟩ process owned]
  cases answer : platform.stop process e.registration.shutdownGrace with
  | error error => simp [halt,answer,Except.mapError,Except.map]
  | ok report =>
    cases done : report.isComplete <;> simp [halt,answer,Except.mapError,Except.map,done]

theorem restart_cases (rest : Consistent e.runtime) :
    Restarted platform actor reason e ((restart platform actor reason).run ⟨e,[]⟩) := by
  unfold restart
  rcases run_admission actor .restart (by decide) _ ⟨e,[]⟩ with ⟨admits,run⟩|⟨error,denied,run⟩
  · rw [run,EStateM.run_bind,run_preflightEntry]
    clear run
    cases prepared : platform.preflightLaunch e.registration.id e.registration.launch with
    | error error => exact .unprepared error admits prepared
    | ok =>
      simp only [EStateM.run_bind,run_get,run_update]
      rcases rest with idle|⟨process,owned⟩
      · refine .launched _ admits idle prepared ?_
        have absent : shutdownReport platform (e.accepted actor .restart reason)=none := by
          simp [shutdownReport,accepted,requestRunning,recordAction,idle.1]
        rw [← absent]
        exact bind_launched platform .restart (e.accepted actor .restart reason) [] []
          RestartOutcome.started _ _ _ (restartWith_idle _ _ _ idle) rfl
      · have replaced := run_restartWith platform
          (requestRunning actor (recordAction .restart actor reason e)) process owned
        simp only [requestRunning_registration,recordAction_registration] at replaced ⊢
        cases answer : platform.stop process e.registration.shutdownGrace with
        | error error =>
          rw [answer] at replaced
          simp only [run_withRuntime,replaced]
          exact .failed process error admits owned prepared answer
        | ok report =>
          rw [answer] at replaced
          have evidence : shutdownReport platform
              (requestRunning actor (recordAction .restart actor reason e))=some report := by
            simp [shutdownReport,requestRunning,recordAction,owned.1,answer,Except.toOption]
          cases done : report.isComplete with
          | true =>
            simp only [done,if_true] at replaced
            refine .replaced _ process report admits owned prepared answer done ?_
            rw [← evidence]
            exact bind_launched platform .restart (e.accepted actor .restart reason) [] _
              RestartOutcome.restarted _ _ _ replaced rfl
          | false =>
            simp only [done,Bool.false_eq_true,if_false] at replaced
            simp only [run_withRuntime,replaced,if_true,EStateM.run_bind,run_update,
              EStateM.run_pure,evidence]
            exact .pending process report admits owned prepared answer done
  · rw [run]
    exact .denied error denied

end Requests

end ServiceEntry

end AkuSupervisor
