import AkuSupervisor.Application.ControlApi
import AkuSupervisor.Adapters.FileJournal

namespace AkuSupervisor

open StateError

/-- An audited control: the control it decorates, and what the file system and the clock answer to
each append to its journal. -/
structure AuditedControl (σ : Type) where
  inner : SupervisorControl σ
  supervisorInstanceId : String
  appends : Nat → AppendAnswer
  unixMilliseconds : Nat → Nat

/-- What an audited control works on: the state of the inner control, its journal, how many
appends it has made, and the fingerprint that it attaches to records. -/
structure AuditedState (σ : Type) where
  inner : σ
  journal : JournalSys
  appended : Nat
  configFingerprint : String

/-- What a record says of where and when it was made. -/
structure RecordStamp where
  timestamp : String
  supervisorInstanceId : String
  configFingerprint : String

abbrev AuditedM (σ : Type) := EStateM ControlError (AuditedState σ)

def lifecycleAction : ControlAction → JournalAction
  | .start => .start
  | .stop => .stop
  | .restart => .restart

/-- The category under which a failed mutation is recorded. -/
def errorCategory : ControlErrorKind → ErrorCategory
  | .unauthorized => .unauthorized
  | .portConflictExternal => .portConflictExternal
  | .spawnFailed => .spawnFailed
  | .healthFailed => .healthFailed
  | .shutdownTimeout => .shutdownTimeout
  | .ownershipLost => .ownershipLost
  | .serviceNotFound | .internal => .supervisorInternalError

/-- The result and the category of a mutation's record. -/
def auditOutcome (outcome : Except ControlError ControlMutationResult) :
    JournalResult × Option ErrorCategory :=
  match outcome with
  | .ok result =>
    match result.outcome with
    | .alreadyRunning => (.success,some .alreadyRunning)
    | .alreadyStopped => (.success,some .alreadyStopped)
    | _ => (.success,none)
  | .error error => (.failure,some (errorCategory error.kind))

namespace AuditedControl

variable {σ α : Type}

/-- An operation of the inner control. -/
def onInner (x : EStateM ControlError σ α) : AuditedM σ α := fun s =>
  match x.run s.inner with
  | .ok a inner => .ok a { s with inner }
  | .error error inner => .error error { s with inner }

/-- The service's own snapshot among all of them. -/
def pick (serviceId : String) (services : List ServiceSnapshot) : Option ServiceSnapshot :=
  services.find? (·.id=serviceId)

/-- Durably appends a record; `context` says for what. -/
def append (control : AuditedControl σ) (context : String) (record : JournalRecord) :
    AuditedM σ JournalRecord := fun s =>
  match (FileJournal.append (control.appends s.appended) record).run s.journal with
  | .ok record journal => .ok record { s with journal, appended := s.appended+1 }
  | .error error journal =>
    .error (.internal s!"{context}: {error.display}") { s with journal, appended := s.appended+1 }

def stamp (control : AuditedControl σ) (s : AuditedState σ) : RecordStamp :=
  ⟨s!"unix-ms:{control.unixMilliseconds s.appended}",control.supervisorInstanceId,
    s.configFingerprint⟩

/-- The lifecycle that a look at a service has found. -/
def seenLifecycle (seen : Option ServiceSnapshot) : LifecycleState := seen.elim .stopped (·.lifecycle)

/-- The record of a mutation between two looks at its service. -/
def mutationRecord (stamp : RecordStamp) (action : ControlAction) (serviceId : String)
    (actor : Actor) (reason : Reason) (before after : Option ServiceSnapshot)
    (outcome : Except ControlError ControlMutationResult) : JournalRecord where
  sequence := 0
  timestamp := stamp.timestamp
  supervisorInstanceId := stamp.supervisorInstanceId
  serviceId
  action := lifecycleAction action
  actor
  reason
  previousState := seenLifecycle before
  resultingState := seenLifecycle (after.or before)
  ownedPidsBefore := before.elim [] (·.ownedPids)
  ownedPidsAfter := after.elim [] (·.ownedPids)
  result := (auditOutcome outcome).1
  errorCategory := (auditOutcome outcome).2
  errorDetail := match outcome with
    | .ok _ => none
    | .error error => some (boundedErrorDetail error.message)
  exitCode := none
  automaticRestartPlanned := none
  deferredRestartPlanned := none
  shutdown := outcome.toOption.bind (·.shutdown)
  configFingerprint := stamp.configFingerprint

/-- The look at a service in front of its mutation fails if any service cannot be observed. -/
def lookBefore (control : AuditedControl σ) (serviceId : String) :
    AuditedM σ (Option ServiceSnapshot) :=
  pick serviceId <$> onInner control.inner.snapshots

/-- The look behind it finds nothing then. -/
def lookAfter (control : AuditedControl σ) (serviceId : String) :
    AuditedM σ (Option ServiceSnapshot) := do
  let services ← attempt (onInner control.inner.snapshots)
  return services.toOption.bind (pick serviceId)

/-- Appends the record of a mutation. -/
def recordMutation (control : AuditedControl σ) (action : ControlAction) (serviceId : String)
    (actor : Actor) (reason : Reason) (before after : Option ServiceSnapshot)
    (outcome : Except ControlError ControlMutationResult) : AuditedM σ JournalRecord := fun s =>
  append control "failed to persist lifecycle journal"
    (mutationRecord (control.stamp s) action serviceId actor reason before after outcome) s

def mutate (control : AuditedControl σ) (action : ControlAction) (serviceId : String)
    (actor : Actor) (reason : Reason) : AuditedM σ ControlMutationResult := do
  let before ← lookBefore control serviceId
  let outcome ← attempt (onInner (control.inner.mutate action serviceId actor reason))
  let after ← lookAfter control serviceId
  discard (recordMutation control action serviceId actor reason before after outcome)
  answered outcome

/-- The decorator as a control of its own. -/
def control (control : AuditedControl σ) : SupervisorControl (AuditedState σ) where
  snapshots := onInner control.inner.snapshots
  preflightLaunches := fun serviceIds => onInner (control.inner.preflightLaunches serviceIds)
  mutate := control.mutate

def exitText (exitCode : Option Int) : String :=
  match exitCode with
  | none => "without a numeric exit code"
  | some code => s!"with code {code}"

def recoveryText (event : ProcessExitEvent) : String :=
  if event.deferredRestartPlanned then "deferred restart planned after termination completes"
  else if event.automaticRestartPlanned then "automatic on-failure restart planned"
  else "no automatic restart planned"

/-- The record of an exit, with the reason already made. -/
def exitRecord (stamp : RecordStamp) (event : ProcessExitEvent) (reason : Reason) :
    JournalRecord :=
  let terminationCompleted := event.previousState=.terminationPending
  { sequence := 0
    timestamp := stamp.timestamp
    supervisorInstanceId := stamp.supervisorInstanceId
    serviceId := event.serviceId
    action := .processExit
    actor := .recovery
    reason
    previousState := event.previousState
    resultingState := if terminationCompleted then .stopped else .failed
    ownedPidsBefore := event.ownedPidsBefore
    ownedPidsAfter := []
    result := if terminationCompleted then .success else .failure
    errorCategory := if terminationCompleted then none else some .processExited
    errorDetail := if terminationCompleted then none else
      some (boundedErrorDetail s!"owned process tree exited {exitText event.exitCode}")
    exitCode := event.exitCode
    automaticRestartPlanned := some event.automaticRestartPlanned
    deferredRestartPlanned := some event.deferredRestartPlanned
    shutdown := none
    configFingerprint := stamp.configFingerprint }

def exitReason (event : ProcessExitEvent) : Except ReasonError Reason :=
  Reason.new s!"owned process tree exited {exitText event.exitCode}; {recoveryText event}"

/-- Persists one terminal process-tree observation. -/
def recordProcessExit (control : AuditedControl σ) (event : ProcessExitEvent) :
    AuditedM σ Unit := fun s =>
  match exitReason event with
  | .error error => .error (.internal s!"invalid process-exit reason: {error.display}") s
  | .ok reason =>
    (discard (append control "failed to persist process-exit journal"
      (exitRecord (control.stamp s) event reason))).run s

theorem run_onInner (x : EStateM ControlError σ α) (s : AuditedState σ) :
    (onInner x).run s=
      match x.run s.inner with
      | .ok a inner => .ok a { s with inner }
      | .error error inner => .error error { s with inner } := rfl

@[simp] theorem final_onInner (x : EStateM ControlError σ α) (s : AuditedState σ) :
    final ((onInner x).run s)={ s with inner := final (x.run s.inner) } := by
  rw [run_onInner]
  cases x.run s.inner <;> rfl

@[simp] theorem answer_onInner (x : EStateM ControlError σ α) (s : AuditedState σ) :
    answer ((onInner x).run s)=answer (x.run s.inner) := by
  rw [run_onInner]
  cases x.run s.inner <;> rfl

/-- Why the next append fails, if it does. The record has no part in it. -/
def persistFailure (control : AuditedControl σ) (context : String) (s : AuditedState σ) :
    Option ControlError :=
  ((control.appends s.appended).failure s.journal.journal.path).map fun error =>
    .internal s!"{context}: {error.display}"

variable (control : AuditedControl σ)

theorem answer_append (context : String) (record : JournalRecord) (s : AuditedState σ) :
    answer ((append control context record).run s)=
      match persistFailure control context s with
      | some error => .error error
      | none => .ok (s.journal.journal.numbered record) := by
  have answered := FileJournal.answer_append (control.appends s.appended) record s.journal
  unfold persistFailure EStateM.run append
  cases failed : (control.appends s.appended).failure s.journal.journal.path with
  | none =>
    rw [failed] at answered
    cases ran : (FileJournal.append (control.appends s.appended) record).run s.journal with
    | ok record t => rw [ran] at answered; cases answered; rfl
    | error error t => rw [ran] at answered; cases answered
  | some error =>
    rw [failed] at answered
    cases ran : (FileJournal.append (control.appends s.appended) record).run s.journal with
    | ok record t => rw [ran] at answered; cases answered
    | error error t => rw [ran] at answered; cases answered; rfl

theorem final_append (context : String) (record : JournalRecord) (s : AuditedState σ) :
    (final ((append control context record).run s)).inner=s.inner := by
  unfold EStateM.run append
  cases (FileJournal.append (control.appends s.appended) record).run s.journal <;> rfl

theorem run_lookAfter (serviceId : String) (s : AuditedState σ) :
    (lookAfter control serviceId).run s=
      .ok ((answer (control.inner.snapshots.run s.inner)).toOption.bind (pick serviceId))
        { s with inner := final (control.inner.snapshots.run s.inner) } := by
  simp only [lookAfter,EStateM.run_bind,run_attempt,final_onInner,answer_onInner,EStateM.run_pure]

section Mutate

variable (action : ControlAction) (serviceId : String) (actor : Actor) (reason : Reason)

theorem run_recordMutation (before after : Option ServiceSnapshot)
    (outcome : Except ControlError ControlMutationResult) (s : AuditedState σ) :
    answer ((recordMutation control action serviceId actor reason before after outcome).run s)=
      (match persistFailure control "failed to persist lifecycle journal" s with
        | some error => .error error
        | none => .ok (s.journal.journal.numbered
          (mutationRecord (control.stamp s) action serviceId actor reason before after outcome))) ∧
    (final ((recordMutation control action serviceId actor reason before after
      outcome).run s)).inner=s.inner := by
  have same : (recordMutation control action serviceId actor reason before after outcome).run s=
      (append control "failed to persist lifecycle journal"
        (mutationRecord (control.stamp s) action serviceId actor reason before after outcome)).run s := rfl
  rw [same,answer_append,final_append]
  exact ⟨rfl,rfl⟩

/-- When the first look fails, nothing else is done. -/
theorem run_mutate_unobserved (s : AuditedState σ) (error : ControlError) (t : σ)
    (unobserved : control.inner.snapshots.run s.inner=.error error t) :
    (control.mutate action serviceId actor reason).run s=.error error { s with inner := t } := by
  simp only [mutate,lookBefore,EStateM.run_bind,run_map,run_onInner,unobserved]

/-- When it succeeds, the mutation takes effect, and only a failed append hides its answer. -/
theorem run_mutate_observed (s : AuditedState σ) (services : List ServiceSnapshot) (t : σ)
    (observed : control.inner.snapshots.run s.inner=.ok services t) :
    answer ((control.mutate action serviceId actor reason).run s)=
      (match persistFailure control "failed to persist lifecycle journal" s with
        | some error => .error error
        | none => answer ((control.inner.mutate action serviceId actor reason).run t)) ∧
    (final ((control.mutate action serviceId actor reason).run s)).inner=
      final (control.inner.snapshots.run
        (final ((control.inner.mutate action serviceId actor reason).run t))) := by
  have mutated := run_attempt (φ := ControlError)
    (onInner (control.inner.mutate action serviceId actor reason)) { s with inner := t }
  rw [final_onInner,answer_onInner] at mutated
  unfold mutate
  simp only [lookBefore,EStateM.run_bind,run_map,run_onInner,observed,mutated,run_lookAfter,
    run_discard]
  generalize answer ((control.inner.mutate action serviceId actor reason).run t)=outcome
  generalize final (control.inner.snapshots.run
    (final ((control.inner.mutate action serviceId actor reason).run t)))=u
  generalize (answer (control.inner.snapshots.run
    (final ((control.inner.mutate action serviceId actor reason).run t)))).toOption.bind
      (pick serviceId)=after
  have recorded := run_recordMutation control action serviceId actor reason
    (pick serviceId services) after outcome { s with inner := u }
  have same : persistFailure control "failed to persist lifecycle journal"
      { s with inner := u }=persistFailure control "failed to persist lifecycle journal" s := rfl
  rw [same] at recorded
  generalize (recordMutation control action serviceId actor reason (pick serviceId services) after
    outcome).run { s with inner := u }=result at recorded ⊢
  obtain ⟨answered,kept⟩ := recorded
  cases result with
  | error error v =>
    refine ⟨?_,kept⟩
    cases failed : persistFailure control "failed to persist lifecycle journal" s with
    | none => rw [failed] at answered; cases answered
    | some error => rw [failed] at answered; cases answered; rfl
  | ok record v =>
    simp only [answer_answered,final_answered]
    refine ⟨?_,kept⟩
    cases failed : persistFailure control "failed to persist lifecycle journal" s with
    | none => rfl
    | some error => rw [failed] at answered; cases answered

end Mutate

end AuditedControl

end AkuSupervisor
