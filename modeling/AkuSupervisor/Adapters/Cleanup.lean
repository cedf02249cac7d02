import AkuSupervisor.Application.ShutdownOrder
import AkuSupervisor.Adapters.AuditedControl

namespace AkuSupervisor

open StateError AuditedControl

/-- Who ends the supervisor's run, and why. -/
structure ShutdownCause where
  actor : Actor
  reason : Reason

/-- The failure of a cleanup. -/
inductive ForegroundError where
  | cleanup (failures : List String)
  deriving DecidableEq

/-- Stops every service, and goes on when one of them cannot be stopped. -/
def cleanup {σ : Type} (control : SupervisorControl σ) (cause : ShutdownCause) :
    EStateM ForegroundError σ Unit := do
  let snapshots ← EStateM.adaptExcept (fun error => .cleanup [error.message]) control.snapshots
  let serviceIds ← answered
    ((stableShutdownOrder snapshots).mapError fun error => .cleanup [error.message])
  let failures ← eachAttempt (fun serviceId error => s!"{serviceId}: {error.message}")
    (fun serviceId => control.mutate .stop serviceId cause.actor cause.reason) serviceIds
  if failures=[] then return else throw (.cleanup failures)

/-- What the foreground's control is made of: what the platform answers to each call, and the file
system and the clock to each append. -/
structure Foreground (P E Q : Type) where
  platforms : Nat → String → Platform P E Q
  supervisorInstanceId : String
  appends : Nat → AppendAnswer
  unixMilliseconds : Nat → Nat
  observer : DependencyPlanObserver (AuditedState (ServedRegistry P E Q))

namespace ServiceEntry

variable {P E Q : Type}

/-- The platform cannot stop the process that the service owns. -/
def StopFails (platform : Platform P E Q) (e : ServiceEntry P) : Prop :=
  ∃process error,e.runtime.process=some process ∧
    platform.stop process e.registration.shutdownGrace=.error error

/-- It stops some of the tree, and leaves the rest to be waited for. -/
def StopPends (platform : Platform P E Q) (e : ServiceEntry P) : Prop :=
  ∃process report,e.runtime.process=some process ∧
    platform.stop process e.registration.shutdownGrace=.ok report ∧ report.isComplete=false

variable (platform : Platform P E Q) (actor : Actor) (reason : Reason) (e : ServiceEntry P)

theorem stop_failure (rest : ServiceRuntime.Consistent e.runtime) :
    failure ((stop platform actor reason).run ⟨e,[]⟩)=none ↔ ¬e.StopFails platform := by
  have cases := stop_cases platform actor reason e rest
  generalize (stop platform actor reason).run ⟨e,[]⟩=result at cases
  cases cases with
  | idle idle =>
    simp only [failure_ok,true_iff]
    intro fails
    obtain ⟨process,error,owner,-⟩ := fails
    rw [idle.1] at owner
    cases owner
  | complete process report owned answer complete =>
    simp only [failure_ok,true_iff]
    intro fails
    obtain ⟨process',error,owner,failed⟩ := fails
    cases owned.1.symm.trans owner
    rw [answer] at failed
    cases failed
  | pending process report owned answer pending =>
    simp only [failure_ok,true_iff]
    intro fails
    obtain ⟨process',error,owner,failed⟩ := fails
    cases owned.1.symm.trans owner
    rw [answer] at failed
    cases failed
  | failed process error owned answer =>
    simp only [failure_error,reduceCtorEq,false_iff,not_not]
    exact ⟨process,error,owned.1,answer⟩

/-- A stop that does not fail leaves a process exactly if it leaves some of the tree. -/
theorem stop_process (rest : ServiceRuntime.Consistent e.runtime)
    (works : ¬e.StopFails platform) :
    (final ((stop platform actor reason).run ⟨e,[]⟩)).entry.runtime.process≠none ↔
      e.StopPends platform := by
  have cases := stop_cases platform actor reason e rest
  generalize (stop platform actor reason).run ⟨e,[]⟩=result at cases
  cases cases with
  | idle idle =>
    simp only [final_ok,ne_eq,not_true,false_iff]
    intro pends
    obtain ⟨process,report,owner,-⟩ := pends
    rw [idle.1] at owner
    cases owner
  | complete process report owned answer complete =>
    simp only [final_ok,ne_eq,not_true,false_iff]
    intro pends
    obtain ⟨process',report',owner,answer',pending⟩ := pends
    cases owned.1.symm.trans owner
    cases answer.symm.trans answer'
    rw [complete] at pending
    cases pending
  | pending process report owned answer pending =>
    simp only [final_ok,ne_eq,reduceCtorEq,not_false_eq_true,true_iff]
    exact ⟨process,report,owned.1,answer,pending⟩
  | failed process error owned answer => exact absurd ⟨process,error,owned.1,answer⟩ works

theorem stop_calls (rest : ServiceRuntime.Consistent e.runtime) (process : P)
    (owner : e.runtime.process=some process) :
    ∃answer,(final ((stop platform actor reason).run ⟨e,[]⟩)).calls=
      [.stop process e.registration.shutdownGrace answer] := by
  have cases := stop_cases platform actor reason e rest
  generalize (stop platform actor reason).run ⟨e,[]⟩=result at cases
  cases cases with
  | idle idle =>
    rw [idle.1] at owner
    cases owner
  | complete process' report owned answer complete =>
    cases owned.1.symm.trans owner
    exact ⟨_,rfl⟩
  | pending process' report owned answer pending =>
    cases owned.1.symm.trans owner
    exact ⟨_,rfl⟩
  | failed process' error owned answer =>
    cases owned.1.symm.trans owner
    exact ⟨_,rfl⟩

end ServiceEntry

namespace Foreground

variable {P E Q : Type} [ToString E] [ToString Q]

def audited (w : Foreground P E Q) : AuditedControl (ServedRegistry P E Q) :=
  ⟨ServedRegistry.registryControl w.platforms,w.supervisorInstanceId,w.appends,w.unixMilliseconds⟩

/-- The registry behind its audit, behind the planning of dependencies. -/
def control (w : Foreground P E Q) : SupervisorControl (AuditedState (ServedRegistry P E Q)) :=
  DependencyAwareControl.control ⟨w.audited.control,w.observer⟩

/-- What a call that stops a service leaves. -/
def stopOne (w : Foreground P E Q) (cause : ShutdownCause) (serviceId : String)
    (s : AuditedState (ServedRegistry P E Q)) : AuditedState (ServedRegistry P E Q) :=
  final ((w.control.mutate .stop serviceId cause.actor cause.reason).run s)

/-- The state after a call that has only looked. -/
def looked (s : AuditedState (ServedRegistry P E Q)) : AuditedState (ServedRegistry P E Q) :=
  { s with inner := { s.inner with answered := s.inner.answered+1 } }

/-- The next look at all services succeeds. -/
def Sees (w : Foreground P E Q) (s : AuditedState (ServedRegistry P E Q)) : Prop :=
  (ServiceRegistry.snapshots (w.platforms s.inner.answered) s.inner.registry).isOk

/-- The operation that a call to stop the service comes down to. -/
def stopOp (w : Foreground P E Q) (cause : ShutdownCause) (serviceId : String)
    (s : AuditedState (ServedRegistry P E Q)) : RegistryOp P E Q :=
  .request (w.platforms (s.inner.answered+1) serviceId) .stop serviceId cause.actor cause.reason

variable (w : Foreground P E Q) (cause : ShutdownCause) (serviceId : String)
  (s : AuditedState (ServedRegistry P E Q))

omit [ToString E] [ToString Q] in
theorem sees_iff : w.Sees s ↔ ∃services,
    ServiceRegistry.snapshots (w.platforms s.inner.answered) s.inner.registry=.ok services := by
  unfold Sees
  cases ServiceRegistry.snapshots (w.platforms s.inner.answered) s.inner.registry with
  | ok services => simp [Except.isOk,Except.toBool]
  | error error => simp [Except.isOk,Except.toBool]

theorem run_snapshots :
    w.control.snapshots.run s=
      match ServiceRegistry.snapshots (w.platforms s.inner.answered) s.inner.registry with
      | .ok services => .ok services (looked s)
      | .error error => .error (controlError error) (looked s) := by
  have ran : w.control.snapshots.run s=
      (onInner (ServedRegistry.observe fun r =>
        ServiceRegistry.snapshots (w.platforms s.inner.answered) r)).run s := rfl
  rw [ran,run_onInner,ServedRegistry.run_observe]
  cases ServiceRegistry.snapshots (w.platforms s.inner.answered) s.inner.registry <;> rfl

/-- A stop is not planned. -/
theorem mutate_stop : w.control.mutate .stop serviceId cause.actor cause.reason=
    w.audited.mutate .stop serviceId cause.actor cause.reason := rfl

theorem run_audited_snapshots : w.audited.inner.snapshots.run s.inner=
    match ServiceRegistry.snapshots (w.platforms s.inner.answered) s.inner.registry with
    | .ok services => .ok services (looked s).inner
    | .error error => .error (controlError error) (looked s).inner := by
  have ran : w.audited.inner.snapshots.run s.inner=
      (ServedRegistry.observe fun r =>
        ServiceRegistry.snapshots (w.platforms s.inner.answered) r).run s.inner := rfl
  rw [ran,ServedRegistry.run_observe]
  cases ServiceRegistry.snapshots (w.platforms s.inner.answered) s.inner.registry <;> rfl

/-- When the look in front of a stop fails, the stop is not issued. -/
theorem stop_unseen (unseen : ¬w.Sees s) :
    stopOne w cause serviceId s=looked s ∧
      failure ((w.control.mutate .stop serviceId cause.actor cause.reason).run s)≠none := by
  have ran := run_audited_snapshots w s
  unfold stopOne
  rw [mutate_stop]
  cases seen : ServiceRegistry.snapshots (w.platforms s.inner.answered) s.inner.registry with
  | ok services => exact absurd ((sees_iff w s).mpr ⟨services,seen⟩) unseen
  | error error =>
    rw [seen] at ran
    rw [run_mutate_unobserved w.audited .stop serviceId cause.actor cause.reason s _ _ ran]
    exact ⟨rfl,nofun⟩

/-- Otherwise it is, and only a failed append can hide its answer. -/
theorem stop_seen (seen : w.Sees s) :
    (stopOne w cause serviceId s).inner.registry=
        (w.stopOp cause serviceId s).step s.inner.registry ∧
      (stopOne w cause serviceId s).inner.steps=
        s.inner.steps++[(s.inner.registry,w.stopOp cause serviceId s)] ∧
      (failure ((w.control.mutate .stop serviceId cause.actor cause.reason).run s)=none ↔
        (w.appends s.appended).failure s.journal.journal.path=none ∧
          failure ((ServiceRegistry.mutate (w.platforms (s.inner.answered+1) serviceId) .stop
            serviceId cause.actor cause.reason).run ⟨s.inner.registry,[]⟩)=none) := by
  obtain ⟨services,shown⟩ := (sees_iff w s).mp seen
  have ran := run_audited_snapshots w s
  rw [shown] at ran
  obtain ⟨answered,kept⟩ := run_mutate_observed w.audited .stop serviceId cause.actor cause.reason s
    services _ ran
  have taken := ServedRegistry.final_registryControl_mutate w.platforms .stop serviceId cause.actor
    cause.reason (looked s).inner
  have looks (u : ServedRegistry P E Q) : final (w.audited.inner.snapshots.run u)=
      { u with answered := u.answered+1 } := ServedRegistry.final_observe _ u
  rw [looks] at kept
  unfold stopOne
  rw [mutate_stop,kept]
  have inner : final ((w.audited.inner.mutate .stop serviceId cause.actor cause.reason).run
      (looked s).inner)=(looked s).inner.take (w.stopOp cause serviceId s) := taken
  rw [inner]
  refine ⟨rfl,rfl,?_⟩
  have append : persistFailure w.audited "failed to persist lifecycle journal" s=none ↔
      (w.appends s.appended).failure s.journal.journal.path=none := by
    unfold persistFailure
    exact Option.map_eq_none_iff
  rw [← append]
  cases lost : persistFailure w.audited "failed to persist lifecycle journal" s with
  | some error =>
    rw [lost] at answered
    generalize (w.audited.mutate .stop serviceId cause.actor cause.reason).run s=result
      at answered ⊢
    cases result with
    | ok a t => cases answered
    | error e t => simp
  | none =>
    rw [lost] at answered
    rw [failure_none_congr (congrArg Except.toBool answered)]
    have told := ServedRegistry.answer_registryControl_mutate w.platforms .stop
      serviceId cause.actor cause.reason (looked s).inner
    have same : answer ((w.audited.inner.mutate .stop serviceId cause.actor cause.reason).run
        (looked s).inner)=answer ((ServiceRegistry.mutate
          (w.platforms (s.inner.answered+1) serviceId) .stop serviceId cause.actor
          cause.reason).run ⟨s.inner.registry,[]⟩) := told
    rw [failure_none_congr (congrArg Except.toBool same)]
    simp

theorem failure_mutate_stop (platform : Platform P E Q) (r : ServiceRegistry P)
    (sound : r.Sound) :
    failure ((ServiceRegistry.mutate platform .stop serviceId cause.actor cause.reason).run
        ⟨r,[]⟩)=none ↔
      ∃e,r.services[serviceId]?=some e ∧ ¬e.StopFails platform := by
  unfold ServiceRegistry.mutate
  rw [run_adaptExcept,run_map,ServiceRegistry.stopWithReport,ServiceRegistry.run_withEntry]
  cases here : r.services[serviceId]? with
  | none => simp
  | some e =>
    have fails := e.stop_failure platform cause.actor cause.reason (sound.consistent serviceId e here)
    simp only [Option.some.injEq,exists_eq_left',← fails]
    cases (ServiceEntry.stop platform cause.actor cause.reason).run ⟨e,[]⟩ <;> simp

omit [ToString E] [ToString Q] in
theorem lookup_stopOp (id : String) :
    ((w.stopOp cause serviceId s).step s.inner.registry).services[id]?=
      if serviceId=id then s.inner.registry.services[id]?.map fun e =>
        (final ((ServiceEntry.stop (w.platforms (s.inner.answered+1) serviceId) cause.actor
          cause.reason).run ⟨e,[]⟩)).entry
      else s.inner.registry.services[id]? := by
  unfold stopOp
  rw [RegistryOp.lookup_request]
  simp only [ServiceEntry.request,final_run_map]

/-- A call to stop a service leaves the other ones as they are. -/
theorem stopOne_other (id : String) (other : serviceId≠id) :
    (stopOne w cause serviceId s).inner.registry.services[id]?=
      s.inner.registry.services[id]? := by
  by_cases seen : w.Sees s
  · rw [(stop_seen w cause serviceId s seen).1,lookup_stopOp,if_neg other]
  · rw [(stop_unseen w cause serviceId s seen).1]
    rfl

theorem stopOne_sound (sound : s.inner.registry.Sound) :
    (stopOne w cause serviceId s).inner.registry.Sound := by
  by_cases seen : w.Sees s
  · rw [(stop_seen w cause serviceId s seen).1]
    exact RegistryOp.sound_step _ _ sound
  · rw [(stop_unseen w cause serviceId s seen).1]
    exact sound

theorem final_other (ids : List String) (id : String) (other : id∉ids) :
    (Run.final (stopOne w cause) ids s).inner.registry.services[id]?=
      s.inner.registry.services[id]? := by
  induction ids generalizing s with
  | nil => rfl
  | cons first ids ih =>
    obtain ⟨ne,rest⟩ := not_or.mp (fun mem => other (List.mem_cons.mpr mem))
    rw [Run.final_cons,ih _ rest,stopOne_other w cause first s id (Ne.symm ne)]

theorem final_sound (ids : List String) (sound : s.inner.registry.Sound) :
    (Run.final (stopOne w cause) ids s).inner.registry.Sound :=
  Run.always (fun s => s.inner.registry.Sound) (fun s id => stopOne_sound w cause id s) ids sound

instance : Decidable (w.Sees s) := inferInstanceAs (Decidable (_=true))

/-- The stop that a call issues, with the registry it is issued to. -/
def issued (entry : AuditedState (ServedRegistry P E Q) × String) :
    List (ServiceRegistry P × RegistryOp P E Q) :=
  if w.Sees entry.1 then [(entry.1.inner.registry,w.stopOp cause entry.2 entry.1)] else []

theorem final_steps (ids : List String) :
    (Run.final (stopOne w cause) ids s).inner.steps=
      s.inner.steps++(Run.trace (stopOne w cause) ids s).flatMap (issued w cause) := by
  induction ids generalizing s with
  | nil => simp [Run.trace]
  | cons id ids ih =>
    rw [Run.final_cons,ih,Run.trace,List.flatMap_cons,← List.append_assoc]
    congr 1
    unfold issued
    by_cases seen : w.Sees s
    · rw [if_pos seen,(stop_seen w cause id s seen).2.1]
    · rw [if_neg seen,(stop_unseen w cause id s seen).1,List.append_nil]
      rfl

/-- The order by which a cleanup goes. -/
def plan : List String :=
  ((ServiceRegistry.snapshots (w.platforms s.inner.answered) s.inner.registry).toOption.bind
    fun services => (stableShutdownOrder services).toOption).getD []

/-- The service owns a process. -/
def Owns (id : String) : Prop :=
  ∃e,s.inner.registry.services[id]?=some e ∧ e.runtime.process≠none

/-- The next call to stop the service fails: at the look in front of it, at the append behind it or
at the stop itself. -/
def Fails (id : String) : Prop :=
  ¬w.Sees s ∨ (w.appends s.appended).failure s.journal.journal.path≠none ∨
    ∃e,s.inner.registry.services[id]?=some e ∧ e.StopFails (w.platforms (s.inner.answered+1) id)

/-- It leaves some of the tree, and succeeds. -/
def Pends (id : String) : Prop :=
  ∃e,s.inner.registry.services[id]?=some e ∧ e.StopPends (w.platforms (s.inner.answered+1) id)

/-- The condition under which a cleanup is complete and honest: the look in front of it succeeds
if anything is owned, so do the looks in front of the stops of owned services, and if a stop leaves
some of a tree then another call fails. -/
structure Unhindered : Prop where
  seen : (∃id,Owns s id) → w.Sees s
  looks : Run.Along (stopOne w cause) (fun s id => Owns s id → w.Sees s) (w.plan s) (looked s)
  honest : Run.Along (stopOne w cause) (fun s id => ¬w.Fails s id) (w.plan s) (looked s) →
    Run.Along (stopOne w cause) (fun s id => ¬w.Pends s id) (w.plan s) (looked s)

/-- Every service that owned a process is stopped, never before one that depends on it, and success
means that no process is left. -/
structure CleanedUp (r : ServiceRegistry P)
    (result : EStateM.Result ForegroundError (AuditedState (ServedRegistry P E Q)) Unit) :
    Prop where
  stopped : ∀(id : String) (e : ServiceEntry P) (process : P),r.services[id]?=some e → e.runtime.process=some process →
    ∃step∈(final result).inner.steps,∃answer,
      .stop process e.registration.shutdownGrace answer∈step.2.calls id step.1
  ordered : (final result).inner.steps.Pairwise fun step later => ∀id id',
    step.2.target=some id → later.2.target=some id' → ¬Relation.TransGen r.DependsOn id' id
  empty : failure result=none → ∀(id : String) (e : ServiceEntry P),
    (final result).inner.registry.services[id]?=some e → e.runtime.process=none

theorem fails_iff (id : String) (sound : s.inner.registry.Sound)
    (registered : id∈s.inner.registry.services) :
    failure ((w.control.mutate .stop id cause.actor cause.reason).run s)=none ↔
      ¬w.Fails s id := by
  obtain ⟨e,here⟩ := (ServiceMap.mem_iff _ _).mp registered
  unfold Fails
  by_cases seen : w.Sees s
  · rw [(stop_seen w cause id s seen).2.2,failure_mutate_stop cause id _ _ sound]
    simp [here,seen]
  · have failed := (stop_unseen w cause id s seen).2
    simp [seen,failed]

theorem run_cleanup_unseen (unseen : ¬w.Sees s) :
    ∃failures,(cleanup w.control cause).run s=.error (.cleanup failures) (looked s) := by
  unfold cleanup
  rw [EStateM.run_bind,run_adaptExcept,run_snapshots]
  cases shown : ServiceRegistry.snapshots (w.platforms s.inner.answered) s.inner.registry with
  | ok services => exact absurd ((sees_iff w s).mpr ⟨services,shown⟩) unseen
  | error error => exact ⟨_,rfl⟩

theorem run_cleanup (services : List ServiceSnapshot) (ids : List String)
    (shown : ServiceRegistry.snapshots (w.platforms s.inner.answered) s.inner.registry=
      .ok services) (ordered : stableShutdownOrder services=.ok ids) :
    final ((cleanup w.control cause).run s)=Run.final (stopOne w cause) ids (looked s) ∧
      (failure ((cleanup w.control cause).run s)=none ↔ Run.Along (stopOne w cause)
        (fun s id => failure ((w.control.mutate .stop id cause.actor cause.reason).run s)=none)
        ids (looked s)) := by
  obtain ⟨failures,run,none⟩ := run_eachAttempt (φ := ForegroundError)
    (fun serviceId (error : ControlError) => s!"{serviceId}: {error.message}")
    (fun serviceId => w.control.mutate .stop serviceId cause.actor cause.reason) ids (looked s)
  unfold cleanup
  rw [EStateM.run_bind,run_adaptExcept,run_snapshots,shown]
  simp only [EStateM.run_bind,ordered,Except.mapError,answered,EStateM.run_pure,run]
  rw [run_ite]
  by_cases empty : failures=[]
  · rw [if_pos empty]
    exact ⟨rfl,⟨fun _ => none.mp empty,fun _ => rfl⟩⟩
  · rw [if_neg empty]
    exact ⟨rfl,⟨nofun,fun along => absurd (none.mpr along) empty⟩⟩

section Turns

variable {w cause s} {ids : List String} (nodup : ids.Nodup) {t : AuditedState (ServedRegistry P E Q)}
  {id : String} (turn : (t,id)∈Run.trace (stopOne w cause) ids s)

include nodup turn

/-- At its turn a service is as it was when the cleanup began. -/
theorem turn_before : t.inner.registry.services[id]?=s.inner.registry.services[id]? := by
  obtain ⟨before,after,rfl,rfl⟩ := (Run.mem_trace ids s t id).mp turn
  apply final_other
  intro mem
  exact (List.nodup_append.mp nodup).2.2 id mem id List.mem_cons_self rfl

/-- And it stays as its turn has left it. -/
theorem turn_after : (Run.final (stopOne w cause) ids s).inner.registry.services[id]?=
    (stopOne w cause id t).inner.registry.services[id]? := by
  obtain ⟨before,after,rfl,rfl⟩ := (Run.mem_trace ids s t id).mp turn
  rw [Run.final_append,Run.final_cons]
  apply final_other
  exact (List.nodup_cons.mp (List.nodup_append.mp nodup).2.1).1

omit nodup in
theorem turn_sound (sound : s.inner.registry.Sound) : t.inner.registry.Sound := by
  obtain ⟨before,after,-,rfl⟩ := (Run.mem_trace ids s t id).mp turn
  exact final_sound w cause s before sound

/-- The process of a service is stopped exactly if the look in front of its stop succeeds. -/
theorem turn_stopped (sound : s.inner.registry.Sound) (fresh : s.inner.steps=[])
    (e : ServiceEntry P) (process : P) (here : s.inner.registry.services[id]?=some e)
    (owner : e.runtime.process=some process) :
    (∃step∈(Run.final (stopOne w cause) ids s).inner.steps,∃answer,
      .stop process e.registration.shutdownGrace answer∈step.2.calls id step.1) ↔ w.Sees t := by
  rw [final_steps,fresh,List.nil_append]
  have here' := (turn_before nodup turn).trans here
  constructor
  · intro h
    obtain ⟨step,mem,answer,call⟩ := h
    obtain ⟨⟨t',id'⟩,turn',mem⟩ := List.mem_flatMap.mp mem
    unfold issued at mem
    by_cases seen : w.Sees t'
    · rw [if_pos seen,List.mem_singleton] at mem
      subst mem
      have same : id'=id := by
        by_contra other
        have target : (w.stopOp cause id' t').target≠some id :=
          fun eq => other (Option.some.inj eq)
        rw [RegistryOp.calls,if_neg target] at call
        cases call
      subst same
      rwa [Run.trace_unique ids nodup s t t' id' turn turn']
    · rw [if_neg seen] at mem
      cases mem
  · intro seen
    obtain ⟨answer,calls⟩ := e.stop_calls (w.platforms (t.inner.answered+1) id) cause.actor
      cause.reason ((turn_sound turn sound).consistent id e here') process owner
    refine ⟨(t.inner.registry,w.stopOp cause id t),List.mem_flatMap.mpr ⟨(t,id),turn,?_⟩,answer,?_⟩
    · rw [issued,if_pos seen]
      exact List.mem_singleton_self _
    · have target : (w.stopOp cause id t).target=some id := rfl
      rw [RegistryOp.calls,if_pos target,stopOp,RegistryOp.apply,ServiceRegistry.final_withEntry,here']
      simp only [ServiceEntry.request,final_run_map,calls,List.nil_append,List.mem_singleton]

/-- A call that does not fail leaves a process exactly if it leaves some of its tree. -/
theorem turn_process (sound : s.inner.registry.Sound) (works : ¬w.Fails t id) :
    (∃e,(Run.final (stopOne w cause) ids s).inner.registry.services[id]?=some e ∧
      e.runtime.process≠none) ↔ w.Pends t id := by
  have seen : w.Sees t := by
    by_contra unseen
    exact works (.inl unseen)
  rw [turn_after nodup turn,(stop_seen w cause id t seen).1,lookup_stopOp,if_pos rfl]
  unfold Pends
  cases here : t.inner.registry.services[id]? with
  | none => simp
  | some e =>
    have stops : ¬e.StopFails (w.platforms (t.inner.answered+1) id) :=
      fun fails => works (.inr (.inr ⟨e,here,fails⟩))
    have left := e.stop_process (w.platforms (t.inner.answered+1) id) cause.actor cause.reason
      ((turn_sound turn sound).consistent id e here) stops
    simpa using left

end Turns

omit [ToString E] [ToString Q] in
theorem owns_of_process {id : String} {e : ServiceEntry P} {process : P}
    (here : s.inner.registry.services[id]?=some e) (owner : e.runtime.process=some process) :
    Owns s id := ⟨e,here,by rw [owner]; nofun⟩

omit [ToString E] [ToString Q] in
theorem issued_target (step : ServiceRegistry P × RegistryOp P E Q)
    (entry : AuditedState (ServedRegistry P E Q) × String) (mem : step∈issued w cause entry) :
    step.2.target=some entry.2 := by
  unfold issued at mem
  split_ifs at mem
  · cases List.mem_singleton.mp mem
    rfl
  · cases mem

theorem final_ordered (ids : List String) (fresh : s.inner.steps=[]) (r : ServiceRegistry P)
    (sorted : ids.Pairwise fun id later => ¬Relation.TransGen r.DependsOn later id) :
    (Run.final (stopOne w cause) ids s).inner.steps.Pairwise fun step later => ∀id id',
      step.2.target=some id → later.2.target=some id' →
        ¬Relation.TransGen r.DependsOn id' id := by
  rw [final_steps,fresh,List.nil_append,List.pairwise_flatMap]
  constructor
  · intro entry _
    unfold issued
    split_ifs
    · exact List.pairwise_singleton _ _
    · exact .nil
  · have turns : (Run.trace (stopOne w cause) ids s).Pairwise fun entry later =>
        ¬Relation.TransGen r.DependsOn later.2 entry.2 := by
      rw [← Run.map_trace (stopOne w cause) ids s] at sorted
      exact List.pairwise_map.mp sorted
    refine turns.imp fun {entry later} before step mem step' mem' id id' target target' => ?_
    cases (issued_target w cause step entry mem).symm.trans target
    cases (issued_target w cause step' later mem').symm.trans target'
    exact before

/-- A cleanup is complete and honest exactly when nothing hinders it in the ways that `Unhindered`
rules out. -/
theorem cleanup_complete_iff (reached : RegistryOp.Reachable E Q s.inner.registry)
    (valid : s.inner.registry.Valid) (fresh : s.inner.steps=[]) :
    CleanedUp s.inner.registry ((cleanup w.control cause).run s) ↔ w.Unhindered cause s := by
  by_cases seen : w.Sees s
  · obtain ⟨services,shown⟩ := (sees_iff w s).mp seen
    obtain ⟨ids,ordered,nodup,all,sorted⟩ := stableShutdownOrder_valid s.inner.registry
      reached.sound valid _ services shown
    obtain ⟨ended,succeeds⟩ := run_cleanup w cause s services ids shown ordered
    have planned : w.plan s=ids := by
      rw [plan,shown]
      simp [Except.toOption,ordered]
    have works : failure ((cleanup w.control cause).run s)=none ↔
        Run.Along (stopOne w cause) (fun s id => ¬w.Fails s id) ids (looked s) := by
      rw [succeeds,Run.along_iff_trace,Run.along_iff_trace]
      refine forall₂_congr fun entry turn => ?_
      have registered := (all entry.2).mp (by
        rw [← Run.map_trace (stopOne w cause) ids (looked s)]
        exact List.mem_map_of_mem turn)
      obtain ⟨e,here⟩ := (ServiceMap.mem_iff _ _).mp registered
      refine fails_iff w cause entry.1 entry.2 (turn_sound turn reached.sound) ?_
      exact (ServiceMap.mem_iff _ _).mpr ⟨e,(turn_before nodup turn).trans here⟩
    constructor
    · intro h
      refine ⟨fun _ => seen,?_,?_⟩
      · rw [planned,Run.along_iff_trace]
        intro entry turn owns
        obtain ⟨e,here,owner⟩ := owns
        obtain ⟨process,owner⟩ := Option.ne_none_iff_exists'.mp owner
        have before := (turn_before nodup turn).symm.trans here
        have stopped := h.stopped entry.2 e process before owner
        rw [ended] at stopped
        exact (turn_stopped nodup turn reached.sound fresh e process before owner).mp stopped
      · rw [planned]
        intro along
        have empty := h.empty (works.mpr along)
        rw [ended] at empty
        rw [Run.along_iff_trace] at along ⊢
        intro entry turn pends
        obtain ⟨e,here,owner⟩ :=
          (turn_process nodup turn reached.sound (along entry turn)).mpr pends
        exact owner (empty entry.2 e here)
    · intro h
      obtain ⟨-,looks,honest⟩ := h
      rw [planned] at looks honest
      refine ⟨?_,?_,?_⟩
      · intro id e process here owner
        have listed := (all id).mpr ((ServiceMap.mem_iff _ _).mpr ⟨e,here⟩)
        rw [← Run.map_trace (stopOne w cause) ids (looked s)] at listed
        obtain ⟨⟨t,id'⟩,turn,rfl⟩ := List.mem_map.mp listed
        have before := (turn_before nodup turn).trans here
        have sees := (Run.along_iff_trace _ _ _).mp looks _ turn (owns_of_process t before owner)
        rw [ended]
        exact (turn_stopped nodup turn reached.sound fresh e process here owner).mpr sees
      · rw [ended]
        exact final_ordered w cause (looked s) ids fresh _ sorted
      · intro succeeded id e here
        have along := works.mp succeeded
        have settled := honest along
        rw [Run.along_iff_trace] at along settled
        rw [ended] at here
        by_contra owner
        have listed : id∈ids := by
          by_contra absent
          rw [final_other w cause (looked s) ids id absent] at here
          exact absent ((all id).mpr ((ServiceMap.mem_iff _ _).mpr ⟨e,here⟩))
        rw [← Run.map_trace (stopOne w cause) ids (looked s)] at listed
        obtain ⟨⟨t,id'⟩,turn,rfl⟩ := List.mem_map.mp listed
        exact settled _ turn
          ((turn_process nodup turn reached.sound (along _ turn)).mp ⟨e,here,owner⟩)
  · obtain ⟨failures,run⟩ := run_cleanup_unseen w cause s seen
    have unplanned : w.plan s=[] := by
      unfold plan
      cases shown : ServiceRegistry.snapshots (w.platforms s.inner.answered) s.inner.registry with
      | ok services => exact absurd ((sees_iff w s).mpr ⟨services,shown⟩) seen
      | error error => rfl
    rw [run]
    constructor
    · intro h
      refine ⟨fun owned => ?_,by rw [unplanned]; trivial,fun _ => by rw [unplanned]; trivial⟩
      obtain ⟨id,e,here,owner⟩ := owned
      obtain ⟨process,owner⟩ := Option.ne_none_iff_exists'.mp owner
      obtain ⟨step,mem,-⟩ := h.stopped id e process here owner
      rw [final_error,looked,fresh] at mem
      cases mem
    · intro h
      refine ⟨fun id e process here owner => ?_,?_,fun succeeded => ?_⟩
      · exact absurd (h.seen ⟨id,owns_of_process s here owner⟩) seen
      · rw [final_error,looked,fresh]
        exact .nil
      · cases succeeded

section Fixture

/-- The database and the API on top of it are both up. -/
def fixtureOwners : ServiceRegistry Nat :=
  Run.final RegistryOp.step
    [.request fixturePlatform .start "database" .userCli fixtureReason,
      .request fixturePlatform .start "api" .userCli fixtureReason] (fixtureRegistry ServiceRegistry.fixturePair)

theorem reachable_fixtureOwners : RegistryOp.Reachable Unit Unit fixtureOwners :=
  .step _ _ (.step _ _ (.new ServiceRegistry.fixturePair _ _ rfl))

theorem valid_fixtureOwners : fixtureOwners.Valid :=
  ServiceRegistry.valid_of_rank _ (fun id => if id="api" then 1 else 0) (by decide +kernel)

def fixtureForeground (platforms : Nat → String → Platform Nat Unit Unit) :
    Foreground Nat Unit Unit :=
  ⟨platforms,"1-0",fun _ => .durable,fun _ => 0,⟨fun _ _ _ _ s => s⟩⟩

def fixtureAudited (r : ServiceRegistry Nat) : AuditedState (ServedRegistry Nat Unit Unit) :=
  ⟨⟨r,0,[]⟩,⟨⟨"journal.jsonl",1,[]⟩,[]⟩,0,"sha256:0"⟩

def fixtureCause : ShutdownCause := ⟨.userCli,fixtureReason⟩

theorem cleanup_complete_owners :
    CleanedUp fixtureOwners
        ((cleanup (fixtureForeground fun _ _ => fixturePlatform).control fixtureCause).run
          (fixtureAudited fixtureOwners)) ↔
      (fixtureForeground fun _ _ => fixturePlatform).Unhindered fixtureCause
        (fixtureAudited fixtureOwners) :=
  cleanup_complete_iff _ _ (fixtureAudited fixtureOwners) reachable_fixtureOwners
    valid_fixtureOwners rfl

/-- The processes of the database cannot be listed. -/
def databaseUnseen (_ : Nat) (id : String) : Platform Nat Unit Unit :=
  if id="database" then { fixturePlatform with ownedProcesses := fun _ => .error () }
  else fixturePlatform

/-- One service that cannot be observed keeps every other one from being stopped. -/
theorem cleanup_blocked :
    ¬∀(w : Foreground Nat Unit Unit) (cause : ShutdownCause)
      (s : AuditedState (ServedRegistry Nat Unit Unit)),
      RegistryOp.Reachable Unit Unit s.inner.registry → s.inner.registry.Valid →
      s.inner.steps=[] → CleanedUp s.inner.registry ((cleanup w.control cause).run s) := by
  intro claim
  have cleaned := claim (fixtureForeground databaseUnseen) fixtureCause
    (fixtureAudited fixtureOwners) reachable_fixtureOwners valid_fixtureOwners rfl
  have api : fixtureOwners.services["api"]?.map (·.runtime.process)=some (some 1000) := by
    decide +kernel
  obtain ⟨e,here,owner⟩ := Option.map_eq_some_iff.mp api
  obtain ⟨step,mem,-⟩ := cleaned.stopped "api" e 1000 here owner
  have unseen : ¬(fixtureForeground databaseUnseen).Sees (fixtureAudited fixtureOwners) := by
    decide +kernel
  obtain ⟨failures,run⟩ := run_cleanup_unseen _ fixtureCause _ unseen
  rw [run] at mem
  cases mem

end Fixture

end Foreground

end AkuSupervisor
