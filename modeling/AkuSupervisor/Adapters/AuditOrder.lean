import AkuSupervisor.Application.ServedRegistry
import AkuSupervisor.Adapters.AuditedControl

namespace AkuSupervisor

open StateError AuditedControl

structure AuditedRequest where
  action : ControlAction
  serviceId : String
  actor : Actor
  reason : Reason

/-- What a thread is in the middle of: an audited mutation after its first look, after the mutation
itself or after its second look, or an exit that the monitor still has to record. `op` is the
operation that the record will be about. -/
inductive AuditTask where
  | looked (request : AuditedRequest) (before : Option ServiceSnapshot)
  | mutated (request : AuditedRequest) (before : Option ServiceSnapshot)
      (outcome : Except ControlError ControlMutationResult) (op : Nat)
  | observed (request : AuditedRequest) (before after : Option ServiceSnapshot)
      (outcome : Except ControlError ControlMutationResult) (op : Nat)
  | exited (event : ProcessExitEvent) (op : Nat)
  | finished

namespace AuditTask

def serviceId : AuditTask → Option String
  | .looked request _ | .mutated request _ _ _ | .observed request _ _ _ _ =>
    some request.serviceId
  | .exited event _ => some event.serviceId
  | .finished => none

/-- The operation that is applied and not recorded. -/
def unrecorded : AuditTask → Option Nat
  | .mutated _ _ _ op | .observed _ _ _ _ op | .exited _ op => some op
  | .looked _ _ | .finished => none

end AuditTask

/-- An operation the registry has applied to a service: a mutation or an exit. -/
structure AppliedOp where
  serviceId : String
  previous : LifecycleState
  resulting : LifecycleState
  deriving DecidableEq

/-- The registry and the journal with all threads between them. The operations applied so far are
kept in their order, and every record with the number of its operation. -/
structure AuditedSystem (P : Type) where
  registry : ServiceRegistry P
  journal : FileJournal
  tasks : List AuditTask
  history : List AppliedOp
  records : List (JournalRecord × Nat)

/-- The steps that threads take, each of them one call of the registry or of the journal, with the
answers it gets; a refresh is one service's turn in a refresh pass. The monitor may lose an exit,
and an append may fail. -/
inductive AuditStep (P E Q : Type) where
  | look (platforms : String → Platform P E Q) (request : AuditedRequest)
  | apply (task : Nat) (platform : Platform P E Q)
  | observe (task : Nat) (platforms : String → Platform P E Q)
  | refresh (platform : Platform P E Q) (serviceId : String)
  | record (task : Nat) (stamp : RecordStamp) (durable : Bool)
  | lose (task : Nat)

def ServiceRegistry.lifecycle {P : Type} (r : ServiceRegistry P) (id : String) : LifecycleState :=
  r.services[id]?.elim .stopped (·.runtime.lifecycle)

namespace AuditStep

variable {P E Q : Type} [ToString E] [ToString Q]

/-- The record that a task is about to append. -/
def pendingRecord (stamp : RecordStamp) : AuditTask → Option (JournalRecord × Nat)
  | .observed request before after outcome op =>
    some (mutationRecord stamp request.action request.serviceId request.actor request.reason before
      after outcome,op)
  | .exited event op =>
    match exitReason event with
    | .ok reason => some (exitRecord stamp event reason,op)
    | .error _ => none
  | _ => none

def step (move : AuditStep P E Q) (s : AuditedSystem P) : AuditedSystem P :=
  match move with
  | .look platforms request =>
    match ServiceRegistry.snapshots platforms s.registry with
    | .error _ => s
    | .ok services =>
      { s with tasks := s.tasks++[.looked request (pick request.serviceId services)] }
  | .apply n platform =>
    match s.tasks[n]? with
    | some (.looked request before) =>
      let result := (ServiceRegistry.mutate platform request.action request.serviceId
        request.actor request.reason).run ⟨s.registry,[]⟩
      { s with
        registry := (final result).registry
        tasks := s.tasks.set n (.mutated request before (answer result) s.history.length)
        history := s.history++[⟨request.serviceId,s.registry.lifecycle request.serviceId,
          (final result).registry.lifecycle request.serviceId⟩] }
    | _ => s
  | .observe n platforms =>
    match s.tasks[n]? with
    | some (.mutated request before outcome op) =>
      let after := (ServiceRegistry.snapshots platforms s.registry).toOption.bind
        (pick request.serviceId)
      { s with tasks := s.tasks.set n (.observed request before after outcome op) }
    | _ => s
  | .refresh platform serviceId =>
    let op := RegistryOp.refresh platform serviceId
    let registry := op.step s.registry
    match op.exit s.registry with
    | none => { s with registry }
    | some event =>
      { s with
        registry
        tasks := s.tasks++[.exited event s.history.length]
        history := s.history++[⟨serviceId,s.registry.lifecycle serviceId,
          registry.lifecycle serviceId⟩] }
  | .record n stamp durable =>
    match s.tasks[n]?.bind (pendingRecord stamp) with
    | some (written,op) =>
      if durable then
        { s with
          journal := { s.journal with
            nextSequence := FileJournal.saturatingNext s.journal.nextSequence }
          tasks := s.tasks.set n .finished
          records := s.records++[(s.journal.numbered written,op)] }
      else { s with tasks := s.tasks.set n .finished }
    | none => s
  | .lose n =>
    match s.tasks[n]? with
    | some (.exited _ _) => { s with tasks := s.tasks.set n .finished }
    | _ => s

end AuditStep

namespace AuditedSystem

variable {P E Q : Type}

def new (registry : ServiceRegistry P) (journal : FileJournal) : AuditedSystem P :=
  ⟨registry,journal,[],[],[]⟩

/-- A service's records are in the order of its operations, and those of mutations tell what its
lifecycle was before and after. -/
structure Faithful (s : AuditedSystem P) : Prop where
  ordered : ∀id,((s.records.filter (·.1.serviceId=id)).map Prod.snd).Pairwise (· < ·)
  states : ∀entry∈s.records,∃applied,s.history[entry.2]?=some applied ∧
    applied.serviceId=entry.1.serviceId ∧ (entry.1.action≠.processExit →
      entry.1.previousState=applied.previous ∧ entry.1.resultingState=applied.resulting)

/-- Some task other than the `n`th is about the service. -/
def Busy (s : AuditedSystem P) (id : String) (n : Option Nat) : Prop :=
  ∃entry∈s.tasks.zipIdx,some entry.2≠n ∧ entry.1.serviceId=some id

instance (s : AuditedSystem P) (id : String) (n : Option Nat) : Decidable (s.Busy id n) :=
  inferInstanceAs (Decidable (∃entry∈s.tasks.zipIdx,some entry.2≠n ∧ entry.1.serviceId=some id))

/-- The service that the `n`th task is about to mutate. -/
def awaited (s : AuditedSystem P) (n : Nat) : Option String :=
  match s.tasks[n]? with
  | some (.looked request _) => some request.serviceId
  | _ => none

/-- A step applies an operation to a service, or changes its lifecycle, only while no other task is
about the service; and second looks succeed. -/
def Undisturbed [ToString E] [ToString Q] (s : AuditedSystem P) : AuditStep P E Q → Prop
  | .apply n _ => ∀id∈s.awaited n,¬s.Busy id (some n)
  | .observe _ platforms => (ServiceRegistry.snapshots platforms s.registry).isOk
  | .refresh platform serviceId => s.Busy serviceId none →
    (RegistryOp.refresh platform serviceId).exit s.registry=none ∧
      ((RegistryOp.refresh platform serviceId).step s.registry).lifecycle serviceId=
        s.registry.lifecycle serviceId
  | _ => True

instance [ToString E] [ToString Q] (s : AuditedSystem P) (move : AuditStep P E Q) :
    Decidable (Undisturbed s move) := by
  cases move <;> unfold Undisturbed <;> infer_instance

theorem busy_of_task {s : AuditedSystem P} {id : String} {n : Option Nat} {m : Nat}
    {task : AuditTask} (there : s.tasks[m]?=some task) (ne : some m≠n)
    (about : task.serviceId=some id) : s.Busy id n :=
  ⟨(task,m),List.mem_zipIdx_iff_getElem?.mpr there,ne,about⟩

section Alone

variable [ToString E] [ToString Q] {platforms : Nat → String → Platform P E Q}

theorem toOption_registryControl_snapshots (s : ServedRegistry P E Q) :
    (answer ((ServedRegistry.registryControl platforms).snapshots.run s)).toOption=
      (ServiceRegistry.snapshots (platforms s.answered) s.registry).toOption := by
  have ran : (ServedRegistry.registryControl platforms).snapshots.run s=
      (ServedRegistry.observe (ServiceRegistry.snapshots (platforms s.answered))).run s := rfl
  rw [ran,ServedRegistry.run_observe]
  cases ServiceRegistry.snapshots (platforms s.answered) s.registry <;> rfl

/-- A call of the audited control is a look, the mutation, a look and a record. -/
theorem mutate_steps (control : AuditedControl (ServedRegistry P E Q))
    (inner : control.inner=ServedRegistry.registryControl platforms) (request : AuditedRequest)
    (s : AuditedSystem P) (t : AuditedState (ServedRegistry P E Q))
    (same : t.inner.registry=s.registry) (services : List ServiceSnapshot)
    (seen : ServiceRegistry.snapshots (platforms t.inner.answered) s.registry=.ok services) :
    ∃before after outcome served history,
      Run.final AuditStep.step [.look (platforms t.inner.answered) request,
          .apply s.tasks.length (platforms (t.inner.answered+1) request.serviceId),
          .observe s.tasks.length (platforms (t.inner.answered+2))] s=
        { s with
          registry := served.registry
          tasks := s.tasks++[.observed request before after outcome s.history.length]
          history } ∧
      (control.mutate request.action request.serviceId request.actor request.reason).run t=
        (do
          discard (recordMutation control request.action request.serviceId request.actor
            request.reason before after outcome)
          answered outcome : AuditedM _ _).run { t with inner := served } := by
  obtain ⟨action,serviceId,actor,reason⟩ := request
  obtain ⟨⟨registry,count,steps⟩,journal,appended,configFingerprint⟩ := t
  cases same
  have looked : (ServedRegistry.registryControl platforms).snapshots.run ⟨s.registry,count,steps⟩=
      .ok services ⟨s.registry,count+1,steps⟩ := by
    have ran : (ServedRegistry.registryControl platforms).snapshots.run ⟨s.registry,count,steps⟩=
        (ServedRegistry.observe (ServiceRegistry.snapshots (platforms count))).run
          ⟨s.registry,count,steps⟩ := rfl
    rw [ran,ServedRegistry.run_observe,seen]
  have taken := ServedRegistry.final_registryControl_mutate platforms action serviceId actor reason
    ⟨s.registry,count+1,steps⟩
  have told := ServedRegistry.answer_registryControl_mutate platforms action serviceId actor reason
    ⟨s.registry,count+1,steps⟩
  have mutated := run_attempt (φ := ControlError)
    (onInner (control.inner.mutate action serviceId actor reason))
    ⟨⟨s.registry,count+1,steps⟩,journal,appended,configFingerprint⟩
  rw [final_onInner,answer_onInner,inner,taken,told] at mutated
  generalize acted : ServedRegistry.take (.request (platforms (count+1) serviceId) action.lifecycle
    serviceId actor reason) ⟨s.registry,count+1,steps⟩=served at mutated
  have after := run_lookAfter control serviceId ⟨served,journal,appended,configFingerprint⟩
  have looks : final ((ServedRegistry.registryControl platforms).snapshots.run served)=
      { served with answered := served.answered+1 } := ServedRegistry.final_observe _ served
  rw [inner,toOption_registryControl_snapshots,looks] at after
  refine ⟨pick serviceId services,
    (ServiceRegistry.snapshots (platforms served.answered) served.registry).toOption.bind
      (pick serviceId),
    answer ((ServiceRegistry.mutate (platforms (count+1) serviceId) action serviceId actor
      reason).run ⟨s.registry,[]⟩),{ served with answered := served.answered+1 },
    s.history++[⟨serviceId,s.registry.lifecycle serviceId,served.registry.lifecycle serviceId⟩],
    ?_,?_⟩
  · subst acted
    simp only [Run.final_cons,Run.final_nil,AuditStep.step,seen,List.getElem?_concat_length,
      List.set_append_right,Nat.le_refl,Nat.sub_self,List.set_cons_zero,
      ServedRegistry.final_mutate]
    rfl
  · unfold mutate
    simp only [lookBefore,EStateM.run_bind,run_map,run_onInner,inner,looked,mutated,after]

end Alone

/-- A look at a service tells its lifecycle, and whether it is there. -/
theorem pick_seen (platforms : String → Platform P E Q) (r : ServiceRegistry P) (sound : r.Sound)
    (services : List ServiceSnapshot)
    (seen : ServiceRegistry.snapshots platforms r=.ok services) (id : String) :
    seenLifecycle (pick id services)=r.lifecycle id ∧
      (pick id services=none ↔ r.services[id]?=none) := by
  obtain ⟨entries,listed⟩ := r.snapshots_entries platforms sound services seen
  unfold ServiceRegistry.lifecycle
  cases found : pick id services with
  | none =>
    have absent : r.services[id]?=none := by
      cases here : r.services[id]? with
      | none => rfl
      | some e =>
        obtain ⟨snapshot,mem,named⟩ := listed id e here
        have other := List.find?_eq_none.mp found snapshot mem
        simp [named] at other
    rw [absent]
    exact ⟨rfl,by simp⟩
  | some snapshot =>
    have named : snapshot.id=id := by simpa using List.find?_some found
    obtain ⟨e,here,shown⟩ := entries snapshot (List.mem_of_find?_eq_some found)
    rw [named] at here
    rw [here]
    exact ⟨(ServiceEntry.snapshot_state _ _ _ shown).1,by simp⟩

/-- What a task knows of its service is still true, or is in the history. -/
def Current (s : AuditedSystem P) : AuditTask → Prop
  | .looked request before =>
    seenLifecycle before=s.registry.lifecycle request.serviceId ∧
      (s.registry.services[request.serviceId]?=none → before=none)
  | .mutated request before _ op =>
    s.history[op]?=some ⟨request.serviceId,seenLifecycle before,
      s.registry.lifecycle request.serviceId⟩ ∧
      (s.registry.services[request.serviceId]?=none → before=none)
  | .observed request before after _ op =>
    s.history[op]?=some ⟨request.serviceId,seenLifecycle before,seenLifecycle (after.or before)⟩
  | .exited event op => ∃applied,s.history[op]?=some applied ∧ applied.serviceId=event.serviceId
  | .finished => True

/-- The invariant: for each service one operation at most waits for its record, and it is the
service's latest. -/
structure Serialized (s : AuditedSystem P) : Prop where
  sound : s.registry.Sound
  current : ∀(n : Nat) (task : AuditTask),s.tasks[n]?=some task → Current s task
  latest : ∀(n : Nat) (task : AuditTask) (op : Nat),s.tasks[n]?=some task → task.unrecorded=some op → ∀entry∈s.records,
    task.serviceId=some entry.1.serviceId → entry.2<op
  alone : ∀(n m : Nat) (task task' : AuditTask),s.tasks[n]?=some task → s.tasks[m]?=some task' →
    task.unrecorded≠none → task'.unrecorded≠none → task.serviceId=task'.serviceId → n=m
  faithful : Faithful s

/-- How a step leaves a service that a task is about. -/
def Untouched (s s' : AuditedSystem P) (id : String) : Prop :=
  s'.registry.lifecycle id=s.registry.lifecycle id ∧
    (s'.registry.services[id]?=none → s.registry.services[id]?=none)

theorem Untouched.refl (s : AuditedSystem P) (id : String) : Untouched s s id := ⟨rfl,fun h => h⟩

theorem untouched_of_lookup {s s' : AuditedSystem P} {id : String}
    (same : s'.registry.services[id]?=s.registry.services[id]?) : Untouched s s' id := by
  refine ⟨?_,fun none => same.symm.trans none⟩
  unfold ServiceRegistry.lifecycle
  rw [same]

theorem Current.keep {s s' : AuditedSystem P} {task : AuditTask} (h : Current s task)
    (grown : ∃more,s'.history=s.history++more)
    (same : ∀id,task.serviceId=some id → Untouched s s' id) : Current s' task := by
  obtain ⟨more,grown⟩ := grown
  have kept (op : Nat) (applied : AppliedOp) (here : s.history[op]?=some applied) :
      s'.history[op]?=some applied := by
    rw [grown,List.getElem?_append_left (List.getElem?_eq_some_iff.mp here).1]
    exact here
  cases task with
  | looked request before =>
    obtain ⟨lifecycle,registered⟩ := same request.serviceId rfl
    exact ⟨h.1.trans lifecycle.symm,fun none => h.2 (registered none)⟩
  | mutated request before outcome op =>
    obtain ⟨lifecycle,registered⟩ := same request.serviceId rfl
    refine ⟨?_,fun none => h.2 (registered none)⟩
    rw [lifecycle]
    exact kept _ _ h.1
  | observed request before after outcome op => exact kept _ _ h
  | exited event op =>
    obtain ⟨applied,here,named⟩ := h
    exact ⟨applied,kept _ _ here,named⟩
  | finished => trivial

theorem Faithful.keep {s s' : AuditedSystem P} (h : Faithful s) (records : s'.records=s.records)
    (grown : ∃more,s'.history=s.history++more) : Faithful s' := by
  obtain ⟨more,grown⟩ := grown
  refine ⟨by rw [records]; exact h.ordered,fun entry mem => ?_⟩
  rw [records] at mem
  obtain ⟨applied,here,rest⟩ := h.states entry mem
  refine ⟨applied,?_,rest⟩
  rw [grown,List.getElem?_append_left (List.getElem?_eq_some_iff.mp here).1]
  exact here

/-- The tasks of `s'` are those of `s`, but for the `k`th. -/
def Differs (s s' : AuditedSystem P) (k : Nat) (task' : AuditTask) : Prop :=
  ∀m task,s'.tasks[m]?=some task → m≠k ∧ s.tasks[m]?=some task ∨ m=k ∧ task=task'

theorem differs_set {s s' : AuditedSystem P} {k : Nat} {task' : AuditTask}
    (tasks : s'.tasks=s.tasks.set k task') : Differs s s' k task' := by
  intro m task here
  rw [tasks,List.getElem?_set] at here
  split_ifs at here with same bound
  · exact .inr ⟨same.symm,(Option.some.inj here).symm⟩
  · exact .inl ⟨fun eq => same eq.symm,here⟩

theorem differs_push {s s' : AuditedSystem P} {task' : AuditTask}
    (tasks : s'.tasks=s.tasks++[task']) : Differs s s' s.tasks.length task' := by
  intro m task here
  rw [tasks,List.getElem?_append] at here
  split_ifs at here with old
  · exact .inl ⟨Nat.ne_of_lt old,here⟩
  · rw [List.getElem?_singleton] at here
    split_ifs at here with last
    exact .inr ⟨by omega,(Option.some.inj here).symm⟩

/-- One task takes a step, and the journal stays as it is. -/
theorem Serialized.put {s s' : AuditedSystem P} (h : Serialized s) {k : Nat} {task' : AuditTask}
    (tasks : Differs s s' k task') (sound : s'.registry.Sound) (records : s'.records=s.records)
    (grown : ∃more,s'.history=s.history++more)
    (others : ∀m task id,m≠k → s.tasks[m]?=some task → task.serviceId=some id → Untouched s s' id)
    (current : Current s' task')
    (latest : ∀op,task'.unrecorded=some op → ∀entry∈s.records,
      task'.serviceId=some entry.1.serviceId → entry.2<op)
    (alone : task'.unrecorded≠none → ∀m task,m≠k → s.tasks[m]?=some task →
      task.unrecorded≠none → task.serviceId≠task'.serviceId) : Serialized s' := by
  refine ⟨sound,?_,?_,?_,h.faithful.keep records grown⟩
  · intro m task here
    rcases tasks m task here with ⟨other,old⟩|⟨-,rfl⟩
    · exact (h.current m task old).keep grown fun id => others m task id other old
    · exact current
  · intro m task op here waits
    rw [records]
    rcases tasks m task here with ⟨-,old⟩|⟨-,rfl⟩
    · exact h.latest m task op old waits
    · exact latest op waits
  · intro n m task task'' first second waits waits' same
    rcases tasks n task first with ⟨other,old⟩|⟨here,rfl⟩
    · rcases tasks m task'' second with ⟨-,old'⟩|⟨-,rfl⟩
      · exact h.alone n m task task'' old old' waits waits' same
      · exact absurd same (alone waits' n task other old waits)
    · rcases tasks m task'' second with ⟨other,old⟩|⟨here',-⟩
      · exact absurd same.symm (alone waits m task'' other old waits')
      · rw [here,here']

theorem op_bound {s : AuditedSystem P} (h : Faithful s) (entry : JournalRecord × Nat)
    (mem : entry∈s.records) : entry.2<s.history.length := by
  obtain ⟨applied,here,-⟩ := h.states entry mem
  exact (List.getElem?_eq_some_iff.mp here).1

theorem differs_same {s s' : AuditedSystem P} (tasks : s'.tasks=s.tasks) :
    Differs s s' s.tasks.length .finished := by
  intro m task here
  rw [tasks] at here
  exact .inl ⟨Nat.ne_of_lt (List.getElem?_eq_some_iff.mp here).1,here⟩

/-- The `n`th task ends without a record. -/
theorem Serialized.finish {s s' : AuditedSystem P} (h : Serialized s) {k : Nat}
    (tasks : Differs s s' k .finished) (registry : s'.registry=s.registry)
    (records : s'.records=s.records) (history : s'.history=s.history) : Serialized s' := by
  refine h.put tasks (by rw [registry]; exact h.sound) records ⟨[],by simp [history]⟩ ?_ trivial
    (fun op waits => by cases waits) (fun waits => absurd rfl waits)
  intro m task id _ _ _
  exact untouched_of_lookup (by rw [registry])

section Steps

variable [ToString E] [ToString Q] {s : AuditedSystem P}

theorem Serialized.look (h : Serialized s) (platforms : String → Platform P E Q)
    (request : AuditedRequest) : Serialized ((AuditStep.look platforms request).step s) := by
  cases seen : ServiceRegistry.snapshots platforms s.registry with
  | error error => simpa only [AuditStep.step,seen] using h
  | ok services =>
    simp only [AuditStep.step,seen]
    obtain ⟨lifecycle,registered⟩ :=
      pick_seen platforms s.registry h.sound services seen request.serviceId
    refine h.put (differs_push rfl) h.sound rfl ⟨[],by simp⟩ ?_ ?_ ?_ ?_
    · intro m task id _ _ _
      exact Untouched.refl s id
    · exact ⟨lifecycle,registered.mpr⟩
    · intro op waits
      cases waits
    · intro waits
      exact absurd rfl waits

theorem Serialized.apply (h : Serialized s) (n : Nat) (platform : Platform P E Q)
    (calm : Undisturbed s (AuditStep.apply n platform)) :
    Serialized ((AuditStep.apply n platform).step s) := by
  cases here : s.tasks[n]? with
  | none => simpa only [AuditStep.step,here] using h
  | some task =>
    cases task with
    | looked request before =>
      have quiet : ¬s.Busy request.serviceId (some n) := by
        apply calm
        simp [awaited,here]
      obtain ⟨seen,registered⟩ := h.current n _ here
      simp only [AuditStep.step,here,ServedRegistry.final_mutate]
      have lookup (id : String) := RegistryOp.lookup_request platform request.action.lifecycle
        request.serviceId request.actor request.reason s.registry id
      unfold RegistryOp.step at lookup
      have other (m : Nat) (task : AuditTask) (id : String) (ne : m≠n)
          (there : s.tasks[m]?=some task) (about : task.serviceId=some id) :
          request.serviceId≠id := by
        intro same
        exact quiet (busy_of_task there (fun eq => ne (Option.some.inj eq)) (by rw [about,same]))
      refine h.put (differs_set rfl) (RegistryOp.sound_step _ _ h.sound) rfl ⟨_,rfl⟩ ?_ ?_ ?_ ?_
      · intro m task id ne there about
        apply untouched_of_lookup
        rw [lookup,if_neg (other m task id ne there about)]
      · refine ⟨?_,fun none => registered ?_⟩
        · rw [seen]
          simp
        · rw [lookup,if_pos rfl] at none
          exact Option.map_eq_none_iff.mp none
      · intro op waits entry mem _
        cases waits
        exact op_bound h.faithful entry mem
      · intro _ m task ne there _ about
        exact other m task request.serviceId ne there about rfl
    | _ => simpa only [AuditStep.step,here] using h

theorem Serialized.observe (h : Serialized s) (n : Nat) (platforms : String → Platform P E Q)
    (calm : Undisturbed s (AuditStep.observe n platforms)) :
    Serialized ((AuditStep.observe n platforms).step s) := by
  cases here : s.tasks[n]? with
  | none => simpa only [AuditStep.step,here] using h
  | some task =>
    cases task with
    | mutated request before outcome op =>
      obtain ⟨services,seen⟩ : ∃services,
          ServiceRegistry.snapshots platforms s.registry=.ok services := by
        have looked : (ServiceRegistry.snapshots platforms s.registry).isOk := calm
        cases seen : ServiceRegistry.snapshots platforms s.registry with
        | ok services => exact ⟨services,rfl⟩
        | error error => simp [seen,Except.isOk,Except.toBool] at looked
      simp only [AuditStep.step,here,seen]
      obtain ⟨lifecycle,registered⟩ :=
        pick_seen platforms s.registry h.sound services seen request.serviceId
      obtain ⟨applied,known⟩ := h.current n _ here
      have after : seenLifecycle ((pick request.serviceId services).or before)=
          s.registry.lifecycle request.serviceId := by
        cases found : pick request.serviceId services with
        | some snapshot =>
          rw [found] at lifecycle
          exact lifecycle
        | none =>
          rw [found] at lifecycle
          rw [known (registered.mp found)]
          exact lifecycle
      refine h.put (differs_set rfl) h.sound rfl ⟨[],by simp⟩ ?_ ?_ ?_ ?_
      · intro m task id _ _ _
        exact Untouched.refl s id
      · simp only [Except.toOption,Option.bind_some,Current]
        rw [after]
        exact applied
      · intro op' waits
        cases waits
        exact h.latest n (.mutated request before outcome op) op here rfl
      · intro _ m task ne there waits same
        have unrecorded : (AuditTask.mutated request before outcome op).unrecorded≠none := by
          intro recorded
          cases recorded
        exact ne (h.alone m n task _ there here waits unrecorded same)
    | _ => simpa only [AuditStep.step,here] using h

theorem Serialized.refresh (h : Serialized s) (platform : Platform P E Q) (serviceId : String)
    (calm : Undisturbed s (AuditStep.refresh platform serviceId)) :
    Serialized ((AuditStep.refresh platform serviceId).step s) := by
  have lookup := RegistryOp.lookup_refresh platform serviceId s.registry
  have sound := RegistryOp.sound_step (RegistryOp.refresh platform serviceId) _ h.sound
  have elsewhere (id : String) (other : serviceId≠id) :
      ((RegistryOp.refresh platform serviceId).step s.registry).services[id]?=
        s.registry.services[id]? := by
    rw [lookup,if_neg other]
  cases exit : (RegistryOp.refresh platform serviceId).exit s.registry with
  | none =>
    simp only [AuditStep.step,exit]
    refine h.put (differs_same rfl) sound rfl ⟨[],by simp⟩ ?_ trivial
      (fun op waits => by cases waits) (fun waits => absurd rfl waits)
    intro m task id _ there about
    by_cases same : serviceId=id
    · subst same
      refine ⟨(calm (busy_of_task there nofun about)).2,fun none => ?_⟩
      rw [lookup,if_pos rfl] at none
      exact Option.map_eq_none_iff.mp none
    · exact untouched_of_lookup (elsewhere id same)
  | some event =>
    have quiet : ¬s.Busy serviceId none := by
      intro busy
      rw [(calm busy).1] at exit
      cases exit
    have named := RegistryOp.exit_serviceId platform serviceId s.registry
      (h.sound.keyed serviceId) (h.sound.consistent serviceId) event exit
    have other (m : Nat) (task : AuditTask) (id : String) (there : s.tasks[m]?=some task)
        (about : task.serviceId=some id) : serviceId≠id := by
      intro same
      exact quiet (busy_of_task there nofun (by rw [about,same]))
    simp only [AuditStep.step,exit]
    refine h.put (differs_push rfl) sound rfl ⟨_,rfl⟩ ?_ ?_ ?_ ?_
    · intro m task id _ there about
      exact untouched_of_lookup (elsewhere id (other m task id there about))
    · simp only [Current]
      exact ⟨_,List.getElem?_concat_length,named.symm⟩
    · intro op waits entry mem _
      cases waits
      exact op_bound h.faithful entry mem
    · intro _ m task _ there _ about
      exact other m task event.serviceId there about named.symm

/-- What the record of a task says. -/
theorem pendingRecord_cases (stamp : RecordStamp) (task : AuditTask) (written : JournalRecord)
    (op : Nat) (waits : AuditStep.pendingRecord stamp task=some (written,op))
    (current : Current s task) :
    task.unrecorded=some op ∧ task.serviceId=some written.serviceId ∧
      ∃applied,s.history[op]?=some applied ∧ applied.serviceId=written.serviceId ∧
        (written.action≠.processExit → written.previousState=applied.previous ∧
          written.resultingState=applied.resulting) := by
  cases task with
  | observed request before after outcome op' =>
    simp only [AuditStep.pendingRecord,Option.some.injEq,Prod.mk.injEq] at waits
    obtain ⟨rfl,rfl⟩ := waits
    exact ⟨rfl,rfl,_,current,rfl,fun _ => ⟨rfl,rfl⟩⟩
  | exited event op' =>
    unfold AuditStep.pendingRecord at waits
    cases made : exitReason event with
    | error error => simp [made] at waits
    | ok reason =>
      simp only [made,Option.some.injEq,Prod.mk.injEq] at waits
      obtain ⟨rfl,rfl⟩ := waits
      obtain ⟨applied,here,named⟩ := current
      exact ⟨rfl,rfl,applied,here,named,fun other => absurd rfl other⟩
  | _ => cases waits

theorem Serialized.record (h : Serialized s) (n : Nat) (stamp : RecordStamp) (durable : Bool) :
    Serialized ((AuditStep.record n stamp durable : AuditStep P E Q).step s) := by
  cases waits : s.tasks[n]?.bind (AuditStep.pendingRecord stamp) with
  | none => simpa only [AuditStep.step,waits] using h
  | some pending =>
    obtain ⟨written,op⟩ := pending
    cases durable with
    | false =>
      simp only [AuditStep.step,waits,if_neg Bool.false_ne_true]
      exact h.finish (differs_set rfl) rfl rfl rfl
    | true =>
      simp only [AuditStep.step,waits,if_pos]
      obtain ⟨task,here,told⟩ := Option.bind_eq_some_iff.mp waits
      obtain ⟨unrecorded,about,applied,known,named,states⟩ :=
        pendingRecord_cases stamp task written op told (h.current n task here)
      have before (entry : JournalRecord × Nat) (mem : entry∈s.records)
          (same : entry.1.serviceId=written.serviceId) : entry.2<op := by
        exact h.latest n task op here unrecorded entry mem (by rw [about,same])
      have finished : Serialized { s with tasks := s.tasks.set n .finished } :=
        h.finish (differs_set rfl) rfl rfl rfl
      refine ⟨h.sound,finished.current,?_,finished.alone,⟨?_,?_⟩⟩
      · intro m task' op' there waits' entry mem same
        rcases List.mem_append.mp mem with old|new
        · exact finished.latest m task' op' there waits' entry old same
        · rcases differs_set rfl m task' there with ⟨ne,there⟩|⟨-,rfl⟩
          · cases List.mem_singleton.mp new
            have alone := h.alone m n task' task there here (by rw [waits']; nofun)
              (by rw [unrecorded]; nofun) (by rw [same,about]; rfl)
            exact absurd alone ne
          · cases waits'
      · intro id
        rw [List.filter_append,List.map_append,List.pairwise_append]
        refine ⟨h.faithful.ordered id,?_,?_⟩
        · exact (List.pairwise_singleton _ _).sublist (List.filter_sublist.map Prod.snd)
        · intro op₁ first op₂ second
          obtain ⟨entry,mem,rfl⟩ := List.mem_map.mp first
          obtain ⟨entry',mem',rfl⟩ := List.mem_map.mp second
          obtain ⟨old,one⟩ := List.mem_filter.mp mem
          obtain ⟨new,two⟩ := List.mem_filter.mp mem'
          cases List.mem_singleton.mp new
          have one : entry.1.serviceId=id := by simpa using one
          have two : (s.journal.numbered written).serviceId=id := by simpa using two
          exact before entry old (one.trans two.symm)
      · intro entry mem
        rcases List.mem_append.mp mem with old|new
        · exact h.faithful.states entry old
        · cases List.mem_singleton.mp new
          exact ⟨applied,known,named,states⟩

theorem Serialized.lose (h : Serialized s) (n : Nat) :
    Serialized ((AuditStep.lose n : AuditStep P E Q).step s) := by
  cases here : s.tasks[n]? with
  | none => simpa only [AuditStep.step,here] using h
  | some task =>
    cases task with
    | exited event op =>
      simp only [AuditStep.step,here]
      exact h.finish (differs_set rfl) rfl rfl rfl
    | _ => simpa only [AuditStep.step,here] using h

theorem serialized_step (move : AuditStep P E Q) (h : Serialized s) (calm : Undisturbed s move) :
    Serialized (move.step s) := by
  cases move with
  | look platforms request => exact h.look platforms request
  | apply n platform => exact h.apply n platform calm
  | observe n platforms => exact h.observe n platforms calm
  | refresh platform serviceId => exact h.refresh platform serviceId calm
  | record n stamp durable => exact h.record n stamp durable
  | lose n => exact h.lose n

theorem serialized_new (r : ServiceRegistry P) (sound : r.Sound) (journal : FileJournal) :
    Serialized (new r journal) := by
  refine ⟨sound,?_,?_,?_,⟨?_,?_⟩⟩ <;> simp [new]

/-- The records of a service are in the order of its operations, and those of mutations tell its
lifecycles, as long as no call and no exit of a service meets another one that is still without its
record. -/
theorem audit_faithful (r : ServiceRegistry P) (reached : RegistryOp.Reachable E Q r)
    (journal : FileJournal) (moves : List (AuditStep P E Q))
    (calm : Run.Along AuditStep.step Undisturbed moves (new r journal)) :
    Faithful (Run.final AuditStep.step moves (new r journal)) := by
  have keeps : Run.Keeps AuditStep.step Undisturbed (Serialized (P := P)) :=
    fun _ (move : AuditStep P E Q) h calm => serialized_step move h calm
  exact (keeps.final (serialized_new r reached.sound journal) calm).faithful

section Fixture

def fixtureCall (action : ControlAction) (serviceId : String) : AuditedRequest :=
  ⟨action,serviceId,.userCli,fixtureReason⟩

def fixtureStamp : RecordStamp := ⟨"unix-ms:0","1-0","sha256:0"⟩

def fixtureSystem : AuditedSystem Nat :=
  new (fixtureRegistry [fixture "api" "Api",fixture "worker" "Worker"]) ⟨"journal.jsonl",1,[]⟩

theorem reachable_fixtureSystem : RegistryOp.Reachable Unit Unit fixtureSystem.registry :=
  .new [fixture "api" "Api",fixture "worker" "Worker"] _ _ rfl

/-- Every process has exited. -/
def exitedPlatform : Platform Nat Unit Unit :=
  { fixturePlatform with
    ownedPids := fun _ _ => .ok []
    tryWait := fun _ => .ok (some ⟨some 1⟩) }

/-- Calls on two services interleave, and the exit of one of them comes after its record. -/
def neighbouringCalls : List (AuditStep Nat Unit Unit) :=
  [.look (fun _ => fixturePlatform) (fixtureCall .start "api"),
    .look (fun _ => fixturePlatform) (fixtureCall .start "worker"),
    .apply 1 fixturePlatform,.apply 0 fixturePlatform,
    .observe 0 fun _ => fixturePlatform,.record 0 fixtureStamp true,
    .refresh exitedPlatform "api",
    .observe 1 fun _ => fixturePlatform,.record 2 fixtureStamp true,.record 1 fixtureStamp true]

theorem audit_faithful_neighbours :
    Faithful (Run.final AuditStep.step neighbouringCalls fixtureSystem) :=
  audit_faithful _ reachable_fixtureSystem _ neighbouringCalls (by decide +kernel)

/-- A start that is applied before a stop of the same service, and recorded after it. -/
def crossingCalls : List (AuditStep Nat Unit Unit) :=
  [.look (fun _ => fixturePlatform) (fixtureCall .start "api"),
    .look (fun _ => fixturePlatform) (fixtureCall .stop "api"),
    .apply 0 fixturePlatform,.apply 1 fixturePlatform,
    .observe 1 fun _ => fixturePlatform,.record 1 fixtureStamp true,
    .observe 0 fun _ => fixturePlatform,.record 0 fixtureStamp true]

/-- The journal has the stop first, and says that it found the service stopped. -/
theorem crossingCalls_unfaithful :
    ¬∀(r : ServiceRegistry Nat) (journal : FileJournal) (moves : List (AuditStep Nat Unit Unit)),
      RegistryOp.Reachable Unit Unit r →
      Faithful (Run.final AuditStep.step moves (new r journal)) := by
  intro claim
  have ordered := (claim _ fixtureSystem.journal crossingCalls reachable_fixtureSystem).ordered "api"
  revert ordered
  decide +kernel

end Fixture

end Steps

end AuditedSystem

end AkuSupervisor
