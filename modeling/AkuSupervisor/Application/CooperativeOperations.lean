import AkuSupervisor.Application.CooperativeActions
import AkuSupervisor.Lib.FifoStore
import AkuSupervisor.Lib.Run

namespace AkuSupervisor

def retainedOperations : Nat := 128

inductive CooperativeOperationStatus where
  | running
  | completed
  | failed
  deriving DecidableEq

structure CooperativeOperationSnapshot where
  requestId : String
  target : String
  action : String
  actor : Actor
  reason : Reason
  status : CooperativeOperationStatus
  stage : CooperativeActionStage
  relayActionId : Option String
  expectedBuildId : Option String
  observedBuildId : Option String
  errorCategory : Option String
  message : String
  deriving DecidableEq

inductive CooperativeOperationError where
  | notFound
  | idempotencyConflict
  | actionInProgress (requestId : String)
  | workerSpawn (message : String)
  | poisoned
  deriving DecidableEq

def CooperativeOperationError.display : CooperativeOperationError → String
  | .notFound => "cooperative operation was not found"
  | .idempotencyConflict => "requestId was already used with different input"
  | .actionInProgress requestId => s!"cooperative action is already active: {requestId}"
  | .workerSpawn message => s!"failed to start operation worker: {message}"
  | .poisoned => "cooperative operation registry is poisoned"

namespace CooperativeOperationSnapshot

/-- The record of an operation that has just been accepted. -/
def accepted (target requestId : String) (actor : Actor) (reason : Reason) :
    CooperativeOperationSnapshot where
  requestId
  target
  action := "reload_self"
  actor
  reason
  status := .running
  stage := .requested
  relayActionId := none
  expectedBuildId := none
  observedBuildId := none
  errorCategory := none
  message := "authenticated cooperative reload operation accepted"

def progressed (operation : CooperativeOperationSnapshot) (update : CooperativeActionProgress) :
    CooperativeOperationSnapshot :=
  { operation with
    stage := update.stage
    relayActionId := update.relayActionId.or operation.relayActionId
    expectedBuildId := update.expectedBuildId.or operation.expectedBuildId
    observedBuildId := update.observedBuildId.or operation.observedBuildId
    message := update.message }

def finished (operation : CooperativeOperationSnapshot)
    (result : Except CooperativeActionError CooperativeActionOutcome) :
    CooperativeOperationSnapshot :=
  match result with
  | .ok outcome =>
    { operation with
      status := .completed
      stage := .completed
      relayActionId := outcome.relayActionId
      expectedBuildId := outcome.expectedBuildId
      observedBuildId := outcome.observedBuildId
      message := outcome.message }
  | .error error =>
    { operation with
      status := .failed
      stage := .failed
      relayActionId := operation.relayActionId.or error.relayActionId
      observedBuildId := operation.observedBuildId.or error.observedBuildId
      errorCategory := some error.category
      message := error.message }

@[simp] theorem progressed_status (operation : CooperativeOperationSnapshot)
    (update : CooperativeActionProgress) :
    (operation.progressed update).status=operation.status := rfl

theorem finished_status (operation : CooperativeOperationSnapshot)
    (result : Except CooperativeActionError CooperativeActionOutcome) :
    (operation.finished result).status≠.running := by
  cases result <;> simp [finished]

end CooperativeOperationSnapshot

structure OperationState where
  operations : Std.ExtTreeMap String CooperativeOperationSnapshot
  order : List String
  activeRequestId : Option String

/-- What the first section of `begin` finds under the lock. -/
inductive Admission where
  | replayed (existing : CooperativeOperationSnapshot)
  | refused (error : CooperativeOperationError)
  | inserted

namespace OperationState

def default : OperationState := ⟨∅,[],none⟩

/-- Nothing comes out where the eviction loop would not end. -/
def insert (s : OperationState) (operation : CooperativeOperationSnapshot) :
    Option OperationState :=
  (FifoStore.evict retainedOperations s.order s.operations).map fun kept =>
    { s with
      operations := kept.entries.insert operation.requestId operation
      order := kept.order++[operation.requestId] }

/-- `begin` up to the start of the worker: it replays or rejects the request, or accepts it. -/
def beginLocked (s : OperationState) (target : String) (actor : Actor) (reason : Reason)
    (requestId : String) : Option (Admission × OperationState) :=
  match s.operations[requestId]? with
  | some existing =>
    if existing.actor=actor ∧ existing.reason=reason then some (.replayed existing,s)
    else some (.refused .idempotencyConflict,s)
  | none =>
    match s.activeRequestId with
    | some active => some (.refused (.actionInProgress active),s)
    | none =>
      (insert { s with activeRequestId := some requestId }
        (.accepted target requestId actor reason)).map fun after => (.inserted,after)

/-- `begin` after a worker that could not be started. -/
def withdraw (s : OperationState) (requestId error : String) :
    CooperativeOperationError × OperationState :=
  (.workerSpawn error,
    ⟨s.operations.erase requestId,s.order.filter (·≠requestId),none⟩)

def get (s : OperationState) (requestId : String) :
    Except CooperativeOperationError CooperativeOperationSnapshot :=
  match s.operations[requestId]? with
  | some operation => .ok operation
  | none => .error .notFound

def updateProgress (s : OperationState) (requestId : String) (update : CooperativeActionProgress) :
    OperationState :=
  match s.operations[requestId]? with
  | some operation =>
    { s with operations := s.operations.insert requestId (operation.progressed update) }
  | none => s

/-- `execute` after the action has ended. -/
def complete (s : OperationState) (requestId : String)
    (result : Except CooperativeActionError CooperativeActionOutcome) : OperationState :=
  match s.operations[requestId]? with
  | some operation =>
    { s with
      operations := s.operations.insert requestId (operation.finished result)
      activeRequestId := if s.activeRequestId=some requestId then none else s.activeRequestId }
  | none => s

end OperationState

namespace OperationState

variable {s : OperationState} {target requestId : String} {actor : Actor} {reason : Reason}

abbrev store (s : OperationState) : FifoStore String CooperativeOperationSnapshot :=
  ⟨s.operations,s.order⟩

/-- What an accepted request leaves behind: its record is new, it is active, and at most the oldest
of the other records is gone. -/
structure Accepted (s : OperationState) (target : String) (actor : Actor) (reason : Reason)
    (requestId : String) (after : OperationState) : Prop where
  sound : FifoStore.Sound retainedOperations after.store
  active : after.activeRequestId=some requestId
  record : after.operations[requestId]?=some (.accepted target requestId actor reason)
  others : ∀key,requestId≠key →
    after.operations[key]?=s.operations[key]? ∨ after.operations[key]?=none

theorem beginLocked_held {existing : CooperativeOperationSnapshot}
    (held : s.operations[requestId]?=some existing) :
    s.beginLocked target actor reason requestId=
      if existing.actor=actor ∧ existing.reason=reason then some (.replayed existing,s)
      else some (.refused .idempotencyConflict,s) := by
  rw [beginLocked,held]

theorem beginLocked_busy {flying : String} (new : s.operations[requestId]?=none)
    (busy : s.activeRequestId=some flying) :
    s.beginLocked target actor reason requestId=some (.refused (.actionInProgress flying),s) := by
  rw [beginLocked,new,busy]

theorem beginLocked_new (target requestId : String) (actor : Actor) (reason : Reason)
    (sound : FifoStore.Sound retainedOperations s.store)
    (new : s.operations[requestId]?=none) (idle : s.activeRequestId=none) :
    ∃after,s.beginLocked target actor reason requestId=some (.inserted,after) ∧
      Accepted s target actor reason requestId after := by
  have some_room : 0 < retainedOperations := by decide
  have absent : requestId∉s.store.entries := by
    intro held
    obtain ⟨operation,known⟩ := (FifoStore.mem_entries _ _).mp held
    rw [new] at known
    cases known
  have admitted : s.beginLocked target actor reason requestId=
      (s.store.store retainedOperations requestId (.accepted target requestId actor reason)).map
        fun stored => (.inserted,⟨stored.entries,stored.order,some requestId⟩) := by
    rw [beginLocked,new,idle,FifoStore.store,if_neg absent,Option.map_map]
    simp only [insert,Option.map_map]
    rfl
  obtain ⟨stored,known⟩ := Option.isSome_iff_exists.mp (sound.store_isSome
    (v := CooperativeOperationSnapshot.accepted target requestId actor reason) some_room
    (k := requestId))
  rw [known] at admitted
  refine ⟨_,admitted,sound.store some_room known,rfl,?_,fun key other => ?_⟩
  · rcases sound.store_new some_room absent with ⟨-,first⟩|⟨oldest,order,-,-,first⟩
    · rw [known] at first
      cases first
      exact (FifoStore.lookup_insert ..).trans (if_pos rfl)
    · rw [known] at first
      cases first
      exact (FifoStore.lookup_insert ..).trans (if_pos rfl)
  · rcases sound.store_new some_room absent with ⟨-,first⟩|⟨oldest,order,-,-,first⟩
    · rw [known] at first
      cases first
      exact .inl ((FifoStore.lookup_insert ..).trans (if_neg other))
    · rw [known] at first
      cases first
      have kept := (FifoStore.lookup_insert (k := requestId)
        (v := CooperativeOperationSnapshot.accepted target requestId actor reason)
        (s.operations.erase oldest) key).trans (if_neg other)
      rw [FifoStore.lookup_erase] at kept
      by_cases gone : oldest=key
      · exact .inr (kept.trans (if_pos gone))
      · exact .inl (kept.trans (if_neg gone))

end OperationState

/-- The shared state with the threads around it: the requests whose worker is about to be started,
those whose worker is inside the action, and every call of the action so far. -/
structure CooperativeRun where
  state : OperationState
  spawning : List String
  workers : List String
  executions : List String

/-- A call of `begin` takes the lock, starts its worker or fails to, a worker reports progress, its
action ends with a result, or with a panic that leaves the record as it is. -/
inductive CooperativeMove where
  | begin (actor : Actor) (reason : Reason) (requestId : String)
  | spawn (requestId : String)
  | spawnFails (requestId error : String)
  | progress (requestId : String) (update : CooperativeActionProgress)
  | complete (requestId : String)
      (result : Except CooperativeActionError CooperativeActionOutcome)
  | panics (requestId : String)

namespace CooperativeRun

def start : CooperativeRun := ⟨.default,[],[],[]⟩

/-- A move whose thread is not there leaves everything as it is. -/
def advance (target : String) (move : CooperativeMove) (s : CooperativeRun) : CooperativeRun :=
  match move with
  | .begin actor reason requestId =>
    match s.state.beginLocked target actor reason requestId with
    | some (.inserted,after) => { s with state := after, spawning := requestId::s.spawning }
    | some (_,after) => { s with state := after }
    | none => s
  | .spawn requestId =>
    if requestId∈s.spawning then
      { s with
        spawning := s.spawning.erase requestId
        workers := requestId::s.workers
        executions := requestId::s.executions }
    else s
  | .spawnFails requestId error =>
    if requestId∈s.spawning then
      { s with
        state := (s.state.withdraw requestId error).2
        spawning := s.spawning.erase requestId }
    else s
  | .progress requestId update =>
    if requestId∈s.workers then { s with state := s.state.updateProgress requestId update } else s
  | .complete requestId result =>
    if requestId∈s.workers then
      { s with
        state := s.state.complete requestId result
        workers := s.workers.erase requestId }
    else s
  | .panics requestId =>
    if requestId∈s.workers then { s with workers := s.workers.erase requestId } else s

def after (target : String) (moves : List CooperativeMove) : CooperativeRun :=
  Run.final (advance target) moves start

/-- The active request is the one that runs, and the one a thread may stand for. -/
structure SingleFlight (s : CooperativeRun) : Prop where
  sound : FifoStore.Sound retainedOperations s.state.store
  running : ∀id record,s.state.operations[id]?=some record → record.status=.running →
    s.state.activeRequestId=some id
  active : ∀id,s.state.activeRequestId=some id →
    ∃record,s.state.operations[id]?=some record ∧ record.status=.running
  thread : s.spawning++s.workers=[] ∨
    ∃id,s.spawning++s.workers=[id] ∧ s.state.activeRequestId=some id

theorem start_singleFlight : SingleFlight start where
  sound := FifoStore.sound_empty
  running id record held _ := by
    rw [start,OperationState.default,Std.ExtTreeMap.getElem?_empty] at held
    cases held
  active id none_active := by cases none_active
  thread := .inl rfl

/-- What a move does to a state in which at most one request flies. -/
inductive Effect (target : String) (s : CooperativeRun) : CooperativeMove → CooperativeRun → Prop
  | idle (move : CooperativeMove) : Effect target s move s
  | accepted (actor : Actor) (reason : Reason) (id : String) (after : OperationState)
      (new : s.state.operations[id]?=none) (idle : s.state.activeRequestId=none)
      (threads : s.spawning=[] ∧ s.workers=[])
      (accepted : s.state.Accepted target actor reason id after) :
      Effect target s (.begin actor reason id) ⟨after,[id],[],s.executions⟩
  | spawned (id : String) (active : s.state.activeRequestId=some id)
      (threads : s.spawning=[id] ∧ s.workers=[]) :
      Effect target s (.spawn id) ⟨s.state,[],[id],id::s.executions⟩
  | withdrawn (id error : String) (active : s.state.activeRequestId=some id)
      (threads : s.spawning=[id] ∧ s.workers=[]) :
      Effect target s (.spawnFails id error) ⟨(s.state.withdraw id error).2,[],[],s.executions⟩
  | progressed (id : String) (update : CooperativeActionProgress)
      (record : CooperativeOperationSnapshot) (active : s.state.activeRequestId=some id)
      (threads : s.spawning=[] ∧ s.workers=[id])
      (held : s.state.operations[id]?=some record) (flies : record.status=.running) :
      Effect target s (.progress id update)
        { s with state := { s.state with
          operations := s.state.operations.insert id (record.progressed update) } }
  | finished (id : String) (result : Except CooperativeActionError CooperativeActionOutcome)
      (record : CooperativeOperationSnapshot) (active : s.state.activeRequestId=some id)
      (threads : s.spawning=[] ∧ s.workers=[id])
      (held : s.state.operations[id]?=some record) (flies : record.status=.running) :
      Effect target s (.complete id result)
        ⟨⟨s.state.operations.insert id (record.finished result),s.state.order,none⟩,[],[],
          s.executions⟩
  | panicked (id : String) (active : s.state.activeRequestId=some id)
      (threads : s.spawning=[] ∧ s.workers=[id]) :
      Effect target s (.panics id) ⟨s.state,[],[],s.executions⟩

variable {target : String} {s : CooperativeRun}

theorem SingleFlight.spawning (flight : SingleFlight s) (id : String) (mem : id∈s.spawning) :
    s.state.activeRequestId=some id ∧ s.spawning=[id] ∧ s.workers=[] := by
  rcases flight.thread with nobody|⟨flying,alone,active⟩
  · rw [(List.append_eq_nil_iff.mp nobody).1] at mem
    cases mem
  · rcases List.append_eq_singleton_iff.mp alone with ⟨none_waits,one_works⟩|⟨one_waits,none_works⟩
    · rw [none_waits] at mem
      cases mem
    · rw [one_waits,List.mem_singleton] at mem
      subst mem
      exact ⟨active,one_waits,none_works⟩

theorem SingleFlight.workers (flight : SingleFlight s) (id : String) (mem : id∈s.workers) :
    s.state.activeRequestId=some id ∧ s.spawning=[] ∧ s.workers=[id] := by
  rcases flight.thread with nobody|⟨flying,alone,active⟩
  · rw [(List.append_eq_nil_iff.mp nobody).2] at mem
    cases mem
  · rcases List.append_eq_singleton_iff.mp alone with ⟨none_waits,one_works⟩|⟨one_waits,none_works⟩
    · rw [one_works,List.mem_singleton] at mem
      subst mem
      exact ⟨active,none_waits,one_works⟩
    · rw [none_works] at mem
      cases mem

theorem SingleFlight.idle (flight : SingleFlight s) (idle : s.state.activeRequestId=none) :
    s.spawning=[] ∧ s.workers=[] := by
  rcases flight.thread with nobody|⟨flying,-,active⟩
  · exact List.append_eq_nil_iff.mp nobody
  · rw [idle] at active
    cases active

theorem SingleFlight.effect (flight : SingleFlight s) (target : String) (move : CooperativeMove) :
    Effect target s move (advance target move s) := by
  cases move with
  | begin actor reason id =>
    simp only [advance]
    cases held : s.state.operations[id]? with
    | some existing =>
      rw [OperationState.beginLocked_held held]
      by_cases same : existing.actor=actor ∧ existing.reason=reason
      · rw [if_pos same]
        exact .idle _
      · rw [if_neg same]
        exact .idle _
    | none =>
      cases busy : s.state.activeRequestId with
      | some flying =>
        rw [OperationState.beginLocked_busy held busy]
        exact .idle _
      | none =>
        obtain ⟨after,admitted,accepted⟩ := OperationState.beginLocked_new target id actor
          reason flight.sound held busy
        have threads := flight.idle busy
        rw [admitted,threads.1,threads.2]
        exact .accepted actor reason id after held busy threads accepted
  | spawn id =>
    simp only [advance]
    by_cases here : id∈s.spawning
    · obtain ⟨active,threads⟩ := flight.spawning id here
      rw [if_pos here,threads.1,threads.2,List.erase_cons_head]
      exact .spawned id active threads
    · rw [if_neg here]
      exact .idle _
  | spawnFails id error =>
    simp only [advance]
    by_cases here : id∈s.spawning
    · obtain ⟨active,threads⟩ := flight.spawning id here
      rw [if_pos here,threads.1,threads.2,List.erase_cons_head]
      exact .withdrawn id error active threads
    · rw [if_neg here]
      exact .idle _
  | progress id update =>
    simp only [advance]
    by_cases here : id∈s.workers
    · obtain ⟨active,threads⟩ := flight.workers id here
      obtain ⟨record,held,flies⟩ := flight.active id active
      rw [if_pos here,OperationState.updateProgress,held]
      exact .progressed id update record active threads held flies
    · rw [if_neg here]
      exact .idle _
  | complete id result =>
    simp only [advance]
    by_cases here : id∈s.workers
    · obtain ⟨active,threads⟩ := flight.workers id here
      obtain ⟨record,held,flies⟩ := flight.active id active
      rw [if_pos here,OperationState.complete,held]
      simp only [active,threads.1,threads.2,List.erase_cons_head,if_true]
      exact .finished id result record active threads held flies
    · rw [if_neg here]
      exact .idle _
  | panics id =>
    simp only [advance]
    by_cases here : id∈s.workers
    · obtain ⟨active,threads⟩ := flight.workers id here
      rw [if_pos here,threads.1,threads.2,List.erase_cons_head]
      exact .panicked id active threads
    · rw [if_neg here]
      exact .idle _

namespace Effect

variable {after : CooperativeRun} {move : CooperativeMove} {id : String}
  {record later : CooperativeOperationSnapshot}

theorem singleFlight (effect : Effect target s move after) (flight : SingleFlight s) :
    SingleFlight after := by
  cases effect with
  | idle => exact flight
  | accepted actor reason id after new idle threads accepted =>
    refine ⟨accepted.sound,fun key record held flies => ?_,fun key active => ?_,?_⟩
    · by_cases same : id=key
      · exact same ▸ accepted.active
      · rcases accepted.others key same with kept|gone
        · have active := flight.running key record (kept ▸ held) flies
          rw [idle] at active
          cases active
        · rw [gone] at held
          cases held
    · have same := accepted.active.symm.trans active
      cases same
      exact ⟨_,accepted.record,rfl⟩
    · exact .inr ⟨id,rfl,accepted.active⟩
  | spawned id active threads =>
    exact ⟨flight.sound,flight.running,flight.active,.inr ⟨id,rfl,active⟩⟩
  | withdrawn id error active threads =>
    refine ⟨flight.sound.remove,fun key record held flies => ?_,fun key active' => ?_,.inl rfl⟩
    · have lookup := (FifoStore.lookup_erase s.state.operations key).symm.trans held
      by_cases same : id=key
      · rw [if_pos same] at lookup
        cases lookup
      · rw [if_neg same] at lookup
        have active' := flight.running key record lookup flies
        rw [active] at active'
        cases active'
        exact absurd rfl same
    · cases active'
  | progressed id update record active threads held flies =>
    have mem := (FifoStore.mem_entries _ _).mpr ⟨record,held⟩
    refine ⟨flight.sound.update mem,fun key record' held' flies' => ?_,fun key active' => ?_,
      flight.thread⟩
    · have lookup := (FifoStore.lookup_insert s.state.operations key).symm.trans held'
      by_cases same : id=key
      · exact same ▸ active
      · rw [if_neg same] at lookup
        exact flight.running key record' lookup flies'
    · cases active.symm.trans active'
      exact ⟨_,(FifoStore.lookup_insert ..).trans (if_pos rfl),flies⟩
  | finished id result record active threads held flies =>
    have mem := (FifoStore.mem_entries _ _).mpr ⟨record,held⟩
    refine ⟨flight.sound.update mem,fun key record' held' flies' => ?_,fun key active' => ?_,
      .inl rfl⟩
    · have lookup := (FifoStore.lookup_insert s.state.operations key).symm.trans held'
      by_cases same : id=key
      · rw [if_pos same] at lookup
        cases lookup
        exact absurd flies' (record.finished_status result)
      · rw [if_neg same] at lookup
        have active' := flight.running key record' lookup flies'
        rw [active] at active'
        cases active'
        exact absurd rfl same
    · cases active'
  | panicked id active threads => exact ⟨flight.sound,flight.running,flight.active,.inl rfl⟩

/-- A move changes no record but the active one. -/
theorem frame (effect : Effect target s move after) (held : s.state.operations[id]?=some record)
    (inactive : s.state.activeRequestId≠some id) :
    after.state.operations[id]?=some record ∨ after.state.operations[id]?=none := by
  have apart {flying : String} (active : s.state.activeRequestId=some flying) : flying≠id := by
    intro same
    exact inactive (same ▸ active)
  cases effect with
  | idle => exact .inl held
  | accepted actor reason new after absent idle threads accepted =>
    have other : new≠id := by
      intro same
      rw [same,held] at absent
      cases absent
    rcases accepted.others id other with kept|gone
    · exact .inl (kept.trans held)
    · exact .inr gone
  | spawned => exact .inl held
  | withdrawn flying error active threads =>
    exact .inl ((FifoStore.lookup_erase ..).trans ((if_neg (apart active)).trans held))
  | progressed flying update record' active threads held' flies =>
    exact .inl ((FifoStore.lookup_insert ..).trans ((if_neg (apart active)).trans held))
  | finished flying result record' active threads held' flies =>
    exact .inl ((FifoStore.lookup_insert ..).trans ((if_neg (apart active)).trans held))
  | panicked => exact .inl held

/-- The active record stays, unless its worker could not be started. -/
theorem kept (effect : Effect target s move after) (held : s.state.operations[id]?=some record)
    (active : s.state.activeRequestId=some id) (other : ∀error,move≠.spawnFails id error) :
    ∃later,after.state.operations[id]?=some later ∧ later.actor=record.actor ∧
      later.reason=record.reason := by
  cases effect with
  | idle => exact ⟨record,held,rfl,rfl⟩
  | accepted actor reason new after absent idle =>
    rw [idle] at active
    cases active
  | spawned => exact ⟨record,held,rfl,rfl⟩
  | withdrawn flying error active' =>
    cases active.symm.trans active'
    exact absurd rfl (other error)
  | progressed flying update record' active' threads held' =>
    cases active.symm.trans active'
    cases held.symm.trans held'
    exact ⟨_,(FifoStore.lookup_insert ..).trans (if_pos rfl),rfl,rfl⟩
  | finished flying result record' active' threads held' =>
    cases active.symm.trans active'
    cases held.symm.trans held'
    refine ⟨_,(FifoStore.lookup_insert ..).trans (if_pos rfl),?_⟩
    cases result with
    | ok => exact ⟨rfl,rfl⟩
    | error => exact ⟨rfl,rfl⟩
  | panicked => exact ⟨record,held,rfl,rfl⟩

theorem withdrawn_gone (error : String) (effect : Effect target s (.spawnFails id error) after) :
    after=s ∨ after.state.operations[id]?=none := by
  cases effect with
  | idle => exact .inl rfl
  | withdrawn => exact .inr ((FifoStore.lookup_erase ..).trans (if_pos rfl))

/-- As long as a record is held, it keeps who asked for it and why. -/
theorem author (effect : Effect target s move after)
    (held : s.state.operations[id]?=some record)
    (still : after.state.operations[id]?=some later) :
    later.actor=record.actor ∧ later.reason=record.reason := by
  by_cases active : s.state.activeRequestId=some id
  · by_cases own : ∃error,move=.spawnFails id error
    · obtain ⟨error,rfl⟩ := own
      rcases effect.withdrawn_gone error with rfl|gone
      · cases held.symm.trans still
        exact ⟨rfl,rfl⟩
      · rw [gone] at still
        cases still
    · obtain ⟨later',found,same⟩ := effect.kept held active (fun error here => own ⟨error,here⟩)
      cases found.symm.trans still
      exact same
  · rcases effect.frame held active with kept|gone
    · cases kept.symm.trans still
      exact ⟨rfl,rfl⟩
    · rw [gone] at still
      cases still

/-- While the record of a request is held, only the thread that waits to be started can execute the
request. -/
theorem executions (effect : Effect target s move after) (held : id∈s.state.operations) :
    after.executions.count id+after.spawning.count id≤
      s.executions.count id+s.spawning.count id := by
  cases effect with
  | idle => exact Nat.le_refl _
  | accepted actor reason new after absent =>
    have other : new≠id := by
      intro same
      obtain ⟨record,found⟩ := (FifoStore.mem_entries _ _).mp held
      rw [same,found] at absent
      cases absent
    rw [List.count_cons_of_ne other,List.count_nil]
    exact Nat.le_add_right _ _
  | spawned flying active threads =>
    rw [threads.1,List.count_nil,List.count_cons,List.count_cons,List.count_nil]
    omega
  | withdrawn flying error active threads =>
    rw [List.count_nil]
    exact Nat.le_add_right _ _
  | progressed => exact Nat.le_refl _
  | finished flying result record active threads =>
    rw [List.count_nil]
    exact Nat.le_add_right _ _
  | panicked flying active threads =>
    rw [List.count_nil]
    exact Nat.le_add_right _ _

end Effect

theorem beginLocked_accepted {actor : Actor} {reason : Reason} {id : String}
    {inserted : OperationState} (flight : SingleFlight s)
    (admitted : s.state.beginLocked target actor reason id=some (.inserted,inserted)) :
    s.state.Accepted target actor reason id inserted := by
  cases held : s.state.operations[id]? with
  | some existing =>
    rw [OperationState.beginLocked_held held] at admitted
    split at admitted <;> cases admitted
  | none =>
    cases busy : s.state.activeRequestId with
    | some flying =>
      rw [OperationState.beginLocked_busy held busy] at admitted
      cases admitted
    | none =>
      obtain ⟨after,known,accepted⟩ := OperationState.beginLocked_new target id actor
        reason flight.sound held busy
      cases known.symm.trans admitted
      exact accepted

theorem beginLocked_isSome (flight : SingleFlight s) (actor : Actor) (reason : Reason)
    (id : String) :
    (s.state.beginLocked target actor reason id).isSome=true := by
  cases held : s.state.operations[id]? with
  | some existing =>
    rw [OperationState.beginLocked_held held]
    split <;> rfl
  | none =>
    cases busy : s.state.activeRequestId with
    | some flying =>
      rw [OperationState.beginLocked_busy held busy]
      rfl
    | none =>
      obtain ⟨after,known,-⟩ := OperationState.beginLocked_new target id actor
        reason flight.sound held busy
      rw [known]
      rfl

def Retained (id : String) (s : CooperativeRun) (_ : CooperativeMove) : Prop :=
  id∈s.state.operations

instance (id : String) (s : CooperativeRun) (move : CooperativeMove) :
    Decidable (Retained id s move) :=
  inferInstanceAs (Decidable (id∈s.state.operations))

theorem SingleFlight.step (target : String) (s : CooperativeRun) (move : CooperativeMove)
    (flight : SingleFlight s) : SingleFlight (advance target move s) :=
  (flight.effect target move).singleFlight flight

theorem singleFlight_after (target : String) (moves : List CooperativeMove) :
    SingleFlight (after target moves) :=
  Run.always SingleFlight (SingleFlight.step target) moves start_singleFlight

/-- While the record of a request is held, the request is executed at most as often as threads wait
to be started for it. -/
theorem executions_while_retained (target id : String) (later : List CooperativeMove)
    (flight : SingleFlight s) (retained : Run.Along (advance target) (Retained id) later s) :
    (Run.final (advance target) later s).executions.count id≤
      s.executions.count id+s.spawning.count id := by
  induction later generalizing s with
  | nil => exact Nat.le_add_right _ _
  | cons move later ih =>
    have step := (flight.effect target move).executions retained.1
    have rest := ih (flight.step target s move) retained.2
    exact Nat.le_trans rest step

theorem SingleFlight.count_spawning (flight : SingleFlight s) (id : String) :
    s.spawning.count id≤1 := by
  by_cases here : id∈s.spawning
  · rw [(flight.spawning id here).2.1,List.count_singleton]
    split <;> omega
  · rw [List.count_eq_zero_of_not_mem here]
    omega

/-- A record that is held throughout keeps who asked for it and why. -/
theorem author_while_retained (target id : String) (later : List CooperativeMove)
    (flight : SingleFlight s) (retained : Run.Along (advance target) (Retained id) later s)
    {record last : CooperativeOperationSnapshot} (held : s.state.operations[id]?=some record)
    (still : (Run.final (advance target) later s).state.operations[id]?=some last) :
    last.actor=record.actor ∧ last.reason=record.reason := by
  induction later generalizing s record with
  | nil =>
    cases held.symm.trans still
    exact ⟨rfl,rfl⟩
  | cons move later ih =>
    have next : ∃middle,(advance target move s).state.operations[id]?=some middle := by
      cases later with
      | nil => exact ⟨last,still⟩
      | cons => exact (FifoStore.mem_entries _ _).mp retained.2.1
    obtain ⟨middle,found⟩ := next
    have step := (flight.effect target move).author held found
    have rest := ih (flight.step target s move) retained.2 found still
    exact ⟨rest.1.trans step.1,rest.2.trans step.2⟩

/-- A record in a terminal state stays as it is as long as it is held. -/
theorem terminal_while_retained (target id : String) (later : List CooperativeMove)
    (flight : SingleFlight s) (retained : Run.Along (advance target) (Retained id) later s)
    {record last : CooperativeOperationSnapshot} (held : s.state.operations[id]?=some record)
    (terminal : record.status≠.running)
    (still : (Run.final (advance target) later s).state.operations[id]?=some last) :
    last=record := by
  induction later generalizing s with
  | nil =>
    cases held.symm.trans still
    rfl
  | cons move later ih =>
    have inactive : s.state.activeRequestId≠some id := by
      intro active
      obtain ⟨flying,found,flies⟩ := flight.active id active
      cases held.symm.trans found
      exact terminal flies
    rcases (flight.effect target move).frame held inactive with kept|gone
    · exact ih (flight.step target s move) retained.2 kept still
    · cases later with
      | nil =>
        rw [Run.final_cons,Run.final_nil,gone] at still
        cases still
      | cons next =>
        obtain ⟨found,here⟩ := (FifoStore.mem_entries _ _).mp retained.2.1
        rw [gone] at here
        cases here

/-- After any moves: a held record runs exactly if its request is the active one, and only a failed
start of its own worker removes it; a request is executed at most once while its record is held, and
a repeated one gets that record or, with another actor or reason, a conflict; the store keeps its
bound and its queue; and a record in a terminal state stays as it is. -/
theorem cooperative_operations_single_flight (target : String) (moves : List CooperativeMove) :
    ∃s,after target moves=s ∧
      (∀id record,s.state.operations[id]?=some record →
        (record.status=.running ↔ s.state.activeRequestId=some id)) ∧
      (∀id,s.state.activeRequestId=some id → id∈s.state.operations) ∧
      (∀id record move,s.state.operations[id]?=some record → record.status=.running →
        (∀error,move≠.spawnFails id error) → id∈(advance target move s).state.operations) ∧
      (∀id later,Run.Along (advance target) (Retained id) later s →
        (Run.final (advance target) later s).executions.count id≤ s.executions.count id+1) ∧
      (∀actor reason id inserted,
        s.state.beginLocked target actor reason id=some (.inserted,inserted) →
        ∀later,Run.Along (advance target) (Retained id) later
            (advance target (.begin actor reason id) s) →
          ∃t,Run.final (advance target) later (advance target (.begin actor reason id) s)=t ∧
            ∀existing,t.state.operations[id]?=some existing → ∀actor' reason',
              t.state.beginLocked target actor' reason' id=
                if actor'=actor ∧ reason'=reason then some (.replayed existing,t.state)
                else some (.refused .idempotencyConflict,t.state)) ∧
      (s.state.operations.size≤128 ∧ s.state.order.Nodup ∧
        ∀id,id∈s.state.order ↔ id∈s.state.operations) ∧
      (∀id record,s.state.operations[id]?=some record → record.status≠.running →
        ∀later last,Run.Along (advance target) (Retained id) later s →
          (Run.final (advance target) later s).state.operations[id]?=some last → last=record) ∧
      (∀actor reason id,(s.state.beginLocked target actor reason id).isSome=true) := by
  have flight := singleFlight_after target moves
  refine ⟨_,rfl,?_,?_,?_,?_,?_,?_,?_,?_⟩
  · intro id record held
    constructor
    · exact flight.running id record held
    · intro active
      obtain ⟨flying,found,flies⟩ := flight.active id active
      cases held.symm.trans found
      exact flies
  · intro id active
    obtain ⟨record,held,-⟩ := flight.active id active
    exact (FifoStore.mem_entries _ _).mpr ⟨record,held⟩
  · intro id record move held flies other
    have active := flight.running id record held flies
    obtain ⟨later,kept,-⟩ := (flight.effect target move).kept held active other
    exact (FifoStore.mem_entries _ _).mpr ⟨later,kept⟩
  · intro id later retained
    have bound := executions_while_retained target id later flight retained
    have waiting := flight.count_spawning id
    omega
  · intro actor reason id inserted admitted later retained
    refine ⟨_,rfl,fun existing still actor' reason' => ?_⟩
    have accepted := beginLocked_accepted flight admitted
    have begun : (advance target (.begin actor reason id) (after target moves)).state=inserted := by
      simp only [advance,admitted]
    have same := author_while_retained target id later (flight.step target _ _) retained
      (begun ▸ accepted.record) still
    rw [OperationState.beginLocked_held still,same.1,same.2]
    exact if_congr (and_congr eq_comm eq_comm) rfl rfl
  · exact ⟨flight.sound.bounded,flight.sound.nodup,flight.sound.keys⟩
  · intro id record held terminal later last retained still
    exact terminal_while_retained target id later flight retained held terminal still
  · intro actor reason id
    exact beginLocked_isSome flight actor reason id

end CooperativeRun

end AkuSupervisor
