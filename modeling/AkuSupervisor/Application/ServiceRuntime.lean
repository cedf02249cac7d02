import AkuSupervisor.Lib.StateError
import AkuSupervisor.Domain.Lifecycle
import AkuSupervisor.Application.PlatformPorts

namespace AkuSupervisor

/-- Result of a serialized start request. -/
inductive StartOutcome where
  | started
  | alreadyRunning
  deriving DecidableEq

/-- Result of a serialized stop request. -/
inductive StopOutcome where
  | stopped
  | terminationPending
  | alreadyStopped
  deriving DecidableEq

/-- Result of a serialized restart request. -/
inductive RestartOutcome where
  | restarted
  | terminationPending
  | started
  deriving DecidableEq

/-- Whether a platform stop completed synchronously or remains ownership-bound. -/
inductive StopProgress where
  | complete
  | terminationPending
  deriving DecidableEq

structure RuntimeState (P : Type) where
  lifecycle : LifecycleState
  process : Option P

/-- Failure from the per-service lifecycle serialization boundary. -/
inductive ServiceRuntimeError (E : Type) where
  | poisoned
  | transition (error : TransitionError)
  | start (error : E)
  | stop (error : E)
  | inspect (error : E)

/-- The state under the service lock, and whatever the callbacks act on. -/
structure RuntimeSys (σ P : Type) where
  inner : RuntimeState P
  outer : σ

/-- An operation under the service lock. What it did before an error stays done. -/
abbrev RuntimeM (σ P E : Type) := EStateM (ServiceRuntimeError E) (RuntimeSys σ P)

namespace ServiceRuntime

variable {σ P E α : Type}

def new : RuntimeState P := ⟨.stopped,none⟩

def hasProcess (inner : RuntimeState P) : Bool := inner.process.isSome

def moveTo (next : LifecycleState) : RuntimeM σ P E Unit := fun s =>
  match s.inner.lifecycle.transitionTo next with
  | .ok lifecycle => .ok () { s with inner := { s.inner with lifecycle } }
  | .error error => .error (.transition error) s

def setProcess (process : Option P) : RuntimeM σ P E Unit :=
  modify fun s => { s with inner := { s.inner with process } }

def inner : RuntimeM σ P E (RuntimeState P) := return (← get).inner

def call (callback : StateM σ α) : RuntimeM σ P E α := fun s =>
  .ok (callback s.outer).1 { s with outer := (callback s.outer).2 }

/-- Applies a current health observation without changing process ownership. -/
def applyHealth (healthy : Bool) : RuntimeM σ P E Unit := do
  let state ← inner
  let requested := if healthy then LifecycleState.running else .unhealthy
  if state.process.isSome ∧ (state.lifecycle=.running ∨ state.lifecycle=.unhealthy) ∧
      state.lifecycle≠requested then
    moveTo requested

/-- Releases a retained owner only when the platform observation proves the tree has exited. -/
def reconcileExitWith (observe : P → StateM σ (Except E (Option ExitStatus))) :
    RuntimeM σ P E (Option ExitStatus) := do
  match (← inner).process with
  | none => return none
  | some process =>
    match ← call (observe process) with
    | .error error => throw (.inspect error)
    | .ok none => return none
    | .ok (some status) =>
      setProcess none
      if (← inner).lifecycle=.terminationPending then moveTo .stopped
      else if (← inner).lifecycle≠.failed then moveTo .failed
      return some status

/-- Starts the service exactly once while concurrent mutations serialize. -/
def startWith (spawn : StateM σ (Except E P)) : RuntimeM σ P E StartOutcome := do
  if (← inner).process.isSome then return .alreadyRunning
  moveTo .starting
  match ← call spawn with
  | .ok process =>
    setProcess (some process)
    moveTo .running
    return .started
  | .error error =>
    moveTo .failed
    throw (.start error)

/-- Stops the retained process owner. A failed stop keeps the ownership boundary. -/
def stopWith (stop : P → StateM σ (Except E StopProgress)) : RuntimeM σ P E StopOutcome := do
  match (← inner).process with
  | none =>
    if (← inner).lifecycle=.failed then
      moveTo .stopped
      return .stopped
    return .alreadyStopped
  | some process =>
    moveTo .stopping
    match ← call (stop process) with
    | .ok .complete =>
      setProcess none
      moveTo .stopped
      return .stopped
    | .ok .terminationPending =>
      moveTo .terminationPending
      return .terminationPending
    | .error error =>
      moveTo .failed
      throw (.stop error)

/-- The replacement half of a restart, after any previous owner is gone. -/
def relaunch (hadProcess : Bool) (spawn : StateM σ (Except E P)) :
    RuntimeM σ P E RestartOutcome := do
  moveTo .starting
  match ← call spawn with
  | .ok process =>
    setProcess (some process)
    moveTo .running
    return if hadProcess then .restarted else .started
  | .error error =>
    moveTo .failed
    throw (.start error)

/-- Stops any retained owner and starts its replacement under one lock. -/
def restartWith (stop : P → StateM σ (Except E StopProgress)) (spawn : StateM σ (Except E P)) :
    RuntimeM σ P E RestartOutcome := do
  match (← inner).process with
  | none => relaunch false spawn
  | some process =>
    moveTo .stopping
    match ← call (stop process) with
    | .ok .complete =>
      setProcess none
      moveTo .stopped
      relaunch true spawn
    | .ok .terminationPending =>
      moveTo .terminationPending
      return .terminationPending
    | .error error =>
      moveTo .failed
      throw (.stop error)

/-- At rest without an owner. -/
def Idle (s : RuntimeState P) : Prop :=
  s.process=none ∧ (s.lifecycle=.stopped ∨ s.lifecycle=.failed)

/-- At rest while retaining the owner `process`. -/
def Owned (process : P) (s : RuntimeState P) : Prop :=
  s.process=some process ∧ (s.lifecycle=.running ∨ s.lifecycle=.unhealthy ∨
    s.lifecycle=.failed ∨ s.lifecycle=.terminationPending)

/-- The rest states: the lifecycle says whether an owner is retained. -/
def Consistent (s : RuntimeState P) : Prop := Idle s ∨ ∃process,Owned process s

@[simp] theorem run_inner (s : RuntimeSys σ P) :
    EStateM.run (inner : RuntimeM σ P E _) s=.ok s.inner s := rfl

@[simp] theorem run_setProcess (process : Option P) (s : RuntimeSys σ P) :
    EStateM.run (setProcess process : RuntimeM σ P E _) s=
      .ok () ⟨⟨s.inner.lifecycle,process⟩,s.outer⟩ := rfl

@[simp] theorem run_call (callback : StateM σ α) (s : RuntimeSys σ P) :
    EStateM.run (call callback : RuntimeM σ P E _) s=
      .ok (callback s.outer).1 ⟨s.inner,(callback s.outer).2⟩ := rfl

theorem run_moveTo (next : LifecycleState) (s : RuntimeSys σ P) :
    EStateM.run (moveTo next : RuntimeM σ P E _) s=
      if s.inner.lifecycle.canTransitionTo next then .ok () ⟨⟨next,s.inner.process⟩,s.outer⟩
      else .error (.transition ⟨s.inner.lifecycle,next⟩) s := by
  cases h : s.inner.lifecycle.canTransitionTo next <;>
    simp [EStateM.run,moveTo,LifecycleState.transitionTo,h]

section Operations

variable (spawn : StateM σ (Except E P)) (stop : P → StateM σ (Except E StopProgress))
  (observe : P → StateM σ (Except E (Option ExitStatus))) (s : RuntimeSys σ P)

/-- The end of a launch from a state without an owner, for start and restart alike. -/
def launched {α : Type} (outcome : α) (answer : Except E P × σ) :
    EStateM.Result (ServiceRuntimeError E) (RuntimeSys σ P) α :=
  match answer with
  | (.ok process,outer) => .ok outcome ⟨⟨.running,some process⟩,outer⟩
  | (.error error,outer) => .error (.start error) ⟨⟨.failed,none⟩,outer⟩

theorem startWith_owned (process : P) (h : s.inner.process=some process) :
    (startWith spawn).run s=.ok .alreadyRunning s := by
  simp [startWith,h]

theorem startWith_idle (h : Idle s.inner) :
    (startWith spawn).run s=launched .started (spawn s.outer) := by
  obtain ⟨⟨lifecycle,process⟩,outer⟩ := s
  obtain ⟨rfl,hl⟩ := h
  rcases answer : spawn outer with ⟨result,outer'⟩
  rcases hl with rfl|rfl <;> cases result <;>
    simp [startWith,launched,run_moveTo,LifecycleState.canTransitionTo,answer]

theorem relaunch_idle (hadProcess : Bool) (h : Idle s.inner) :
    (relaunch hadProcess spawn).run s=
      launched (if hadProcess then .restarted else .started) (spawn s.outer) := by
  obtain ⟨⟨lifecycle,process⟩,outer⟩ := s
  obtain ⟨rfl,hl⟩ := h
  rcases answer : spawn outer with ⟨result,outer'⟩
  rcases hl with rfl|rfl <;> cases result <;>
    simp [relaunch,launched,run_moveTo,LifecycleState.canTransitionTo,answer]

theorem stopWith_idle (h : Idle s.inner) :
    (stopWith stop : RuntimeM σ P E _).run s=
      .ok (if s.inner.lifecycle=.failed then .stopped else .alreadyStopped)
        ⟨⟨.stopped,none⟩,s.outer⟩ := by
  obtain ⟨⟨lifecycle,process⟩,outer⟩ := s
  obtain ⟨rfl,hl⟩ := h
  rcases hl with rfl|rfl <;>
    simp [stopWith,run_moveTo,LifecycleState.canTransitionTo]

/-- The end of a stop that reached the owner. -/
def halted (process : P) (answer : Except E StopProgress × σ) :
    EStateM.Result (ServiceRuntimeError E) (RuntimeSys σ P) StopOutcome :=
  match answer with
  | (.ok .complete,outer) => .ok .stopped ⟨⟨.stopped,none⟩,outer⟩
  | (.ok .terminationPending,outer) =>
    .ok .terminationPending ⟨⟨.terminationPending,some process⟩,outer⟩
  | (.error error,outer) => .error (.stop error) ⟨⟨.failed,some process⟩,outer⟩

theorem stopWith_owned (process : P) (h : Owned process s.inner) :
    (stopWith stop).run s=halted process (stop process s.outer) := by
  obtain ⟨⟨lifecycle,owner⟩,outer⟩ := s
  obtain ⟨rfl,hl⟩ := h
  rcases answer : stop process outer with ⟨result,outer'⟩
  rcases hl with rfl|rfl|rfl|rfl <;> rcases result with error|(_|_) <;>
    simp [stopWith,halted,run_moveTo,LifecycleState.canTransitionTo,answer]

theorem restartWith_idle (h : Idle s.inner) :
    (restartWith stop spawn).run s=launched .started (spawn s.outer) := by
  simpa [restartWith,h.1] using relaunch_idle spawn s false h

theorem restartWith_owned (process : P) (h : Owned process s.inner) :
    (restartWith stop spawn).run s=
      match stop process s.outer with
      | (.ok .complete,outer) => launched .restarted (spawn outer)
      | (.ok .terminationPending,outer) =>
        .ok .terminationPending ⟨⟨.terminationPending,some process⟩,outer⟩
      | (.error error,outer) => .error (.stop error) ⟨⟨.failed,some process⟩,outer⟩ := by
  obtain ⟨⟨lifecycle,owner⟩,outer⟩ := s
  obtain ⟨rfl,hl⟩ := h
  rcases answer : stop process outer with ⟨result,outer'⟩
  have replace := relaunch_idle spawn (⟨⟨.stopped,none⟩,outer'⟩ : RuntimeSys σ P) true
    ⟨rfl,.inl rfl⟩
  rcases hl with rfl|rfl|rfl|rfl <;> rcases result with error|(_|_) <;>
    simp [restartWith,run_moveTo,LifecycleState.canTransitionTo,answer,replace]

/-- Health moves a retained owner between `running` and `unhealthy` and nothing else. -/
def withHealth (healthy : Bool) (state : RuntimeState P) : RuntimeState P :=
  if state.process.isSome ∧ (state.lifecycle=.running ∨ state.lifecycle=.unhealthy) then
    { state with lifecycle := if healthy then .running else .unhealthy }
  else state

theorem run_applyHealth (healthy : Bool) :
    (applyHealth healthy : RuntimeM σ P E _).run s=
      .ok () ⟨withHealth healthy s.inner,s.outer⟩ := by
  obtain ⟨⟨lifecycle,process⟩,outer⟩ := s
  cases process <;> cases lifecycle <;> cases healthy <;>
    simp [applyHealth,withHealth,run_moveTo,LifecycleState.canTransitionTo]

theorem reconcileExitWith_idle (h : s.inner.process=none) :
    (reconcileExitWith observe).run s=.ok none s := by
  simp [reconcileExitWith,h]

theorem reconcileExitWith_owned (process : P) (h : Owned process s.inner) :
    (reconcileExitWith observe).run s=
      match observe process s.outer with
      | (.ok (some status),outer) =>
        .ok (some status)
          ⟨⟨if s.inner.lifecycle=.terminationPending then .stopped else .failed,none⟩,outer⟩
      | (.ok none,outer) => .ok none ⟨s.inner,outer⟩
      | (.error error,outer) => .error (.inspect error) ⟨s.inner,outer⟩ := by
  obtain ⟨⟨lifecycle,owner⟩,outer⟩ := s
  obtain ⟨rfl,hl⟩ := h
  rcases answer : observe process outer with ⟨result,outer'⟩
  rcases hl with rfl|rfl|rfl|rfl <;> rcases result with error|(_|status) <;>
    simp [reconcileExitWith,run_moveTo,LifecycleState.canTransitionTo,answer]

end Operations

theorem withHealth_process (healthy : Bool) (state : RuntimeState P) :
    (withHealth healthy state).process=state.process := by
  unfold withHealth
  split_ifs <;> rfl

theorem Owned.withHealth (healthy : Bool) (state : RuntimeState P) (process : P)
    (h : Owned process state) : Owned process (withHealth healthy state) := by
  refine ⟨(withHealth_process healthy state).trans h.1,?_⟩
  unfold ServiceRuntime.withHealth
  split_ifs with moves healthy
  · exact .inl rfl
  · exact .inr (.inl rfl)
  · exact h.2

theorem Idle.withHealth (healthy : Bool) (state : RuntimeState P) (h : Idle state) :
    withHealth healthy state=state := by
  simp [ServiceRuntime.withHealth,h.1]

theorem Consistent.withHealth (healthy : Bool) (state : RuntimeState P) (h : Consistent state) :
    Consistent (withHealth healthy state) := by
  rcases h with idle|⟨process,owned⟩
  · rw [idle.withHealth healthy state]
    exact .inl idle
  · exact .inr ⟨process,owned.withHealth healthy state⟩

end ServiceRuntime

end AkuSupervisor
