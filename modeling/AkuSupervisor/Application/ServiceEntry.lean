import AkuSupervisor.Application.ServiceRuntime
import AkuSupervisor.Application.Supervision

namespace AkuSupervisor

/-- Platform-neutral definition of one validated, registered service. -/
structure ServiceRegistration where
  id : String
  label : String
  launch : LaunchSpec
  dependencies : List String
  startupPrerequisites : List TransportCheck
  health : HealthCheckSpec
  restartPolicy : ServiceRestartPolicy
  ports : List UInt16
  shutdownGrace : Nat
  deriving DecidableEq

/-- One terminal owned-tree observation. -/
structure ProcessExitEvent where
  serviceId : String
  previousState : LifecycleState
  ownedPidsBefore : List Nat
  exitCode : Option Int
  successful : Bool
  automaticRestartPlanned : Bool
  deferredRestartPlanned : Bool
  deriving DecidableEq

/-- Result of one periodic service reconciliation. -/
structure ServiceRefresh where
  health : HealthSnapshot
  processExit : Option ProcessExitEvent
  deriving DecidableEq

/-- Stop outcome plus owned-tree shutdown evidence when a process was present. -/
structure ServiceStopResult where
  outcome : StopOutcome
  shutdown : Option TreeStopReport
  deriving DecidableEq

/-- Restart outcome plus shutdown evidence for the replaced process tree. -/
structure ServiceRestartResult where
  outcome : RestartOutcome
  shutdown : Option TreeStopReport
  deriving DecidableEq

/-- Most recent accepted lifecycle request for one service. -/
structure LastAction where
  action : LifecycleAction
  actor : Actor
  reason : Reason
  deriving DecidableEq

/-- Read-only service state returned to every control adapter. -/
structure ServiceSnapshot where
  id : String
  label : String
  dependsOn : List String
  ports : List UInt16
  lifecycle : LifecycleState
  rootPid : Option Nat
  ownedPids : List Nat
  ownedProcesses : List ProcessIdentity
  health : HealthSnapshot
  desiredState : DesiredState
  startedAtUnixMs : Option Nat
  lastExitCode : Option Int
  lastExitAtUnixMs : Option Nat
  restartCount : Nat
  operatorHold : OperatorHold
  lastAction : Option LastAction
  deriving DecidableEq

/-- Platform failure that occurs inside a serialized lifecycle callback. -/
inductive BackendOperationError (E Q : Type) where
  | process (error : E)
  | startupPrerequisite (index : Nat) (detail : String)
  | portInspection (port : UInt16) (source : Q)
  | portConflict (port : UInt16) (occupants : List PortOccupant)

/-- Shared lifecycle operation failure returned to control adapters. -/
inductive RegistryError (E Q : Type) where
  | serviceNotFound (serviceId : String)
  | unauthorized (error : AuthorizationError)
  | lockPoisoned
  | transition (error : TransitionError)
  | internalState
  | observation (error : E)
  | healthFailed (detail : String)
  | runtime (error : ServiceRuntimeError (BackendOperationError E Q))

structure ControlState where
  policy : ControlPolicy
  lastAction : Option LastAction
  deriving DecidableEq

/-- One registered service: the per-entry locks of the source guard these fields one by one. -/
structure ServiceEntry (P : Type) where
  registration : ServiceRegistration
  runtime : RuntimeState P
  control : ControlState
  health : HealthSnapshot
  supervision : SupervisionState

def ServiceEntry.new {P : Type} (registration : ServiceRegistration) : ServiceEntry P :=
  ⟨registration,ServiceRuntime.new,⟨ControlPolicy.default,none⟩,HealthSnapshot.unknown,
    SupervisionState.new⟩

/-- An entry under its mutation lock, with the log of the calls made so far. -/
structure EntrySys (P E : Type) where
  entry : ServiceEntry P
  calls : List (TreeCall P E)

/-- An operation on one entry, made while its mutation lock is held. -/
abbrev EntryM (P E Q : Type) := EStateM (RegistryError E Q) (EntrySys P E)

namespace ServiceEntry

variable {P E Q α F : Type}

def get : EntryM P E Q (ServiceEntry P) := return (← MonadState.get).entry

def update (f : ServiceEntry P → ServiceEntry P) : EntryM P E Q Unit :=
  modify fun s => { s with entry := f s.entry }

def log (call : TreeCall P E) : EntryM P E Q Unit :=
  modify fun s => { s with calls := s.calls++[call] }

def liftExcept (x : Except (RegistryError E Q) α) : EntryM P E Q α :=
  match x with
  | .ok a => pure a
  | .error e => throw e

/-- Runs an operation of the entry's runtime; its callbacks append to the same log. -/
def withRuntime (mapError : ServiceRuntimeError F → RegistryError E Q)
    (x : RuntimeM (List (TreeCall P E)) P F α) : EntryM P E Q α := fun s =>
  match x.run ⟨s.entry.runtime,s.calls⟩ with
  | .ok a t => .ok a ⟨{ s.entry with runtime := t.inner },t.outer⟩
  | .error e t => .error (mapError e) ⟨{ s.entry with runtime := t.inner },t.outer⟩

/-- Time between two health or prerequisite probes. -/
def pollInterval : Nat := fromMillis 100

/-- A pause is never empty while time is left, so a wait loop comes closer to its deadline. -/
theorem pause_advances (deadline elapsed lag : Nat) (left : ¬deadline≤elapsed+lag) :
    deadline-(elapsed+lag+min pollInterval (deadline-(elapsed+lag)))<deadline-elapsed := by
  have pause : 0 < min pollInterval (deadline-(elapsed+lag)) :=
    Nat.lt_min.mpr ⟨by decide,by omega⟩
  omega

/-- One prerequisite's probe loop. -/
def waitUntilPrerequisite (platform : Platform P E Q) (index : Nat) (check : TransportCheck)
    (attempt : Nat) (elapsed : Nat) : Except (BackendOperationError E Q) Unit :=
  let lag := platform.lag (index+1) attempt
  let remaining := check.spec.startupDeadline-(elapsed+lag.1)
  let observation := platform.probe (index+1) attempt check.spec (min check.timeout remaining)
  if observation.healthy then .ok ()
  else if check.spec.startupDeadline≤elapsed+(lag.1+lag.2) then
    .error (.startupPrerequisite index observation.detail)
  else
    waitUntilPrerequisite platform index check (attempt+1) (elapsed+(lag.1+lag.2)+
      min pollInterval (check.spec.startupDeadline-(elapsed+(lag.1+lag.2))))
termination_by check.spec.startupDeadline-elapsed
decreasing_by exact pause_advances _ _ _ (by assumption)

def waitUntilStartupPrerequisites (platform : Platform P E Q) (entry : ServiceEntry P) :
    Except (BackendOperationError E Q) Unit :=
  entry.registration.startupPrerequisites.zipIdx.forM fun prerequisite =>
    waitUntilPrerequisite platform prerequisite.2 prerequisite.1 0 0

def ensurePortsAvailable (platform : Platform P E Q) (ports : List UInt16) :
    Except (BackendOperationError E Q) Unit :=
  ports.zipIdx.forM fun (port,index) =>
    match platform.inspectTcpPort index port with
    | .error source => .error (.portInspection port source)
    | .ok diagnostic =>
      if diagnostic.isAvailable then .ok () else .error (.portConflict port diagnostic.occupants)

/-- The spawn callback of start and restart. The launcher is reached only past both checks. -/
def launch (platform : Platform P E Q) (entry : ServiceEntry P) :
    StateM (List (TreeCall P E)) (Except (BackendOperationError E Q) P) := fun calls =>
  match (do
    waitUntilStartupPrerequisites platform entry
    ensurePortsAvailable platform entry.registration.ports) with
  | .error error => (.error error,calls)
  | .ok () =>
    let answer := platform.spawn entry.registration.id entry.registration.launch
    (answer.mapError .process,
      calls++[.spawn entry.registration.id entry.registration.launch answer])

/-- The stop callback of stop and restart. -/
def halt (platform : Platform P E Q) (grace : Nat) (process : P) :
    StateM (List (TreeCall P E)) (Except (BackendOperationError E Q) StopProgress) := fun calls =>
  let answer := platform.stop process grace
  ((answer.mapError .process).map fun report =>
      if report.isComplete then .complete else .terminationPending,
    calls++[.stop process grace answer])

/-- The report the stop callback saves before it returns, if it got one. -/
def shutdownReport (platform : Platform P E Q) (entry : ServiceEntry P) : Option TreeStopReport :=
  entry.runtime.process.bind fun process =>
    (platform.stop process entry.registration.shutdownGrace).toOption

def awaitExit (platform : Platform P E Q) (process : P) :
    StateM (List (TreeCall P E)) (Except E (Option ExitStatus)) := fun calls =>
  (platform.tryWait process,calls++[.tryWait process (platform.tryWait process)])

def mapObservationError : ServiceRuntimeError E → RegistryError E Q
  | .poisoned => .lockPoisoned
  | .transition error => .transition error
  | .inspect error => .observation error
  | .start _ | .stop _ => .internalState

def mapHealthError : ServiceRuntimeError Unit → RegistryError E Q
  | .poisoned => .lockPoisoned
  | .transition error => .transition error
  | _ => .internalState

/-- The retained tree's processes, or none at all when nothing is retained. -/
def ownedPids (platform : Platform P E Q) (attempt : Nat) (entry : ServiceEntry P) :
    Except (RegistryError E Q) (List Nat) :=
  match entry.runtime.process with
  | none => .ok []
  | some process => (platform.ownedPids attempt process).mapError .observation

/-- Whether a transport is known to be down when the process tree itself is not ready. -/
def transportDown (check : HealthCheckSpec) : Option Bool :=
  if check=.process then none else some false

def healthObservation (platform : Platform P E Q) (attempt : Nat) (timeoutCap : Option Nat)
    (processReady : Bool) (entry : ServiceEntry P) : HealthSnapshot :=
  let now := platform.unixMilliseconds
  let check := entry.registration.health
  if !ServiceRuntime.hasProcess entry.runtime then .unknown
  else if !processReady then
    .unhealthy now false (transportDown check) "owned process tree is not ready"
  else
    match check.timeout with
    | none => .healthy now true none "owned process tree is ready"
    | some timeout =>
      let transport := platform.probe 0 attempt check (timeoutCap.elim timeout (min timeout))
      if transport.healthy then
        (HealthSnapshot.healthy now true (some transport.transportReady)
          transport.detail).withObserved transport.observed
      else
        (HealthSnapshot.unhealthy now true (some transport.transportReady)
          transport.detail).withObserved transport.observed

def observeHealth (platform : Platform P E Q) (attempt : Nat) (timeoutCap : Option Nat) :
    EntryM P E Q HealthSnapshot := do
  let entry ← get
  let pids ← liftExcept (ownedPids platform attempt entry)
  let observation := healthObservation platform attempt timeoutCap (!pids.isEmpty) entry
  withRuntime mapHealthError (ServiceRuntime.applyHealth observation.isHealthy)
  update fun entry => { entry with health := observation }
  return observation

def waitUntilHealthyFrom (platform : Platform P E Q) (deadline attempt elapsed : Nat) :
    EntryM P E Q Unit := do
  let lag := platform.lag 0 attempt
  let observation ← observeHealth platform attempt (some (deadline-(elapsed+lag.1)))
  if observation.isHealthy then return
  if deadline≤elapsed+(lag.1+lag.2) then
    throw (.healthFailed (observation.detail.getD "health expectation did not pass"))
  else
    waitUntilHealthyFrom platform deadline (attempt+1) (elapsed+(lag.1+lag.2)+
      min pollInterval (deadline-(elapsed+(lag.1+lag.2))))
termination_by deadline-elapsed
decreasing_by exact pause_advances _ _ _ (by assumption)

def waitUntilHealthy (platform : Platform P E Q) : EntryM P E Q Unit := do
  waitUntilHealthyFrom platform (← get).registration.health.startupDeadline 0 0

def exitDetail (status : ExitStatus) : String :=
  "owned process tree exited"++status.code.elim "" fun code => s!" with code {code}"

/-- The health kept for an entry whose tree was seen to exit in lifecycle `previousState`. -/
def exitHealth (now : Nat) (previousState : LifecycleState) (check : HealthCheckSpec)
    (status : ExitStatus) : HealthSnapshot :=
  if previousState=.terminationPending then .unknown
  else .unhealthy now false (transportDown check) (exitDetail status)

def reconcileProcessExit (platform : Platform P E Q) (window : Nat) :
    EntryM P E Q (Option ProcessExitEvent) := do
  let entry ← get
  let pids ← liftExcept (ownedPids platform 0 entry)
  if pids≠[] then
    update fun entry =>
      { entry with supervision := { entry.supervision with lastOwnedPids := pids } }
    return none
  match ← withRuntime mapObservationError
      (ServiceRuntime.reconcileExitWith (awaitExit platform)) with
  | none => return none
  | some status =>
    let (planned,supervision) := entry.supervision.recordExit status
      entry.registration.restartPolicy entry.control.policy.operatorHold window platform.now
      platform.unixMilliseconds
    update fun current => { current with
      health := exitHealth platform.unixMilliseconds entry.runtime.lifecycle
        entry.registration.health status
      supervision := { supervision with lastOwnedPids := [] } }
    return some {
      serviceId := entry.registration.id
      previousState := entry.runtime.lifecycle
      ownedPidsBefore := supervision.lastOwnedPids
      exitCode := status.code
      successful := status.success
      automaticRestartPlanned := planned.1
      deferredRestartPlanned := planned.2 }

/-- One entry's turn in a `refresh_services` pass. -/
def refresh (platform : Platform P E Q) (window : Nat) : EntryM P E Q ServiceRefresh := do
  let processExit ← reconcileProcessExit platform window
  let health ←
    if processExit.isSome then do pure (← get).health else observeHealth platform 1 none
  return ⟨health,processExit⟩

def authorize (actor : Actor) (action : LifecycleAction) : EntryM P E Q Unit := do
  liftExcept (((← get).control.policy.authorize actor action).mapError .unauthorized)

/-- Recovery never brings back a service whose desired state is stopped. -/
def authorizeRecovery (actor : Actor) : EntryM P E Q Unit := do
  if actor=.recovery ∧ (← get).supervision.desiredState=.stopped then
    throw (.unauthorized .recoveryDesiredStateStopped)

def preflightEntry (platform : Platform P E Q) : EntryM P E Q Unit := do
  let registration := (← get).registration
  liftExcept ((platform.preflightLaunch registration.id registration.launch).mapError
    fun error => .runtime (.start (.process error)))

/-- Records an accepted request: the operator override and the last action. -/
def recordAction (action : LifecycleAction) (actor : Actor) (reason : Reason)
    (entry : ServiceEntry P) : ServiceEntry P :=
  { entry with
    control := ⟨entry.control.policy.applyUserAction actor action,some ⟨action,actor,reason⟩⟩ }

def requestRunning (actor : Actor) (entry : ServiceEntry P) : ServiceEntry P :=
  { entry with supervision := entry.supervision.requestRunning actor }

def requestStopped (entry : ServiceEntry P) : ServiceEntry P :=
  { entry with supervision := entry.supervision.requestStopped }

/-- `record_started`, with the clock reading it keeps. -/
def recordStarted (platform : Platform P E Q) (action : LifecycleAction) :
    EntryM P E Q Unit := do
  update fun entry => { entry with
    supervision := entry.supervision.recordStarted platform.now platform.unixMilliseconds action }
  log (.recordStarted (← get).registration.id platform.now)

/-- Starts one registered service after authority and port checks. -/
def start (platform : Platform P E Q) (actor : Actor) (reason : Reason) :
    EntryM P E Q StartOutcome := do
  authorize actor .start
  authorizeRecovery actor
  if ServiceRuntime.hasProcess (← get).runtime then return .alreadyRunning
  preflightEntry platform
  update (recordAction .start actor reason)
  update (requestRunning actor)
  let outcome ← withRuntime .runtime (ServiceRuntime.startWith (launch platform (← get)))
  if outcome=.started then
    recordStarted platform .start
    waitUntilHealthy platform
  return outcome

/-- The processes a stop that is still pending left behind, kept for the exit event. -/
def keepPids (shutdown : Option TreeStopReport) (entry : ServiceEntry P) : ServiceEntry P :=
  match shutdown with
  | none => entry
  | some report =>
    { entry with
      supervision := { entry.supervision with lastOwnedPids := report.ownedPidsBefore } }

def forgetHealth (entry : ServiceEntry P) : ServiceEntry P :=
  { entry with health := .unknown }

/-- Stops one registered service using only its retained owner. -/
def stop (platform : Platform P E Q) (actor : Actor) (reason : Reason) :
    EntryM P E Q ServiceStopResult := do
  authorize actor .stop
  update (recordAction .stop actor reason)
  update requestStopped
  let entry ← get
  let shutdown := shutdownReport platform entry
  let outcome ← withRuntime .runtime
    (ServiceRuntime.stopWith (halt platform entry.registration.shutdownGrace))
  if outcome=.stopped ∨ outcome=.terminationPending then update forgetHealth
  if outcome=.terminationPending then update (keepPids shutdown)
  return ⟨outcome,shutdown⟩

/-- Replaces one owned tree, or starts it if currently stopped. -/
def restart (platform : Platform P E Q) (actor : Actor) (reason : Reason) :
    EntryM P E Q ServiceRestartResult := do
  authorize actor .restart
  authorizeRecovery actor
  preflightEntry platform
  update (recordAction .restart actor reason)
  update (requestRunning actor)
  let entry ← get
  let shutdown := shutdownReport platform entry
  let outcome ← withRuntime .runtime
    (ServiceRuntime.restartWith (halt platform entry.registration.shutdownGrace)
      (launch platform entry))
  if outcome=.terminationPending then
    update fun entry =>
      { entry with supervision := entry.supervision.deferRestartAfterTermination }
    update (keepPids shutdown)
    update forgetHealth
  else
    recordStarted platform .restart
    waitUntilHealthy platform
  return ⟨outcome,shutdown⟩

def snapshot (platform : Platform P E Q) (entry : ServiceEntry P) :
    Except (RegistryError E Q) ServiceSnapshot := do
  let ownedProcesses ←
    match entry.runtime.process with
    | none => .ok []
    | some process => (platform.ownedProcesses process).mapError .observation
  return {
    id := entry.registration.id
    label := entry.registration.label
    dependsOn := entry.registration.dependencies
    ports := entry.registration.ports
    lifecycle := entry.runtime.lifecycle
    rootPid := entry.runtime.process.map platform.rootPid
    ownedPids := ownedProcesses.map ProcessIdentity.pid
    ownedProcesses
    health := entry.health
    desiredState := entry.supervision.desiredState
    startedAtUnixMs := entry.supervision.startedAtUnixMs
    lastExitCode := entry.supervision.lastExitCode
    lastExitAtUnixMs := entry.supervision.lastExitAtUnixMs
    restartCount := entry.supervision.restartCount
    operatorHold := entry.control.policy.operatorHold
    lastAction := entry.control.lastAction }

end ServiceEntry

end AkuSupervisor
