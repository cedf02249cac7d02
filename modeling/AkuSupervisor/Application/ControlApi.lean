import AkuSupervisor.Application.ServiceRegistry

namespace AkuSupervisor

/-- Registered lifecycle operation accepted by external control adapters. -/
inductive ControlAction where
  | start
  | stop
  | restart
  deriving DecidableEq

namespace ControlAction

/-- The name the derived debug formatter of the source prints. -/
def debugName : ControlAction → String
  | .start => "Start"
  | .stop => "Stop"
  | .restart => "Restart"

def lifecycle : ControlAction → LifecycleAction
  | .start => .start
  | .stop => .stop
  | .restart => .restart

theorem launches_iff (action : ControlAction) :
    action≠.stop ↔ action=.start ∨ action=.restart := by
  cases action <;> simp

theorem lifecycle_eq_start (action : ControlAction) : action.lifecycle=.start ↔ action=.start := by
  cases action <;> simp [lifecycle]

theorem lifecycle_eq_stop (action : ControlAction) : action.lifecycle=.stop ↔ action=.stop := by
  cases action <;> simp [lifecycle]

end ControlAction

/-- Stable successful result shared by every control adapter. -/
inductive ControlMutationOutcome where
  | started
  | alreadyRunning
  | stopped
  | terminationPending
  | alreadyStopped
  | restarted
  deriving DecidableEq

/-- Successful control result including optional owned-tree shutdown evidence. -/
structure ControlMutationResult where
  outcome : ControlMutationOutcome
  shutdown : Option TreeStopReport
  deriving DecidableEq

/-- Adapter-safe failure category that does not expose platform error types. -/
inductive ControlErrorKind where
  | serviceNotFound
  | unauthorized
  | portConflictExternal
  | spawnFailed
  | healthFailed
  | shutdownTimeout
  | ownershipLost
  | internal
  deriving DecidableEq

/-- Bounded lifecycle failure returned across a control protocol boundary. -/
structure ControlError where
  kind : ControlErrorKind
  message : String
  deriving DecidableEq

namespace ControlError

def internal (message : String) : ControlError := ⟨.internal,message⟩

def serviceNotFound (serviceId : String) : ControlError :=
  ⟨.serviceNotFound,s!"service not found: {serviceId}"⟩

/-- The same failure, with what was being done in front of its message. -/
def withContext (message : String) (self : ControlError) : ControlError :=
  ⟨self.kind,s!"{message}: {self.message}"⟩

end ControlError

/-- Platform-neutral operations exposed by the authenticated control server, over the state that an
implementation keeps. -/
structure SupervisorControl (σ : Type) where
  snapshots : EStateM ControlError σ (List ServiceSnapshot)
  preflightLaunches : List String → EStateM ControlError σ Unit
  mutate : ControlAction → String → Actor → Reason → EStateM ControlError σ ControlMutationResult

section Display

def NetworkFamily.debugName : NetworkFamily → String
  | .v4 => "V4"
  | .v6 => "V6"

def PortOccupant.debug (self : PortOccupant) : String :=
  "PortOccupant \x7b pid: "++toString self.pid++", family: "++self.family.debugName++" \x7d"

variable {E Q : Type} [ToString E] [ToString Q]

def BackendOperationError.display : BackendOperationError E Q → String
  | .process error => toString error
  | .startupPrerequisite index detail => s!"startup prerequisite {index+1} failed: {detail}"
  | .portInspection port source => s!"failed to inspect TCP port {port}: {source}"
  | .portConflict port occupants =>
    s!"TCP port {port} is occupied by "++
      "["++", ".intercalate (occupants.map PortOccupant.debug)++"]"

def ServiceRuntimeError.display : ServiceRuntimeError (BackendOperationError E Q) → String
  | .poisoned => "service lifecycle lock is poisoned"
  | .transition error => error.display
  | .start error => s!"service start failed: {error.display}"
  | .stop error => s!"service stop failed: {error.display}"
  | .inspect error => s!"service inspection failed: {error.display}"

def RegistryError.display : RegistryError E Q → String
  | .serviceNotFound serviceId => s!"unknown service: {serviceId}"
  | .unauthorized error => error.display
  | .lockPoisoned => "service registry lock is poisoned"
  | .transition error => error.display
  | .internalState => "service registry invariant was violated"
  | .observation error => s!"process observation failed: {error}"
  | .healthFailed detail => s!"service health failed: {detail}"
  | .runtime error => error.display

end Display

/-- The failure category of a registry error. -/
def controlErrorKind {E Q : Type} : RegistryError E Q → ControlErrorKind
  | .serviceNotFound _ => .serviceNotFound
  | .unauthorized _ => .unauthorized
  | .runtime (.start (.portConflict _ _)) => .portConflictExternal
  | .runtime (.start (.process _)) => .spawnFailed
  | .runtime (.start (.startupPrerequisite _ _)) | .healthFailed _ => .healthFailed
  | .runtime (.stop _) => .shutdownTimeout
  | .observation _ | .runtime (.inspect _) => .ownershipLost
  | .lockPoisoned | .transition _ | .internalState | .runtime .poisoned
  | .runtime (.transition _) | .runtime (.start (.portInspection _ _)) => .internal

def controlError {E Q : Type} [ToString E] [ToString Q] (error : RegistryError E Q) :
    ControlError :=
  ⟨controlErrorKind error,error.display⟩

def StartOutcome.mutation : StartOutcome → ControlMutationOutcome
  | .started => .started
  | .alreadyRunning => .alreadyRunning

def StopOutcome.mutation : StopOutcome → ControlMutationOutcome
  | .stopped => .stopped
  | .terminationPending => .terminationPending
  | .alreadyStopped => .alreadyStopped

def RestartOutcome.mutation : RestartOutcome → ControlMutationOutcome
  | .restarted => .restarted
  | .terminationPending => .terminationPending
  | .started => .started

/-- Applies one typed action to one registered service. -/
def ServiceRegistry.mutate {P E Q : Type} [ToString E] [ToString Q] (platform : Platform P E Q)
    (action : ControlAction) (serviceId : String) (actor : Actor) (reason : Reason) :
    EStateM ControlError (RegistrySys P E) ControlMutationResult :=
  EStateM.adaptExcept controlError <|
    match action with
    | .start => (fun outcome => ⟨outcome.mutation,none⟩) <$>
      start platform serviceId actor reason
    | .stop => (fun result => ⟨result.outcome.mutation,result.shutdown⟩) <$>
      stopWithReport platform serviceId actor reason
    | .restart => (fun result => ⟨result.outcome.mutation,result.shutdown⟩) <$>
      restartWithReport platform serviceId actor reason

end AkuSupervisor
