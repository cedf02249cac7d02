import AkuSupervisor.Application.Json

namespace AkuSupervisor

/-- Spans of time and clock readings are natural numbers of nanoseconds. -/
def fromMillis (ms : Nat) : Nat := ms*1000000

/-- How keys in an HTTP JSON expectation map locate an observed value. -/
inductive JsonPathMode where
  | shallow
  | jsonPointer
  deriving DecidableEq

/-- Platform-neutral health contract attached to a registered service. -/
inductive HealthCheckSpec where
  | process
  | tcpConnect (host : String) (port : UInt16) (timeout startupDeadline : Nat)
  | httpStatus (url : String) (expectedStatus : UInt16) (timeout startupDeadline : Nat)
  | httpJson (url : String) (timeout startupDeadline : Nat) (pathMode : JsonPathMode)
      (expect : List (String × JsonValue)) (observe : List String)
  deriving DecidableEq

namespace HealthCheckSpec

def startupDeadline : HealthCheckSpec → Nat
  | .process => 0
  | .tcpConnect _ _ _ startupDeadline => startupDeadline
  | .httpStatus _ _ _ startupDeadline => startupDeadline
  | .httpJson _ _ startupDeadline _ _ _ => startupDeadline

def timeout : HealthCheckSpec → Option Nat
  | .process => none
  | .tcpConnect _ _ timeout _ => some timeout
  | .httpStatus _ _ timeout _ => some timeout
  | .httpJson _ timeout _ _ _ _ => some timeout

end HealthCheckSpec

/-- A check that goes over a transport. Startup prerequisites are of this kind by construction. -/
structure TransportCheck where
  spec : HealthCheckSpec
  transport : spec.timeout.isSome
  deriving DecidableEq

def TransportCheck.timeout (check : TransportCheck) : Nat :=
  check.spec.timeout.get check.transport

/-- Stable health state exposed through every control adapter. -/
inductive HealthStatus where
  | unknown
  | healthy
  | unhealthy
  deriving DecidableEq

/-- Latest bounded health observation for one service. -/
structure HealthSnapshot where
  status : HealthStatus
  processReady : Bool
  transportReady : Option Bool
  checkedAtUnixMs : Option Nat
  detail : Option String
  observed : List (String × JsonValue)
  deriving DecidableEq

namespace HealthSnapshot

def unknown : HealthSnapshot := ⟨.unknown,false,none,none,none,[]⟩

def healthy (now : Nat) (processReady : Bool) (transportReady : Option Bool) (detail : String) :
    HealthSnapshot :=
  ⟨.healthy,processReady,transportReady,some now,some detail,[]⟩

def unhealthy (now : Nat) (processReady : Bool) (transportReady : Option Bool)
    (detail : String) : HealthSnapshot :=
  ⟨.unhealthy,processReady,transportReady,some now,some detail,[]⟩

def withObserved (self : HealthSnapshot) (observed : List (String × JsonValue)) :
    HealthSnapshot :=
  { self with observed }

def isHealthy (self : HealthSnapshot) : Bool := self.status=.healthy

end HealthSnapshot

/-- Transport probe result before process readiness is combined by the registry. -/
structure TransportHealth where
  transportReady : Bool
  healthy : Bool
  detail : String
  observed : List (String × JsonValue)

end AkuSupervisor
