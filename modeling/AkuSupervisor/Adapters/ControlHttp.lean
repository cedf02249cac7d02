import AkuSupervisor.Lib.Logged
import AkuSupervisor.Adapters.RuntimeToken
import AkuSupervisor.Adapters.ServiceMutation
import AkuSupervisor.Application.CooperativeOperations

namespace AkuSupervisor

inductive IpAddr where
  | v4 (a b c d : UInt8)
  | v6 (bits : BitVec 128)
  deriving DecidableEq

def IpAddr.isLoopback : IpAddr → Bool
  | .v4 a _ _ _ => a=127
  | .v6 bits => bits=1

structure SocketAddr where
  ip : IpAddr
  port : UInt16
  deriving DecidableEq

/-- Actor vocabulary accepted by the local control protocol. -/
inductive ApiActor where
  | user
  | codex
  deriving DecidableEq

def ApiActor.domainActor : ApiActor → Actor
  | .user => .userCli
  | .codex => .codex

/-- The body of a mutation request. -/
structure MutationRequest where
  actor : ApiActor
  reason : String
  requestId : Option String
  deriving DecidableEq

/-- One accepted request that will enter the ordinary foreground cleanup path. -/
structure SupervisorShutdownRequest where
  actor : Actor
  reason : Reason
  requestId : String
  deriving DecidableEq

inductive SupervisorShutdownOutcome where
  | accepted
  | alreadyAccepted
  deriving DecidableEq

inductive SupervisorShutdownError where
  | alreadyInProgress
  | lockPoisoned
  deriving DecidableEq

/-- Process-local shutdown request registry. -/
abbrev SupervisorShutdown := Option SupervisorShutdownRequest

/-- Accepts one request idempotently and rejects conflicting shutdowns. -/
def SupervisorShutdown.request (self : SupervisorShutdown) (request : SupervisorShutdownRequest) :
    Except SupervisorShutdownError SupervisorShutdownOutcome × SupervisorShutdown :=
  match self with
  | some existing =>
    if existing=request then (.ok .alreadyAccepted,self) else (.error .alreadyInProgress,self)
  | none => (.ok .accepted,some request)

/-- What the server reads of an operation: whether it still runs, and its JSON. -/
structure CooperativeOperation where
  running : Bool
  json : String

/-- The operations of the Chrome extension, over the state of their manager. -/
structure CooperativeOperations (κ : Type) where
  begin : Actor → Reason → String → κ → Except CooperativeOperationError CooperativeOperation × κ
  active : κ → Except CooperativeOperationError (Option CooperativeOperation)
  get : String → κ → Except CooperativeOperationError CooperativeOperation

inductive McpResponse where
  | json (value : String)
  | accepted

/-- An MCP message is answered at once, or from the snapshots of the services. -/
inductive McpMessage where
  | direct (response : McpResponse)
  | services (answer : Except ControlError (List ServiceSnapshot) → McpResponse)

structure McpConfig where
  enabled : Bool
  allowedOrigins : List String
  deriving DecidableEq

/-- What the read-only routes show, as JSON text, and the texts of the dashboard. -/
structure ControlViews where
  version : String
  service : ServiceSnapshot → String
  identity : String
  registry : String
  events : Nat → Nat → Except String String
  logTail : String → LogStream → Nat → Except ServiceLogError String
  subscribe : String → LiveLogSelection → Nat → Option LiveLogCursor → Except ServiceLogError Unit
  mcpMessage : List UInt8 → McpMessage
  asset : String → List UInt8

/-- A running control server: its secret, what it controls and shows, and the library functions it
calls: hashing, texts of addresses, and readers of request bodies. -/
structure ControlServer (σ κ : Type) where
  token : RuntimeToken
  instanceId : String
  control : SupervisorControl σ
  cooperative : Option (CooperativeOperations κ)
  mcp : McpConfig
  views : ControlViews
  deriveScoped : RuntimeToken → String → RuntimeToken
  addressText : SocketAddr → String
  parseIpAddr : String → Option IpAddr
  decodeMutation : List UInt8 → Option MutationRequest
  decodeDashboardMutation : List UInt8 → Option String

/-- The calls of a handler that have an effect outside of the server. -/
inductive ServerCall where
  | mutate (action : ControlAction) (serviceId : String) (actor : Actor) (reason : Reason)
  | cooperative (actor : Actor) (reason : Reason) (requestId : String)
  | shutdown (request : SupervisorShutdownRequest)
  deriving DecidableEq

/-- What the handlers share, with a log of their calls. -/
structure ServerState (σ κ : Type) where
  control : σ
  cooperative : κ
  shutdown : SupervisorShutdown
  idempotency : IdempotencyStore
  calls : List ServerCall

/-- The eviction loop of the store goes on without end. -/
inductive EvictionStuck where
  | stuck

/-- A part of a handler. -/
abbrev Serve (σ κ : Type) := EStateM EvictionStuck (ServerState σ κ)

/-- Runs a part of a handler with a store of its own. -/
def withScratch {σ κ α : Type} (x : Serve σ κ α) : Serve σ κ α := fun s =>
  match x.run { s with idempotency := .empty } with
  | .ok a t => .ok a { t with idempotency := s.idempotency }
  | .error error t => .error error { t with idempotency := s.idempotency }

end AkuSupervisor
