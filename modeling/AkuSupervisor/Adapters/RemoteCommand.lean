import AkuSupervisor.Adapters.ControlHttp

namespace AkuSupervisor

/-- What the command line asks of a running Supervisor. -/
inductive RemoteCommand where
  | status
  | simpleStatus
  | instanceStatus
  | registryStatus
  | events (after limit : Nat)
  | logs (serviceId : String) (stream : LogStream) (tail : Nat)
  | mutate (action : ControlAction) (serviceIds : List String) (reason : String)
      (actor : ApiActor) (requestId : Option String)
  | extensionReload (reason : String) (actor : ApiActor) (requestId : String) (wait : Bool)
  | extensionStatus (requestId : String)
  | supervisorShutdown (reason : String) (actor : ApiActor) (requestId : String)
  deriving DecidableEq

/-- A request that is ready to be sent. A retry is safe where it cannot run anything twice, and the
outcome of an operation is waited for under its request ID. -/
structure PreparedRequest where
  method : String
  target : String
  body : Option String
  waitRequestId : Option String
  retrySafe : Bool
  deriving DecidableEq

def ApiActor.label : ApiActor → String
  | .user => "user"
  | .codex => "codex"

def LogStream.label : LogStream → String
  | .stdout => "stdout"
  | .stderr => "stderr"

def LiveLogSelection.label : LiveLogSelection → String
  | .both => "both"
  | .stdout => "stdout"
  | .stderr => "stderr"

/-- The JSON text of a mutation request. -/
def mutationBody (actor : ApiActor) (reason : String) (requestId : Option String) : String :=
  JsonText.object [("actor",JsonText.string actor.label),("reason",JsonText.string reason),
    ("requestId",JsonText.option (requestId.map JsonText.string))]

/-- Batch mutations are expanded before; one without a service is not prepared. -/
def prepareRemoteRequest : RemoteCommand → Option PreparedRequest
  | .status | .simpleStatus => some ⟨"GET","/v1/services",none,none,true⟩
  | .instanceStatus => some ⟨"GET","/v1/instance",none,none,true⟩
  | .registryStatus => some ⟨"GET","/v1/registry",none,none,true⟩
  | .events after limit =>
    some ⟨"GET",s!"/v1/events?after={after}&limit={limit}",none,none,true⟩
  | .logs serviceId stream tail =>
    some ⟨"GET",s!"/v1/services/{serviceId}/logs?stream={stream.label}&tail={tail}",none,none,true⟩
  | .mutate _ [] _ _ _ => none
  | .mutate action (serviceId::_) reason actor requestId =>
    some ⟨"POST",s!"/v1/services/{serviceId}/{action.name}",
      some (mutationBody actor reason requestId),none,requestId.isSome⟩
  | .extensionReload reason actor requestId wait =>
    some ⟨"POST","/v1/cooperative-actions/chrome-extension/reload-self",
      some (mutationBody actor reason (some requestId)),
      if wait then some requestId else none,true⟩
  | .extensionStatus requestId =>
    some ⟨"GET",s!"/v1/cooperative-actions/chrome-extension/requests/{requestId}",none,none,true⟩
  | .supervisorShutdown reason actor requestId =>
    some ⟨"POST","/v1/supervisor/shutdown",some (mutationBody actor reason (some requestId)),none,
      true⟩

def liveLogTarget (serviceId streamName : String) (tail : Nat) : Option LiveLogCursor → String
  | none => s!"/v1/services/{serviceId}/logs/live?stream={streamName}&tail={tail}"
  | some cursor => s!"/v1/services/{serviceId}/logs/live?stream={streamName}&tail={tail}"++
      s!"&afterHub={cursor.hubInstanceId}&after={cursor.sequence}"

end AkuSupervisor
