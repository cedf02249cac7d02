import AkuSupervisor.Lib.FifoStore
import AkuSupervisor.Lib.JsonText
import AkuSupervisor.Adapters.ControlTargets

namespace AkuSupervisor

/-- What is written back on a connection. -/
structure Response where
  status : Nat
  body : List UInt8
  contentType : Option String
  dashboardSecurityHeaders : Bool
  deriving DecidableEq

def jsonResponse (status : Nat) (json : String) : Response :=
  ⟨status,TextLines.encode json,some "application/json",false⟩

def emptyResponse (status : Nat) : Response := ⟨status,[],none,false⟩

def errorResponse (status : Nat) (code message : String) : Response :=
  jsonResponse status (JsonText.object [("error",
    JsonText.object [("code",JsonText.string code),("message",JsonText.string message)])])

def dashboardResponse (status : Nat) (body : List UInt8) (contentType : String) : Response :=
  ⟨status,body,some contentType,true⟩

structure CachedMutation where
  target : String
  body : List UInt8
  response : Response
  deriving DecidableEq

def idempotencyCapacity : Nat := 1024

/-- The answered mutations by their request IDs. -/
abbrev IdempotencyStore := FifoStore String CachedMutation

inductive IdempotencyLookup where
  | replay (response : Response)
  | conflict
  | miss
  deriving DecidableEq

def IdempotencyStore.lookup (self : IdempotencyStore) (requestId target : String)
    (body : List UInt8) : IdempotencyLookup :=
  match self.entries[requestId]? with
  | some cached =>
    if cached.target=target ∧ cached.body=body then .replay cached.response else .conflict
  | none => .miss

def ControlMutationOutcome.label : ControlMutationOutcome → String
  | .started => "started"
  | .alreadyRunning => "already_running"
  | .stopped => "stopped"
  | .terminationPending => "termination_pending"
  | .alreadyStopped => "already_stopped"
  | .restarted => "restarted"

/-- A stop report as a JSON value, which lists its members by name. -/
def TreeStopReport.jsonValue (self : TreeStopReport) : String :=
  JsonText.object [("forced",JsonText.bool self.forced),
    ("gracefulSignalError",JsonText.option (self.gracefulSignalError.map JsonText.string)),
    ("gracefulSignalSent",JsonText.bool self.gracefulSignalSent),
    ("ownedPidsAfter",JsonText.array (self.ownedPidsAfter.map Nat.repr)),
    ("ownedPidsBefore",JsonText.array (self.ownedPidsBefore.map Nat.repr))]

/-- Status and code under which a failed mutation is answered. -/
def ControlErrorKind.answer : ControlErrorKind → Nat × String
  | .serviceNotFound => (404,"service_not_found")
  | .unauthorized => (403,"operation_forbidden")
  | .portConflictExternal => (409,"port_conflict_external")
  | .spawnFailed => (500,"spawn_failed")
  | .healthFailed => (503,"health_failed")
  | .shutdownTimeout => (500,"shutdown_timeout")
  | .ownershipLost => (500,"ownership_lost")
  | .internal => (500,"internal")

def mutationResponse (serviceId : String) :
    Except ControlError ControlMutationResult → Response
  | .ok result => jsonResponse 200 (JsonText.object
      ([("outcome",JsonText.string result.outcome.label),("serviceId",JsonText.string serviceId)]++
        JsonText.optionalField "shutdown" (result.shutdown.map TreeStopReport.jsonValue)))
  | .error error => errorResponse error.kind.answer.1 error.kind.answer.2 error.message

/-- A mutation whose sender, ID and reason have been checked. -/
structure ServiceMutation where
  requestId : Option String
  target : String
  body : List UInt8
  actor : Actor
  reason : Reason
  deriving DecidableEq

/-- Whether a mutation is answered from the store or refused, or goes on to the control. -/
inductive MutationDecision where
  | answer (response : Response)
  | run (serviceId : String) (action : ControlAction)
  deriving DecidableEq

def idempotencyConflict : Response :=
  errorResponse 409 "idempotency_conflict" "requestId was already used for a different mutation"

def routeNotFound : Response := errorResponse 404 "not_found" "route not found"

namespace ServiceMutation

def decision (self : ServiceMutation) (store : IdempotencyStore) : MutationDecision :=
  let found := match self.requestId with
    | some requestId => IdempotencyStore.lookup store requestId self.target self.body
    | none => .miss
  match found with
  | .replay response => .answer response
  | .conflict => .answer idempotencyConflict
  | .miss =>
    match parseMutationTarget self.target with
    | none => .answer routeNotFound
    | some (serviceId,action) => .run serviceId action

/-- Stores the answer under the request ID, if there is one. -/
def remember (self : ServiceMutation) (store : IdempotencyStore) (response : Response) :
    Option IdempotencyStore :=
  match self.requestId with
  | some requestId => store.store idempotencyCapacity requestId ⟨self.target,self.body,response⟩
  | none => some store

theorem decision_held {self : ServiceMutation} {store : IdempotencyStore} {requestId : String}
    {cached : CachedMutation} (named : self.requestId=some requestId)
    (held : store.entries[requestId]?=some cached) :
    self.decision store=.answer
      (if cached.target=self.target ∧ cached.body=self.body then cached.response
        else idempotencyConflict) := by
  simp only [decision,IdempotencyStore.lookup,named,held]
  by_cases same : cached.target=self.target ∧ cached.body=self.body
  · rw [if_pos same,if_pos same]
  · rw [if_neg same,if_neg same]

/-- Only an unknown request ID goes on to the control. -/
theorem decision_run {self : ServiceMutation} {store : IdempotencyStore} {serviceId : String}
    {action : ControlAction} (run : self.decision store=.run serviceId action) :
    parseMutationTarget self.target=some (serviceId,action) ∧
      ∀requestId,self.requestId=some requestId → requestId∉store.entries := by
  unfold decision at run
  cases named : self.requestId with
  | none =>
    simp only [named] at run
    cases parsed : parseMutationTarget self.target with
    | none =>
      rw [parsed] at run
      cases run
    | some target =>
      rw [parsed] at run
      cases run
      exact ⟨rfl,nofun⟩
  | some requestId =>
    simp only [named,IdempotencyStore.lookup] at run
    cases held : store.entries[requestId]? with
    | some cached =>
      simp only [held] at run
      split_ifs at run
    | none =>
      simp only [held] at run
      cases parsed : parseMutationTarget self.target with
      | none =>
        rw [parsed] at run
        cases run
      | some target =>
        rw [parsed] at run
        cases run
        refine ⟨rfl,fun id same => ?_⟩
        cases same
        rw [Std.ExtTreeMap.mem_iff_isSome_getElem?,held]
        simp

end ServiceMutation

end AkuSupervisor
