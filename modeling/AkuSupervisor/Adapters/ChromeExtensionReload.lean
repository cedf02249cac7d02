import AkuSupervisor.Application.CooperativeActions
import AkuSupervisor.Application.Json
import AkuSupervisor.Lib.StateError

namespace AkuSupervisor

open StateError

/-- A line of the audit of cooperative actions. -/
structure CooperativeAuditRecord where
  sequence : Nat
  timestamp : Nat
  target : String
  action : String
  actor : Actor
  reason : Reason
  requestId : String
  configurationFingerprint : String
  status : String
  relayActionId : Option String
  expectedBuildId : Option String
  observedBuildId : Option String
  errorCategory : Option String
  message : String

def Actor.value (actor : Actor) : JsonValue :=
  .object [("actorId",.string actor.identity.2),("actorType",.string actor.identity.1)]

def JsonValue.optionalText (text : Option String) : JsonValue := text.elim .null .string

def CooperativeAuditRecord.value (record : CooperativeAuditRecord) : JsonValue :=
  .object
    [("action",.string record.action),("actor",record.actor.value),
      ("configurationFingerprint",.string record.configurationFingerprint),
      ("errorCategory",.optionalText record.errorCategory),
      ("expectedBuildId",.optionalText record.expectedBuildId),
      ("message",.string record.message),
      ("observedBuildId",.optionalText record.observedBuildId),
      ("reason",.string record.reason.text),
      ("relayActionId",.optionalText record.relayActionId),
      ("requestId",.string record.requestId),("sequence",.number (.posInt record.sequence)),
      ("status",.string record.status),("target",.string record.target),
      ("timestamp",.number (.posInt record.timestamp))]

namespace CooperativeActionStage

def name : CooperativeActionStage → String
  | .requested => "requested"
  | .relayCreated => "relay_created"
  | .delivered => "delivered"
  | .accepted => "accepted"
  | .heartbeatObserved => "heartbeat_observed"
  | .completed => "completed"
  | .failed => "failed"

def intermediateMessage : CooperativeActionStage → String
  | .delivered => "AkuBrowser relay page claimed the cooperative action"
  | .accepted => "Chrome extension accepted reload_self"
  | _ => "Sidecar reported an intermediate cooperative-action milestone"

end CooperativeActionStage

/-- What one append to the audit file meets: the time, and the error if it fails. -/
structure AuditAnswer where
  timestamp : Nat
  failure : Option String

/-- What one request for the status of the action comes back with, and whether the deadline of the
supervisor has passed then. -/
structure PollAnswer where
  response : Except CooperativeActionError JsonValue
  expired : Bool

/-- What the relay answers to one reload. -/
structure RelayAnswers where
  bootstrap : Except CooperativeActionError JsonValue
  created : Except CooperativeActionError JsonValue
  polls : List PollAnswer

/-- The client, with what its audit file answers to each append in turn. -/
structure ChromeExtensionReloadClient where
  target : String
  configurationFingerprint : String
  disk : Nat → AuditAnswer

/-- One request as the manager hands it to the client. -/
structure ReloadRequest where
  actor : Actor
  reason : Reason
  requestId : String

/-- The audit with the lines this request has written, the appends it has tried, and what it has
reported to the manager. -/
structure ReloadState where
  nextSequence : Nat
  attempts : Nat
  written : List CooperativeAuditRecord
  reported : List CooperativeActionProgress

abbrev Reload (α : Type) : Type := EStateM CooperativeActionError ReloadState α

def progressFromAction (action : JsonValue) (stage : CooperativeActionStage) (message : String) :
    CooperativeActionProgress where
  stage
  relayActionId := action.stringField "id"
  expectedBuildId := action.stringField "expectedBuildId"
  observedBuildId := action.stringField "observedBuildId"
  message

def outcomeFromAction (action : JsonValue) (status : CooperativeActionStatus) (target : String) :
    CooperativeActionOutcome where
  target
  action := "reload_self"
  status
  relayActionId := action.stringField "id"
  previousBuildId := action.stringField "previousBuildId"
  expectedBuildId := action.stringField "expectedBuildId"
  observedBuildId := action.stringField "observedBuildId"
  message :=
    (action.stringField "message").getD "Chrome extension cooperative reload completed"

def sidecarErrorCategory (action : JsonValue) : String :=
  let known := ["relay_page_stale","relay_not_delivered","extension_not_accepted",
    "reload_heartbeat_timeout","build_mismatch"]
  match action.stringField "errorCategory" with
  | some category => if category∈known then category else "relay_failed"
  | none => "relay_failed"

/-- The stages that a status proves and that have not been told yet. -/
def evidencedIntermediateStages (action : JsonValue) (lastStage : CooperativeActionStage) :
    List CooperativeActionStage :=
  let delivered :=
    if lastStage=.relayCreated ∧ (action.stringField "deliveredAt").isSome=true then
      [CooperativeActionStage.delivered] else []
  let current := delivered.getLastD lastStage
  if (current=.relayCreated ∨ current=.delivered) ∧
      (action.stringField "acceptedAt").isSome=true then
    delivered++[.accepted]
  else delivered

inductive RelayStatus where
  | pending
  | delivered
  | accepted
  | completed
  | failed
  deriving DecidableEq

def relayStatus (action : JsonValue) : Option RelayStatus :=
  match action.stringField "status" with
  | some status =>
    if status="completed" then some .completed
    else if status="failed" then some .failed
    else if status="delivered" then some .delivered
    else if status="pending" then some .pending
    else if status="accepted" then some .accepted
    else none
  | none => none

/-- What the loop over the status of the action remembers. -/
structure PollState where
  lastStage : CooperativeActionStage
  lastObservedBuildId : Option String
  deriving DecidableEq

/-- How one look at the action ends: with the outcome, or with another look. -/
inductive PollStep where
  | done (outcome : CooperativeActionOutcome)
  | again (next : PollState)

/-- The status shows a build that the loop has not seen yet. -/
def newlyObserved (action : JsonValue) (last : Option String) : Bool :=
  (action.stringField "observedBuildId").isSome ∧ action.stringField "observedBuildId"≠last

namespace ChromeExtensionReloadClient

variable (client : ChromeExtensionReloadClient) (request : ReloadRequest)

def append (record : CooperativeAuditRecord) : Reload Unit := fun s =>
  let answer := client.disk s.attempts
  match answer.failure with
  | some error =>
    .error (.new "audit_unavailable" error) { s with attempts := s.attempts+1 }
  | none =>
    .ok ()
      { s with
        nextSequence := s.nextSequence+1
        attempts := s.attempts+1
        written := s.written++
          [{ record with sequence := s.nextSequence,timestamp := answer.timestamp }] }

def auditRecord (status : String)
    (result : Option (Except CooperativeActionError CooperativeActionOutcome)) : Reload Unit :=
  client.append
    { sequence := 0
      timestamp := 0
      target := client.target
      action := "reload_self"
      actor := request.actor
      reason := request.reason
      requestId := request.requestId
      configurationFingerprint := client.configurationFingerprint
      status
      relayActionId := match result with
        | some (.ok outcome) => outcome.relayActionId
        | some (.error error) => error.relayActionId
        | none => none
      expectedBuildId := match result with
        | some (.ok outcome) => outcome.expectedBuildId
        | _ => none
      observedBuildId := match result with
        | some (.ok outcome) => outcome.observedBuildId
        | some (.error error) => error.observedBuildId
        | none => none
      errorCategory := match result with
        | some (.error error) => some error.category
        | _ => none
      message := match result with
        | some (.ok outcome) => outcome.message
        | some (.error error) => error.message
        | none => "authenticated reload_self request accepted for relay" }

def reportProgress (update : CooperativeActionProgress) : Reload Unit := do
  client.append
    { sequence := 0
      timestamp := 0
      target := client.target
      action := "reload_self"
      actor := request.actor
      reason := request.reason
      requestId := request.requestId
      configurationFingerprint := client.configurationFingerprint
      status := update.stage.name
      relayActionId := update.relayActionId
      expectedBuildId := update.expectedBuildId
      observedBuildId := update.observedBuildId
      errorCategory := none
      message := update.message }
  modify fun s => { s with reported := s.reported++[update] }

def reportEvidenced (action : JsonValue) (stages : List CooperativeActionStage) : Reload Unit :=
  stages.forM fun stage =>
    client.reportProgress request (progressFromAction action stage stage.intermediateMessage)

def contractError (message : String) : CooperativeActionError := .new "relay_contract" message

def required {α : Type} (value : Option α) (message : String) : Reload α :=
  match value with
  | some a => pure a
  | none => throw (contractError message)

/-- One look at a status of the action, up to the check of the deadline. -/
def look (actionId : String) (action : JsonValue) (state : PollState) : Reload PollStep :=
  match relayStatus action with
  | some .completed => do
    client.reportEvidenced request action (evidencedIntermediateStages action state.lastStage)
    if newlyObserved action state.lastObservedBuildId=true then
      client.reportProgress request (progressFromAction action .heartbeatObserved
        "Sidecar observed the expected post-reload heartbeat")
    return .done (outcomeFromAction action .completed client.target)
  | some .failed =>
    throw ((CooperativeActionError.new (sidecarErrorCategory action)
        ((action.stringField "message").getD "Chrome extension cooperative reload failed"))
      |>.withContext (some actionId) (action.stringField "observedBuildId"))
  | some .delivered =>
    if state.lastStage=.relayCreated then do
      client.reportProgress request (progressFromAction action .delivered
        "AkuBrowser relay page claimed the cooperative action")
      return .again { state with lastStage := .delivered }
    else return .again state
  | some .pending => return .again state
  | some .accepted => do
    let stages := evidencedIntermediateStages action state.lastStage
    client.reportEvidenced request action stages
    if newlyObserved action state.lastObservedBuildId=true then
      client.reportProgress request (progressFromAction action .heartbeatObserved
        "Sidecar observed a post-acceptance heartbeat")
      return .again ⟨.heartbeatObserved,action.stringField "observedBuildId"⟩
    else return .again { state with lastStage := stages.getLastD state.lastStage }
  | none => throw (contractError "Sidecar returned an unknown action status")

/-- The loop over the status of the action. `none` is a client that still waits for an answer. -/
def poll (actionId : String) : List PollAnswer → PollState →
    Reload (Option CooperativeActionOutcome)
  | [],_ => pure none
  | answer::answers,state => do
    let response ← answered answer.response
    let action ← required (response.get "action") "Sidecar status omitted action"
    match ← client.look request actionId action state with
    | .done outcome => return some outcome
    | .again next =>
      if answer.expired=true then
        throw ((CooperativeActionError.new "relay_timeout"
          "Chrome extension reload did not produce the expected heartbeat before the supervisor deadline")
          |>.withContext (some actionId) next.lastObservedBuildId)
      else poll actionId answers next

def executeRelay (relay : RelayAnswers) : Reload (Option CooperativeActionOutcome) := do
  let bootstrap ← answered relay.bootstrap
  let _token ← required (bootstrap.stringField "bridgeToken")
    "Sidecar bootstrap omitted bridgeToken"
  let _contract ← required (bootstrap.stringField "bridgeContractVersion")
    "Sidecar bootstrap omitted bridgeContractVersion"
  let created ← answered relay.created
  let action ← required (created.get "action") "Sidecar omitted cooperative action"
  let actionId ← required (action.stringField "id") "Sidecar action omitted ID"
  client.reportProgress request
    { stage := .relayCreated
      relayActionId := some actionId
      expectedBuildId := action.stringField "expectedBuildId"
      observedBuildId := action.stringField "observedBuildId"
      message := "Sidecar created the bounded reload_self relay action" }
  client.poll request actionId relay.polls ⟨.relayCreated,action.stringField "observedBuildId"⟩

def execute (relay : RelayAnswers) : Reload (Option CooperativeActionOutcome) := do
  client.auditRecord request "requested" none
  match ← attempt (client.executeRelay request relay) with
  | .ok none => return none
  | .ok (some outcome) =>
    client.auditRecord request "completed" (some (.ok outcome))
    return some outcome
  | .error error =>
    client.auditRecord request "failed" (some (.error error))
    throw error

end ChromeExtensionReloadClient

end AkuSupervisor
