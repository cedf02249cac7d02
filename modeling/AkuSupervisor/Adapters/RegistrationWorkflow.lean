import AkuSupervisor.Adapters.RegistrationFiles

namespace AkuSupervisor

open Program

/-- A registration operation, up to its calls. -/
abbrev RegistrationM := Attempt RegistrationError RegistrationCall RegistrationCall.Answer

namespace RegistrationM

def ask (call : RegistrationCall) : RegistrationM call.Answer := monadLift (perform call)

/-- Goes on with an answer, or ends with what the error means here. -/
def settle {ε α : Type} (meaning : ε → RegistrationError) : Except ε α → RegistrationM α
  | .ok a => pure a
  | .error e => throw (meaning e)

def check {α : Type} (result : Except RegistrationError α) : RegistrationM α := settle id result

end RegistrationM

def ioError (code : String) (failure : IoFailure) : RegistrationError :=
  .withSource code "registration persistence failed" failure.text

def jsonError (failure : IoFailure) : RegistrationError :=
  .withSource "json_serialization_failed" "failed to serialize registration data" failure.text

def configError (error : ConfigError) : RegistrationError :=
  .withSource "configuration_invalid" "configuration is invalid" error.display

def clockError (failure : IoFailure) : RegistrationError :=
  .withSource "system_clock_invalid"
    (if failure.stage=.access then "system clock is before UNIX epoch"
      else "system clock exceeds supported range") failure.text

def lockError : LockFailure → RegistrationError
  | .alreadyExists => .new "registration_transaction_in_progress"
      "another registration transaction owns the configuration lock; retry after it completes"
  | .other text => .withSource "commit_lock_create_failed"
      "failed to acquire the registration commit lock" text

def draftReadError : FileReadError → RegistrationError
  | .notFound => .new "draft_not_found" "registration draft was not found"
  | .read text => .withSource "draft_read_failed" "failed to read registration draft" text
  | .parse text => .withSource "draft_parse_failed" "registration draft is invalid" text

def configReadError (path : String) : FileReadError → RegistrationError
  | .notFound => .withSource "configuration_read_failed" s!"failed to read {path}" "not found"
  | .read text => .withSource "configuration_read_failed" s!"failed to read {path}" text
  | .parse text => configError (.parse text)

def lockRecordError (failure : IoFailure) : RegistrationError :=
  if failure.stage=.serialize then jsonError failure
  else ioError "commit_lock_write_failed" failure

def temporaryError (failure : IoFailure) : RegistrationError :=
  match failure.stage with
  | .serialize => jsonError failure
  | .access => ioError "atomic_write_create" failure
  | .write => ioError "atomic_write_flush" failure

def replaceError (failure : IoFailure) : RegistrationError :=
  .withSource "atomic_replace_failed" "failed to atomically replace registration data" failure.text

def auditError (failure : IoFailure) : RegistrationError :=
  match failure.stage with
  | .access => ioError "registration_audit_open_failed" failure
  | .serialize => .withSource "registration_audit_write_failed"
      "failed to serialize registration audit" failure.text
  | .write => ioError "registration_audit_write_failed" failure

def reviewError (failure : IoFailure) : RegistrationError :=
  match failure.stage with
  | .serialize => jsonError failure
  | .write => ioError "approval_prompt_failed" failure
  | .access => ioError "approval_read_failed" failure

/-- The answer of the control server as the gate takes it. -/
def serviceAnswer : Except ControlQueryFailure JsonValue →
    Except RegistrationError (Except String JsonValue)
  | .ok response => .ok (.ok response)
  | .error (.request text) => .ok (.error text)
  | .error (.token text) => .error (.withSource "runtime_state_unverifiable"
      "cannot verify stopped state because the control token is unavailable" text)
  | .error (.address text) =>
    .error (.withSource "control_address_invalid" "invalid control address" text)

open RegistrationM

def nowMs : RegistrationM Nat := do settle clockError (← ask .now)

def draftExists (draftId : String) : RegistrationM Bool := ask (.draftExists draftId)

def createDirectory (code : String) : RegistrationM Unit := do
  settle (ioError code) (← ask .createDirectory)

/-- What comes before an atomic replacement: the new contents in a file next to the old one. -/
def prepareReplacement : RegistrationM Unit := do
  createDirectory "atomic_write_directory_create"
  let _ ← nowMs
  settle temporaryError (← ask .writeTemporary)

/-- Replaces the file of the draft. -/
def writeDraft (draft : RegistrationDraft) : RegistrationM Unit := do
  check (validateDraftId draft.draftId)
  prepareReplacement
  settle replaceError (← ask (.replaceDraft draft))

/-- Replaces the configuration with what the draft proposes. -/
def writeConfig (draftId : String) (config : SupervisorConfig) : RegistrationM Unit := do
  prepareReplacement
  settle replaceError (← ask (.replaceConfig draftId config))

def auditRegistration (event : String) (draft : RegistrationDraft) (actor : Option String) :
    RegistrationM Unit := do
  createDirectory "audit_directory_create"
  let timestampUnixMs ← nowMs
  settle auditError (← ask (.appendAudit
    { schemaVersion := registrationSchemaVersion
      timestampUnixMs
      event
      actor
      draftId := draft.draftId
      requestId := draft.requestId
      operation := draft.operation
      serviceId := draft.serviceId
      baseRevision := draft.baseRevision
      proposedRevision := draft.proposedRevision
      proposalHash := draft.proposalHash
      status := draft.status }))

/-- The owner's mark in the lock file. -/
def writeLockRecord : RegistrationM Unit := do
  let createdAtUnixMs ← nowMs
  settle lockRecordError (← ask (.writeLock createdAtUnixMs))

/-- Holds the commit lock around `body`, and drops it however `body` ends. -/
def withCommitLock {α : Type} (body : RegistrationM α) : RegistrationM α := do
  createDirectory "commit_lock_directory_create"
  settle lockError (← ask .createLock)
  let result ← (monadLift (do writeLockRecord; body : RegistrationM α).run :
    RegistrationM (Except RegistrationError α))
  let _ ← ask .removeLock
  check result

namespace RegistrationAuthority

variable (authority : RegistrationAuthority)

def getDraft (draftId : String) : RegistrationM RegistrationDraft := do
  check (validateDraftId draftId)
  let draft ← settle draftReadError (← ask (.readDraft draftId))
  check (authority.verifyDraft draft)
  return draft

def currentConfig : RegistrationM SupervisorConfig := do
  let config ← settle (configReadError authority.configurationPath) (← ask .readConfig)
  settle configError (SupervisorConfig.validateStructure authority.facts config)
  check (ensureRegistrationSafeEnvironment config)
  return config

def validateRegistrationProposal (current : SupervisorConfig) (operation : RegistrationOperation)
    (serviceId : String) (service : Option ServiceConfig) :
    RegistrationM (SupervisorConfig × List ConfigIssue × List String) := do
  check (checkTarget current operation serviceId)
  let (proposed,issues,warnings) ← check (proposeChange current operation serviceId service)
  let issues := issues++SupervisorConfig.structuralContractIssues authority.facts proposed
  if operation=.unregister then return (proposed,issues,warnings)
  let paths ← ask .pathState
  return (proposed,mergeIssues issues
    (SupervisorConfig.selectedServiceFilesystemIssues authority.facts paths proposed serviceId),
    warnings)

/-- The proposal for the configuration, which has to be valid. -/
def validProposal (invalid : String) (current : SupervisorConfig)
    (operation : RegistrationOperation) (serviceId : String) (service : Option ServiceConfig) :
    RegistrationM (SupervisorConfig × List String) := do
  let (proposed,issues,warnings) ←
    authority.validateRegistrationProposal current operation serviceId service
  if !issues.isEmpty then
    throw (.withDetails "service_validation_failed" invalid (validationDetails issues warnings))
  return (proposed,warnings)

/-- The draft of a request that is new. -/
def newDraft (request : PrepareRegistration) (current proposed : SupervisorConfig)
    (warnings : List String) (now : Nat) : RegistrationDraft :=
  let proposedRevision := authority.fingerprint proposed
  let proposalHash := authority.hashProposal ⟨request.requestId,request.operation,
    request.serviceId,request.baseRevision,proposedRevision,proposed⟩
  { schemaVersion := registrationSchemaVersion
    draftId := authority.draftIdForRequest request.requestId
    requestId := request.requestId
    operation := request.operation
    serviceId := request.serviceId
    configurationPath := authority.configurationPath
    baseRevision := authority.fingerprint current
    proposedRevision
    proposalHash
    createdAtUnixMs := now
    expiresAtUnixMs := saturatingAdd now draftLifetimeMs
    status := .prepared
    approvedAtUnixMs := none
    committedAtUnixMs := none
    confirmationPhrase := confirmationPhrase request.serviceId proposalHash
    warnings
    changeSummary := authority.changeSummary request.operation request.serviceId current proposed
    beforeConfiguration := current
    afterConfiguration := proposed }

/-- The draft that is stored already, if it is the one that is asked for. -/
def reuseDraft (draftId : String) (same : RegistrationDraft → Bool) :
    RegistrationM RegistrationDraft := do
  let existing ← authority.getDraft draftId
  if same existing then return existing
  throw requestIdConflict

/-- Stores a new draft unless there is one by now. -/
def persistDraft (draftId : String) (draft : RegistrationDraft) :
    RegistrationM RegistrationDraft := do
  createDirectory "draft_directory_create"
  if ← draftExists draftId then
    return ← authority.reuseDraft draftId fun existing => existing.proposalHash=draft.proposalHash
  writeDraft draft
  auditRegistration "prepared" draft (some "registration_mcp")
  return draft

/-- Persists one idempotent, revision-bound registration draft. -/
def prepare (request : PrepareRegistration) : RegistrationM RegistrationDraft := do
  check (validateRequestId request.requestId)
  check (validateServiceId request.serviceId)
  withCommitLock do
    let draftId := authority.draftIdForRequest request.requestId
    check (validateDraftId draftId)
    if ← draftExists draftId then
      return ← authority.reuseDraft draftId (requestMatchesDraft request)
    let current ← authority.currentConfig
    let currentRevision := authority.fingerprint current
    if request.baseRevision≠currentRevision then
      throw (revisionConflict "baseRevision does not match the current configuration"
        currentRevision request.baseRevision)
    let (proposed,warnings) ← authority.validProposal "the proposed configuration is not valid"
      current request.operation request.serviceId request.service
    authority.persistDraft draftId
      (authority.newDraft request current proposed warnings (← nowMs))

/-- Records the approval of the draft as it was read before the review. -/
def approveWithConfirmation (draft : RegistrationDraft) (confirmation : String) :
    RegistrationM RegistrationDraft := do
  if draft.status≠.prepared then
    if draft.status=.approved ∧ confirmation=draft.confirmationPhrase then
      auditRegistration "approval_recovered" draft (some "human_cli")
      return draft
    throw (.new "draft_not_prepared" "only a prepared draft can be approved")
  if draft.expiresAtUnixMs<(← nowMs) then
    throw (.new "draft_expired" "registration draft has expired; prepare a new draft")
  if confirmation≠draft.confirmationPhrase then
    throw (.new "approval_confirmation_mismatch"
      "typed confirmation did not exactly match the hash-bound phrase")
  let approved := { draft with status := .approved, approvedAtUnixMs := some (← nowMs) }
  writeDraft approved
  auditRegistration "approved" approved (some "human_cli")
  return approved

def approveInteractiveMode (draftId : String) (commitAfterApproval : Bool) :
    RegistrationM RegistrationDraft := do
  if !(← ask .isTerminal) then
    throw (.new "interactive_terminal_required"
      "approval must run in a real interactive terminal; piped input and MCP approval are forbidden")
  let draft ← authority.getDraft draftId
  let confirmation ← settle reviewError (← ask (.review draft commitAfterApproval))
  approveWithConfirmation draft (String.ofList (trimChars confirmation.toList))

def resultOf (draft : RegistrationDraft) : RegistrationM CommitResult := do
  let observation ← ask (.observeReconciliation draft.afterConfiguration draft.proposedRevision)
  return commitResult draft observation

/-- Records the draft as committed and tells the result. -/
def recordCommitted (draft : RegistrationDraft) (event auditActor : String) :
    RegistrationM CommitResult := do
  let committed := { draft with status := .committed, committedAtUnixMs := some (← nowMs) }
  writeDraft committed
  auditRegistration event committed (some auditActor)
  resultOf committed

/-- A change or removal needs the running supervisor to see the service stopped. -/
def requireObservedStopped (config : SupervisorConfig) (serviceId : String) :
    RegistrationM Unit := do
  let response ← check (serviceAnswer (← ask (.queryService config.control serviceId)))
  check (AkuSupervisor.requireObservedStopped serviceId response)

/-- The service that the draft puts into the configuration. -/
def proposedService (draft : RegistrationDraft) :
    Except RegistrationError (Option ServiceConfig) :=
  match draft.operation with
  | .register | .update =>
    match draft.afterConfiguration.services[draft.serviceId]? with
    | some service => .ok (some service)
    | none => .error (.new "draft_integrity_failed"
        "registration draft is missing its proposed service")
  | .unregister => .ok none

/-- Replaces the configuration by what the draft makes of it, if that is still what was proposed. -/
def applyProposal (draft : RegistrationDraft) (current : SupervisorConfig) :
    RegistrationM Unit := do
  let service ← check (proposedService draft)
  let (proposed,_) ← authority.validProposal "the proposed configuration is no longer valid"
    current draft.operation draft.serviceId service
  if authority.fingerprint proposed≠draft.proposedRevision then
    throw (.new "draft_integrity_failed"
      "registration draft no longer matches its operation-bound proposal")
  writeConfig draft.draftId proposed

/-- Replaces the configuration that is still at the base revision of the draft. -/
def applyDraft (draft : RegistrationDraft) (current : SupervisorConfig) : RegistrationM Unit := do
  if draft.operation=.update ∨ draft.operation=.unregister then
    requireObservedStopped current draft.serviceId
  authority.applyProposal draft current

/-- Commits one approved draft after revision and state checks. -/
def commitWithActor (draftId auditActor : String) : RegistrationM CommitResult :=
  withCommitLock do
    let draft ← authority.getDraft draftId
    if draft.status=.committed then return ← resultOf draft
    if draft.status≠.approved then
      throw (.new "human_approval_required"
        "draft is not approved; commit cannot create its own approval")
    if draft.expiresAtUnixMs<(← nowMs) then
      throw (.new "draft_expired" "approved draft expired before commit; prepare a new draft")
    let current ← authority.currentConfig
    let currentRevision := authority.fingerprint current
    if currentRevision=draft.proposedRevision then
      return ← recordCommitted draft "commit_recovered" auditActor
    if currentRevision≠draft.baseRevision then
      throw (revisionConflict "configuration changed after this draft was prepared"
        draft.baseRevision currentRevision)
    authority.applyDraft draft current
    recordCommitted draft "committed" auditActor

/-- Approves unless that has happened already, and then commits. -/
def approveAndCommitInteractive (draftId : String) : RegistrationM CommitResult := do
  let draft ← authority.getDraft draftId
  if draft.status=.prepared then
    let _ ← authority.approveInteractiveMode draftId true
  authority.commitWithActor draftId "human_cli"

end RegistrationAuthority

end AkuSupervisor
