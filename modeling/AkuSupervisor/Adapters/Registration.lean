import AkuSupervisor.Adapters.Config
import AkuSupervisor.Adapters.RegistrationGate

namespace AkuSupervisor

inductive RegistrationOperation where
  | register
  | update
  | unregister
  deriving DecidableEq

def RegistrationOperation.display : RegistrationOperation → String
  | .register => "register"
  | .update => "update"
  | .unregister => "unregister"

inductive DraftStatus where
  | prepared
  | approved
  | committed
  deriving DecidableEq

/-- The place of a status in the life of a draft. -/
def DraftStatus.rank : DraftStatus → Nat
  | .prepared => 0
  | .approved => 1
  | .committed => 2

structure RegistrationDraft where
  schemaVersion : Nat
  draftId : String
  requestId : String
  operation : RegistrationOperation
  serviceId : String
  configurationPath : String
  baseRevision : String
  proposedRevision : String
  proposalHash : String
  createdAtUnixMs : Nat
  expiresAtUnixMs : Nat
  status : DraftStatus
  approvedAtUnixMs : Option Nat
  committedAtUnixMs : Option Nat
  confirmationPhrase : String
  warnings : List String
  changeSummary : JsonValue
  beforeConfiguration : SupervisorConfig
  afterConfiguration : SupervisorConfig
  deriving DecidableEq

/-- The check with the numbers that it expects replaced. -/
def HealthCheck.mapNumbers (f : JsonNumber → JsonNumber) : HealthCheck → HealthCheck
  | .httpJson url timeoutMs startupDeadlineMs pathMode expect observe =>
    .httpJson url timeoutMs startupDeadlineMs pathMode
      (expect.map fun _ value => value.mapNumbers f) observe
  | .process => .process
  | .tcpConnect host port timeoutMs startupDeadlineMs =>
    .tcpConnect host port timeoutMs startupDeadlineMs
  | .httpStatus url expectedStatus timeoutMs startupDeadlineMs =>
    .httpStatus url expectedStatus timeoutMs startupDeadlineMs

def SupervisorConfig.mapNumbers (f : JsonNumber → JsonNumber) (config : SupervisorConfig) :
    SupervisorConfig :=
  { config with
    services := config.services.map fun _ service =>
      { service with health := service.health.mapNumbers f } }

namespace RegistrationDraft

/-- The draft that is read from what has been printed of this one, where `round` is what is left of
a number. The other data is read as it was printed. -/
def reread (round : JsonNumber → JsonNumber) (draft : RegistrationDraft) : RegistrationDraft :=
  { draft with
    changeSummary := draft.changeSummary.mapNumbers round
    beforeConfiguration := draft.beforeConfiguration.mapNumbers round
    afterConfiguration := draft.afterConfiguration.mapNumbers round }

theorem reread_id (draft : RegistrationDraft) : draft.reread id=draft := by
  have health (check : HealthCheck) : check.mapNumbers id=check := by
    cases check <;> simp [HealthCheck.mapNumbers,JsonValue.mapNumbers_id]
  have config (c : SupervisorConfig) : c.mapNumbers id=c := by
    simp [SupervisorConfig.mapNumbers,health]
  simp [reread,config,JsonValue.mapNumbers_id]

@[simp] theorem reread_draftId (round : JsonNumber → JsonNumber) (draft : RegistrationDraft) :
    (draft.reread round).draftId=draft.draftId := rfl

@[simp] theorem reread_status (round : JsonNumber → JsonNumber) (draft : RegistrationDraft) :
    (draft.reread round).status=draft.status := rfl

end RegistrationDraft

structure PrepareRegistration where
  requestId : String
  operation : RegistrationOperation
  serviceId : String
  baseRevision : String
  service : Option ServiceConfig
  deriving DecidableEq

/-- The part of a draft that its hash covers. -/
structure RegistrationProposal where
  requestId : String
  operation : RegistrationOperation
  serviceId : String
  baseRevision : String
  proposedRevision : String
  afterConfiguration : SupervisorConfig
  deriving DecidableEq

def RegistrationDraft.proposal (draft : RegistrationDraft) : RegistrationProposal :=
  ⟨draft.requestId,draft.operation,draft.serviceId,draft.baseRevision,draft.proposedRevision,
    draft.afterConfiguration⟩

inductive RegistrationReconciliationOutcome where
  | applied
  | pending
  | deferred
  | rejected
  | offline
  deriving DecidableEq

structure ReconciliationObservation where
  outcome : RegistrationReconciliationOutcome
  activeRevision : Option String
  diskRevision : Option String
  detail : Option String
  deriving DecidableEq

structure CommitResult where
  draftId : String
  serviceId : String
  operation : RegistrationOperation
  previousRevision : String
  configurationRevision : String
  registeredState : String
  autoStarted : Bool
  registryReloadRequired : Bool
  registryReconciliation : RegistrationReconciliationOutcome
  runtimeActiveRevision : Option String
  runtimeDiskRevision : Option String
  reconciliationDetail : Option String
  unrelatedServicesRestarted : Bool
  nextCommand : Option String
  deriving DecidableEq

/-- One line of the registration audit file. -/
structure RegistrationAuditRecord where
  schemaVersion : Nat
  timestampUnixMs : Nat
  event : String
  actor : Option String
  draftId : String
  requestId : String
  operation : RegistrationOperation
  serviceId : String
  baseRevision : String
  proposedRevision : String
  proposalHash : String
  status : DraftStatus
  deriving DecidableEq

def isHexDigit (c : Char) : Bool :=
  c.isDigit || (97≤c.toNat && c.toNat≤102) || (65≤c.toNat && c.toNat≤70)

/-- The registration authority of one profile. The digests are SHA-256 in hexadecimal: of a text,
and of the JSON documents of a configuration and of a proposal. -/
structure RegistrationAuthority where
  configurationPath : String
  facts : TextFacts
  textDigest : String → String
  configDigest : SupervisorConfig → String
  proposalDigest : RegistrationProposal → String
  serviceJson : ServiceConfig → JsonValue
  digestLength : ∀text,(textDigest text).toList.length=64
  digestHex : ∀text,(textDigest text).toList.all isHexDigit

def draftLifetimeMs : Nat := 30*60*1000

def registrationSchemaVersion : Nat := 1

def saturatingAdd (a b : Nat) : Nat := min (a+b) (UInt64.size-1)

def validateServiceId (value : String) : Except RegistrationError Unit :=
  if SupervisorConfig.validServiceId value then .ok ()
  else .error (.new "service_id_invalid"
    "serviceId must contain lowercase ASCII letters, digits, or hyphens")

def validateRequestId (value : String) : Except RegistrationError Unit :=
  if validRequestId value then .ok ()
  else .error (.new "request_id_invalid" "requestId must be 1-128 URL-safe ASCII characters")

def validDraftId (value : String) : Bool :=
  (Cut.stripPrefix "registration-" value).any fun suffix =>
    suffix.toList.length==20 && suffix.toList.all isHexDigit

def validateDraftId (value : String) : Except RegistrationError Unit :=
  if validDraftId value then .ok () else .error (.new "draft_id_invalid" "draft ID is invalid")

def sensitiveMarkers : List String :=
  ["SECRET","TOKEN","PASSWORD","PASSWD","API_KEY","PRIVATE_KEY","CREDENTIAL"]

/-- The keys that contain a marker in any case. -/
def sensitiveEnvironmentKeys (environment : Std.ExtTreeMap String String) : List String :=
  environment.keys.filter fun key => sensitiveMarkers.any fun marker =>
    marker.toList <:+: key.toList.map Char.toUpper

def ensureRegistrationSafeEnvironment (config : SupervisorConfig) : Except RegistrationError Unit :=
  let unsafeKeys := config.services.toList.flatMap fun service =>
    (sensitiveEnvironmentKeys service.2.environment).map fun key =>
      s!"services.{service.1}.environment.{key}"
  if unsafeKeys.isEmpty then .ok ()
  else .error (.withDetails "sensitive_environment_key_rejected"
    "registration is disabled while the selected profile contains likely secrets"
    (.object [("paths",.array (unsafeKeys.map .string))]))

def ConfigIssue.json (issue : ConfigIssue) : JsonValue :=
  .object [("code",.string issue.code),("message",.string issue.message),("path",.string issue.path)]

/-- The details of a proposal that is not valid. -/
def validationDetails (issues : List ConfigIssue) (warnings : List String) : JsonValue :=
  .object [("issues",.array (issues.map ConfigIssue.json)),
    ("warnings",.array (warnings.map .string))]

def revisionConflict (message expected actual : String) : RegistrationError :=
  .withDetails "configuration_revision_conflict" message
    (.object [("actual",.string actual),("expected",.string expected)])

def requestIdConflict : RegistrationError :=
  .new "request_id_conflict" "requestId was already used for a different registration proposal"

/-- The last characters of a hash, as the confirmation phrase shows them. -/
def hashSuffix (hash : String) : String := String.ofList (hash.toList.drop (hash.toList.length-12))

def requestMatchesDraft (request : PrepareRegistration) (draft : RegistrationDraft) : Bool :=
  if request.requestId≠draft.requestId ∨ request.operation≠draft.operation ∨
      request.serviceId≠draft.serviceId ∨ request.baseRevision≠draft.baseRevision then false
  else
    let registered := draft.afterConfiguration.services[request.serviceId]?
    match request.operation with
    | .register | .update => request.service.isSome && registered=request.service
    | .unregister => request.service.isNone && registered.isNone

/-- Adds the issues that are not among the ones before in path and code. -/
def mergeIssues (issues more : List ConfigIssue) : List ConfigIssue :=
  more.foldl (fun issues issue =>
    if issues.any fun existing => existing.path=issue.path && existing.code=issue.code then issues
    else issues++[issue]) issues

def commitResult (draft : RegistrationDraft) (observation : ReconciliationObservation) :
    CommitResult :=
  let present := draft.afterConfiguration.services.contains draft.serviceId
  { draftId := draft.draftId
    serviceId := draft.serviceId
    operation := draft.operation
    previousRevision := draft.baseRevision
    configurationRevision := draft.proposedRevision
    registeredState := if present then "stopped" else "unregistered"
    autoStarted := false
    registryReloadRequired := false
    registryReconciliation := observation.outcome
    runtimeActiveRevision := observation.activeRevision
    runtimeDiskRevision := observation.diskRevision
    reconciliationDetail := observation.detail
    unrelatedServicesRestarted := false
    nextCommand := if present then
      some s!"aku-supervisor start {draft.serviceId} --actor user --reason \"start registered service\""
      else none }

namespace RegistrationAuthority

variable (authority : RegistrationAuthority)

def fingerprint (config : SupervisorConfig) : String := "sha256:"++authority.configDigest config

def hashProposal (proposal : RegistrationProposal) : String :=
  "sha256:"++authority.proposalDigest proposal

def draftIdForRequest (requestId : String) : String :=
  "registration-"++String.ofList ((authority.textDigest requestId).toList.take 20)

theorem validDraftId_draftIdForRequest (requestId : String) :
    validDraftId (authority.draftIdForRequest requestId)=true := by
  have cut := (Cut.stripPrefix_eq_some "registration-" _ _).mpr
    (rfl : authority.draftIdForRequest requestId="registration-"++_)
  have long : ((authority.textDigest requestId).toList.take 20).length=20 := by
    rw [List.length_take,authority.digestLength]
    omega
  have hex : ((authority.textDigest requestId).toList.take 20).all isHexDigit=true := by
    refine List.all_eq_true.mpr fun c mem => ?_
    exact List.all_eq_true.mp (authority.digestHex requestId) c (List.mem_of_mem_take mem)
  unfold validDraftId
  rw [cut,Option.any_some,String.toList_ofList,hex,long]
  rfl

def confirmationPhrase (serviceId proposalHash : String) : String :=
  s!"APPROVE {serviceId} {hashSuffix proposalHash}"

def changeSummary (operation : RegistrationOperation) (serviceId : String)
    (before after : SupervisorConfig) : JsonValue :=
  let service (config : SupervisorConfig) :=
    (config.services[serviceId]?.map authority.serviceJson).getD .null
  .object [("afterService",service after),("beforeService",service before),
    ("operation",.string operation.display),
    ("serviceCountAfter",.number (.posInt after.services.size)),
    ("serviceCountBefore",.number (.posInt before.services.size)),("serviceId",.string serviceId)]

def verifyDraft (draft : RegistrationDraft) : Except RegistrationError Unit :=
  if draft.schemaVersion≠registrationSchemaVersion ∨
      draft.configurationPath≠authority.configurationPath ∨
      draft.draftId≠authority.draftIdForRequest draft.requestId then
    .error (.new "draft_integrity_failed" "registration draft identity is invalid")
  else if authority.hashProposal draft.proposal≠draft.proposalHash ∨
      authority.fingerprint draft.afterConfiguration≠draft.proposedRevision ∨
      draft.confirmationPhrase≠confirmationPhrase draft.serviceId draft.proposalHash then
    .error (.new "draft_integrity_failed"
      "registration draft content does not match its proposal hash")
  else .ok ()

theorem verifyDraft_ok {draft : RegistrationDraft} (verified : authority.verifyDraft draft=.ok ()) :
    draft.draftId=authority.draftIdForRequest draft.requestId ∧
      authority.fingerprint draft.afterConfiguration=draft.proposedRevision := by
  unfold verifyDraft at verified
  split_ifs at verified with identity content
  obtain ⟨-,identity⟩ := not_or.mp identity
  obtain ⟨-,content⟩ := not_or.mp content
  exact ⟨not_not.mp (not_or.mp identity).2,not_not.mp (not_or.mp content).1⟩

theorem hashProposal_of_verified {draft : RegistrationDraft}
    (verified : authority.verifyDraft draft=.ok ()) :
    authority.hashProposal draft.proposal=draft.proposalHash := by
  unfold verifyDraft at verified
  split_ifs at verified with identity content
  exact not_not.mp (not_or.mp content).1

/-- A draft that passes the verification has a valid ID. -/
theorem validateDraftId_of_verified {draft : RegistrationDraft}
    (verified : authority.verifyDraft draft=.ok ()) : validateDraftId draft.draftId=.ok () := by
  rw [(authority.verifyDraft_ok verified).1,validateDraftId,
    authority.validDraftId_draftIdForRequest,if_pos rfl]

/-- Whether the service may be changed in this way at all. -/
def checkTarget (current : SupervisorConfig) (operation : RegistrationOperation)
    (serviceId : String) : Except RegistrationError Unit :=
  match operation,current.services.contains serviceId with
  | .register,true => .error (.new "service_already_registered"
      "register requires a service ID that does not exist")
  | .update,false => .error (.new "service_not_registered" "update requires an existing service ID")
  | .unregister,false =>
    .error (.new "service_not_registered" "unregister requires an existing service ID")
  | _,_ => .ok ()

/-- The proposed configuration with the issues and warnings of the service itself. -/
def proposeChange (current : SupervisorConfig) (operation : RegistrationOperation)
    (serviceId : String) (service : Option ServiceConfig) :
    Except RegistrationError (SupervisorConfig × List ConfigIssue × List String) :=
  match operation,service with
  | .register,some service | .update,some service =>
    .ok ({ current with services := current.services.insert serviceId service },
      (sensitiveEnvironmentKeys service.environment).map (fun key =>
        ⟨s!"services.{serviceId}.environment.{key}","sensitive_environment_key_rejected",
          "registration does not accept likely secrets; use the program's own protected configuration"⟩),
      if service.environment.isEmpty then []
      else ["Environment values are persisted in plain JSON and displayed during approval; use only non-sensitive development values."])
  | .register,none | .update,none => .error (.new "service_definition_required"
      "register and update require a complete service object")
  | .unregister,some _ => .error (.new "service_definition_forbidden"
      "unregister must omit the service object")
  | .unregister,none =>
    .ok ({ current with services := current.services.erase serviceId },[],[])

end RegistrationAuthority

end AkuSupervisor
