import AkuSupervisor.Lib.Interleaving
import AkuSupervisor.Adapters.Registration

namespace AkuSupervisor

/-- What a file gives: its parsed contents, or why it cannot be read or parsed. -/
inductive FileContent (α : Type) where
  | unreadable (text : String)
  | unparsable (text : String)
  | value (a : α)
  deriving DecidableEq

inductive FileReadError where
  | notFound
  | read (text : String)
  | parse (text : String)
  deriving DecidableEq

def FileContent.read {α : Type} : FileContent α → Except FileReadError α
  | .unreadable text => .error (.read text)
  | .unparsable text => .error (.parse text)
  | .value a => .ok a

/-- Which part of a call failed: to open or read, to serialize, or to write. -/
inductive IoStage where
  | access
  | serialize
  | write
  deriving DecidableEq

structure IoFailure where
  stage : IoStage
  text : String
  deriving DecidableEq

inductive LockFailure where
  | alreadyExists
  | other (text : String)
  deriving DecidableEq

/-- Why the control server gives no answer about a service. -/
inductive ControlQueryFailure where
  | token (text : String)
  | address (text : String)
  | request (text : String)
  deriving DecidableEq

/-- The calls registration makes to files, the clock, the control server and the terminal, each of
them one step. -/
inductive RegistrationCall where
  | now
  | createDirectory
  | createLock
  | writeLock (createdAtUnixMs : Nat)
  | removeLock
  | draftExists (draftId : String)
  | readDraft (draftId : String)
  | readConfig
  | pathState
  | writeTemporary
  | replaceDraft (draft : RegistrationDraft)
  | replaceConfig (draftId : String) (config : SupervisorConfig)
  | appendAudit (record : RegistrationAuditRecord)
  | queryService (control : ControlConfig) (serviceId : String)
  | observeReconciliation (config : SupervisorConfig) (proposedRevision : String)
  | isTerminal
  | review (draft : RegistrationDraft) (commitAfterApproval : Bool)

def RegistrationCall.Answer : RegistrationCall → Type
  | .now => Except IoFailure Nat
  | .createDirectory | .writeLock _ | .writeTemporary | .replaceDraft _ | .replaceConfig _ _
  | .appendAudit _ => Except IoFailure Unit
  | .createLock => Except LockFailure Unit
  | .removeLock => Unit
  | .draftExists _ | .isTerminal => Bool
  | .readDraft _ => Except FileReadError RegistrationDraft
  | .readConfig => Except FileReadError SupervisorConfig
  | .pathState => PathState
  | .queryService _ _ => Except ControlQueryFailure JsonValue
  | .observeReconciliation _ _ => ReconciliationObservation
  | .review _ _ => Except IoFailure String

/-- What the environment contributes to one call. -/
structure RegistrationChoice where
  failure : Option IoFailure
  clock : Nat
  paths : PathState
  response : Except ControlQueryFailure JsonValue
  observation : ReconciliationObservation
  terminal : Bool
  typed : String

/-- The files of registration: the lock with the process that created it, the drafts by the IDs in
their names, the configuration and the audit. `replacements` are the IDs of the drafts whose commits
have replaced the configuration, in the order of the replacements. `round` is what is left of a
number that has been printed and is read again, which a float need not outlast. -/
structure RegistrationFiles where
  lock : Option Nat
  drafts : String → Option (FileContent RegistrationDraft)
  config : FileContent SupervisorConfig
  audit : List RegistrationAuditRecord
  replacements : List String
  round : JsonNumber → JsonNumber

namespace RegistrationFiles

/-- Prints the draft to its file, of which it is read again. -/
def storeDraft (files : RegistrationFiles) (draft : RegistrationDraft) : RegistrationFiles :=
  { files with
    drafts := Function.update files.drafts draft.draftId (some (.value (draft.reread files.round))) }

theorem drafts_storeDraft (files : RegistrationFiles) (draft : RegistrationDraft) :
    (files.storeDraft draft).drafts draft.draftId=some (.value (draft.reread files.round)) :=
  Function.update_self _ _ _

theorem drafts_storeDraft_ne (files : RegistrationFiles) {draft : RegistrationDraft}
    {draftId : String} (other : draftId≠draft.draftId) :
    (files.storeDraft draft).drafts draftId=files.drafts draftId :=
  Function.update_of_ne other _ _

/-- The configuration that a commit prints is that of a draft whose hash was right when it had been
read, so that its numbers are read again as they are. -/
def replaceConfig (files : RegistrationFiles) (draftId : String) (config : SupervisorConfig) :
    RegistrationFiles :=
  { files with config := .value config, replacements := files.replacements++[draftId] }

/-- What an operation answers that may fail, and the files after it. -/
def attempt {α : Type} (files : RegistrationFiles) (choice : RegistrationChoice) (a : α)
    (after : RegistrationFiles) : Except IoFailure α × RegistrationFiles :=
  match choice.failure with
  | none => (.ok a,after)
  | some failure => (.error failure,files)

/-- Creates the lock file unless there is one. -/
def takeLock (files : RegistrationFiles) (process : Nat) (choice : RegistrationChoice) :
    Except LockFailure Unit × RegistrationFiles :=
  if files.lock.isSome then (.error .alreadyExists,files)
  else
    match choice.failure with
    | some failure => (.error (.other failure.text),files)
    | none => (.ok (),{ files with lock := some process })

def dropLock (files : RegistrationFiles) (choice : RegistrationChoice) : RegistrationFiles :=
  if choice.failure=none then { files with lock := none } else files

def readConfig (files : RegistrationFiles) (choice : RegistrationChoice) :
    Except FileReadError SupervisorConfig :=
  match choice.failure with
  | some failure => .error (.read failure.text)
  | none => files.config.read

def readDraft (files : RegistrationFiles) (choice : RegistrationChoice) (draftId : String) :
    Except FileReadError RegistrationDraft :=
  match files.drafts draftId,choice.failure with
  | none,_ => .error .notFound
  | some _,some failure => .error (.read failure.text)
  | some content,none => content.read

theorem readDraft_ok {files : RegistrationFiles} {choice : RegistrationChoice} {draftId : String}
    {draft : RegistrationDraft} (result : files.readDraft choice draftId=.ok draft) :
    files.drafts draftId=some (.value draft) := by
  unfold readDraft at result
  cases stored : files.drafts draftId with
  | none => simp [stored] at result
  | some content =>
    cases failed : choice.failure with
    | some failure => simp [stored,failed] at result
    | none =>
      simp only [stored,failed] at result
      cases content with
      | value found =>
        cases result
        rfl
      | unreadable text => cases result
      | unparsable text => cases result

theorem readConfig_ok {files : RegistrationFiles} {choice : RegistrationChoice}
    {config : SupervisorConfig} (result : files.readConfig choice=.ok config) :
    files.config=.value config := by
  unfold readConfig at result
  cases failed : choice.failure with
  | some failure => simp [failed] at result
  | none =>
    simp only [failed] at result
    cases content : files.config with
    | value found =>
      rw [content] at result
      cases result
      rfl
    | unreadable text => rw [content] at result; cases result
    | unparsable text => rw [content] at result; cases result

/-- A call of the process with this number. A file that cannot be replaced keeps its contents. -/
def respond (process : Nat) (choice : RegistrationChoice) :
    (call : RegistrationCall) → RegistrationFiles → call.Answer × RegistrationFiles
  | .now,files => attempt files choice choice.clock files
  | .createDirectory,files | .writeLock _,files | .writeTemporary,files =>
    attempt files choice () files
  | .createLock,files => files.takeLock process choice
  | .removeLock,files => ((),files.dropLock choice)
  | .draftExists draftId,files => ((files.drafts draftId).isSome,files)
  | .readDraft draftId,files => (files.readDraft choice draftId,files)
  | .readConfig,files => (files.readConfig choice,files)
  | .pathState,files => (choice.paths,files)
  | .replaceDraft draft,files => attempt files choice () (files.storeDraft draft)
  | .replaceConfig draftId config,files =>
    attempt files choice () (files.replaceConfig draftId config)
  | .appendAudit record,files =>
    attempt files choice () { files with audit := files.audit++[record] }
  | .queryService _ _,files => (choice.response,files)
  | .observeReconciliation _ _,files => (choice.observation,files)
  | .isTerminal,files => (choice.terminal,files)
  | .review _ _,files => attempt files choice choice.typed files

/-- Only the write of a draft changes the drafts. -/
theorem drafts_respond (files : RegistrationFiles) (process : Nat) (choice : RegistrationChoice)
    (call : RegistrationCall) (other : ∀draft,call≠.replaceDraft draft) :
    (respond process choice call files).2.drafts=files.drafts := by
  have attempted {α : Type} (a : α) (after : RegistrationFiles) (same : after.drafts=files.drafts) :
      (files.attempt choice a after).2.drafts=files.drafts := by
    unfold attempt
    cases choice.failure with
    | none => exact same
    | some failure => rfl
  cases call with
  | now => exact attempted _ _ rfl
  | createDirectory => exact attempted _ _ rfl
  | writeLock createdAt => exact attempted _ _ rfl
  | writeTemporary => exact attempted _ _ rfl
  | replaceDraft draft => exact absurd rfl (other draft)
  | replaceConfig draftId config => exact attempted _ _ rfl
  | appendAudit record => exact attempted _ _ rfl
  | review draft commitAfterApproval => exact attempted _ _ rfl
  | createLock =>
    show (files.takeLock process choice).2.drafts=files.drafts
    unfold takeLock
    split_ifs
    · rfl
    · cases choice.failure <;> rfl
  | removeLock =>
    show (files.dropLock choice).drafts=files.drafts
    unfold dropLock
    split_ifs <;> rfl
  | draftExists draftId => rfl
  | readDraft draftId => rfl
  | readConfig => rfl
  | pathState => rfl
  | queryService control serviceId => rfl
  | observeReconciliation config proposedRevision => rfl
  | isTerminal => rfl

/-- No call changes how numbers are read. -/
theorem round_respond (files : RegistrationFiles) (process : Nat) (choice : RegistrationChoice)
    (call : RegistrationCall) : (respond process choice call files).2.round=files.round := by
  have attempted {α : Type} (a : α) (after : RegistrationFiles) (same : after.round=files.round) :
      (files.attempt choice a after).2.round=files.round := by
    unfold attempt
    cases choice.failure with
    | none => exact same
    | some failure => rfl
  cases call with
  | createLock =>
    show (files.takeLock process choice).2.round=files.round
    unfold takeLock
    split_ifs
    · rfl
    · cases choice.failure <;> rfl
  | removeLock =>
    show (files.dropLock choice).round=files.round
    unfold dropLock
    split_ifs <;> rfl
  | now => exact attempted _ _ rfl
  | createDirectory => exact attempted _ _ rfl
  | writeLock createdAt => exact attempted _ _ rfl
  | writeTemporary => exact attempted _ _ rfl
  | replaceDraft draft => exact attempted _ _ rfl
  | replaceConfig draftId config => exact attempted _ _ rfl
  | appendAudit record => exact attempted _ _ rfl
  | review draft commitAfterApproval => exact attempted _ _ rfl
  | _ => rfl

end RegistrationFiles

end AkuSupervisor
