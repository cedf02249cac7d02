import AkuSupervisor.Adapters.RegistrationIdentity
import AkuSupervisor.Adapters.RegistrationRecovery

namespace AkuSupervisor

open Program RegistrationM RegistrationFiles Interleaving

namespace RegistrationAuthority

/-- A preparation from its first call to its last one, without other processes. -/
def prepareAlone (authority : RegistrationAuthority) (process : Nat)
    (choices : Nat → RegistrationChoice) (request : PrepareRegistration)
    (files : RegistrationFiles) : Except RegistrationError RegistrationDraft × RegistrationFiles :=
  let (result,_,files) := eval (alone process choices) (authority.prepare request).run (0,files)
  (result,files)

end RegistrationAuthority

/-- Requests that the same draft fits differ in nothing. -/
theorem eq_of_requestMatchesDraft {a b : PrepareRegistration} {draft : RegistrationDraft}
    (first : requestMatchesDraft a draft=true) (second : requestMatchesDraft b draft=true) :
    a=b := by
  obtain ⟨requestId,operation,serviceId,baseRevision,service⟩ := a
  obtain ⟨requestId',operation',serviceId',baseRevision',service'⟩ := b
  simp only [requestMatchesDraft] at first second
  split_ifs at first second with fields fields'
  simp only [not_or,not_not] at fields fields'
  obtain ⟨rfl,rfl,rfl,rfl⟩ := fields
  obtain ⟨rfl,rfl,rfl,rfl⟩ := fields'
  have same : service=service' := by
    cases operation : draft.operation with
    | register =>
      simp only [operation,Bool.and_eq_true,decide_eq_true_eq] at first second
      exact first.2.symm.trans second.2
    | update =>
      simp only [operation,Bool.and_eq_true,decide_eq_true_eq] at first second
      exact first.2.symm.trans second.2
    | unregister =>
      simp only [operation,Bool.and_eq_true,Option.isNone_iff_eq_none] at first second
      rw [first.1,second.1]
  rw [same]

/-- How far a preparation is that looks for a stored draft. -/
inductive ReuseMode where
  | looking
  | found (draft : RegistrationDraft)
  | absent

/-- Whether a call changes a draft, the configuration or the audit. -/
def RegistrationCall.Writes : RegistrationCall → Prop
  | .replaceDraft _ | .replaceConfig _ _ | .appendAudit _ => True
  | _ => False

namespace ReuseMode

/-- Unless it has found nothing, it writes nothing but the lock. -/
def permits (m : ReuseMode) (call : RegistrationCall) : Prop := m=.absent ∨ ¬call.Writes

/-- After the first draft that is read. -/
def reading (draft : RegistrationDraft) : ReuseMode → ReuseMode
  | .looking => .found draft
  | m => m

def after (draftId : String) (m : ReuseMode) : (call : RegistrationCall) → call.Answer → ReuseMode
  | .draftExists other,false => if other=draftId then .absent else m
  | .readDraft other,.ok draft => if other=draftId then m.reading draft else m
  | _,_ => m

end ReuseMode

/-- The way in which a preparation keeps to the draft that is stored under the ID. -/
def reuse (draftId : String) : Discipline RegistrationCall RegistrationCall.Answer ReuseMode :=
  ⟨ReuseMode.permits,ReuseMode.after draftId⟩

namespace RegistrationM

variable {draftId : String} {α β ε : Type} {m : ReuseMode}

abbrev Reuses (draftId : String) (x : RegistrationM α) (m : ReuseMode) (ok : α → ReuseMode → Prop) :
    Prop :=
  Tries (reuse draftId) x m ok fun _ _ => True

theorem reuses_ask (call : RegistrationCall) {ok : call.Answer → ReuseMode → Prop}
    (may : m.permits call) (holds : ∀answer,ok answer (m.after draftId call answer)) :
    Reuses draftId (ask call) m ok :=
  (tries_lift _).mpr ⟨may,holds⟩

theorem reuses_settle {meaning : ε → RegistrationError} {result : Except ε α}
    {ok : α → ReuseMode → Prop} (good : ∀a,result=.ok a → ok a m) :
    Reuses draftId (settle meaning result) m ok := by
  cases result with
  | ok a => exact good a rfl
  | error e => trivial

theorem reuses_check {result : Except RegistrationError α} {f : α → RegistrationM β}
    {ok : β → ReuseMode → Prop} (next : ∀a,Reuses draftId (f a) m ok) :
    Reuses draftId (check result >>= f) m ok := by
  cases result with
  | ok a => exact next a
  | error e => trivial

/-- A call that does not concern drafts. -/
theorem reuses_call (call : RegistrationCall) (meaning : ε → RegistrationError)
    (result : call.Answer → Except ε α) {ok : α → ReuseMode → Prop}
    (may : m.permits call) (same : ∀answer,m.after draftId call answer=m) (good : ∀a,ok a m) :
    Reuses draftId (do settle meaning (result (← ask call))) m ok := by
  refine (tries_bind _ _).mpr (reuses_ask call may fun answer => ?_)
  rw [same]
  exact reuses_settle fun a _ => good a

theorem reuses_createDirectory (code : String) {ok : Unit → ReuseMode → Prop}
    (good : ok () .looking) : Reuses draftId (createDirectory code) .looking ok :=
  reuses_call .createDirectory (ioError code) id (.inr id) (fun _ => rfl) fun _ => good

theorem reuses_writeLockRecord {ok : Unit → ReuseMode → Prop} (good : ok () .looking) :
    Reuses draftId writeLockRecord .looking ok :=
  (tries_bind _ _).mpr (reuses_call .now clockError id (.inr id) (fun _ => rfl) fun now =>
    reuses_call (.writeLock now) lockRecordError id (.inr id) (fun _ => rfl) fun _ => good)

theorem reuses_withCommitLock (body : RegistrationM α) {ok : α → ReuseMode → Prop}
    (inner : Reuses draftId body .looking ok) :
    Reuses draftId (withCommitLock body) .looking ok := by
  refine (tries_bind _ _).mpr (reuses_createDirectory _ ?_)
  refine (tries_bind _ _).mpr (reuses_ask .createLock (.inr id) fun taken => ?_)
  refine (tries_bind _ _).mpr (reuses_settle fun _ _ => ?_)
  have marked : Reuses draftId (do writeLockRecord; body) .looking ok :=
    (tries_bind _ _).mpr (reuses_writeLockRecord inner)
  have looking : ReuseMode.after draftId .looking .createLock taken=.looking := by
    cases taken <;> rfl
  rw [looking]
  refine (tries_bind _ _).mpr ((tries_lift _).mpr (Follows.mono marked fun result m' ends => ?_))
  refine (tries_bind _ _).mpr (reuses_ask .removeLock (.inr id) fun _ => ?_)
  exact reuses_settle fun a here => (by
    subst here
    exact ends)

end RegistrationM

namespace RegistrationAuthority

variable (authority : RegistrationAuthority)

theorem reuses_getDraft (draftId : String) {ok : RegistrationDraft → ReuseMode → Prop}
    (good : ∀draft,ok draft (.found draft)) :
    Reuses draftId (authority.getDraft draftId) .looking ok := by
  refine reuses_check fun _ => ?_
  refine (tries_bind _ _).mpr (reuses_ask (.readDraft draftId) (.inr id) fun result => ?_)
  refine (tries_bind _ _).mpr (reuses_settle fun found here => ?_)
  subst here
  have reading : ReuseMode.after draftId .looking (.readDraft draftId) (.ok found)=.found found :=
    if_pos rfl
  rw [reading]
  exact reuses_check fun _ => good found

theorem reuses_reuseDraft (draftId : String) (same : RegistrationDraft → Bool) :
    Reuses draftId (authority.reuseDraft draftId same) .looking
      fun draft m => m=.absent ∨ m=.found draft ∧ same draft=true := by
  refine (tries_bind _ _).mpr (authority.reuses_getDraft draftId fun found => ?_)
  by_cases fits : same found=true
  · rw [if_pos fits]
    exact .inr ⟨rfl,fits⟩
  · rw [if_neg fits]
    trivial

/-- A preparation that has found nothing may do anything. -/
theorem reuses_absent {draftId : String} (x : RegistrationM RegistrationDraft)
    (same : RegistrationDraft → Bool) : Reuses draftId x .absent
      fun draft m => m=.absent ∨ m=.found draft ∧ same draft=true := by
  refine Follows.free (fun call => ⟨.inl rfl,fun answer => ?_⟩) fun result => ?_
  · cases call with
    | draftExists other => cases answer <;> simp [reuse,ReuseMode.after]
    | readDraft other => cases answer <;> simp [reuse,ReuseMode.after,ReuseMode.reading]
    | _ => rfl
  · cases result with
    | ok draft => exact .inl rfl
    | error e => trivial

theorem reuses_prepare (request : PrepareRegistration) :
    Reuses (authority.draftIdForRequest request.requestId) (authority.prepare request) .looking
      fun draft m => m=.absent ∨ m=.found draft ∧ requestMatchesDraft request draft=true := by
  refine reuses_check fun _ => reuses_check fun _ => reuses_withCommitLock _ ?_
  generalize authority.draftIdForRequest request.requestId=draftId
  refine reuses_check fun _ => ?_
  refine (tries_bind _ _).mpr (reuses_ask (.draftExists draftId) (.inr id) fun there => ?_)
  cases there with
  | false =>
    have absent : ReuseMode.after draftId .looking (.draftExists draftId) false=.absent :=
      if_pos rfl
    rw [absent]
    exact reuses_absent _ _
  | true => exact authority.reuses_reuseDraft draftId _

end RegistrationAuthority

/-- How the files are while a preparation keeps to a draft that is stored in them. -/
def ReuseMode.Fits (draftId : String) (before : RegistrationFiles) (m : ReuseMode)
    (files : RegistrationFiles) : Prop :=
  before.drafts draftId≠none ∧ { files with lock := before.lock }=before ∧ m≠.absent ∧
    ∀draft,m=.found draft → before.drafts draftId=some (.value draft)

namespace ReuseMode.Fits

variable {draftId : String} {before files : RegistrationFiles} {m : ReuseMode}

theorem drafts (fits : m.Fits draftId before files) : files.drafts=before.drafts := by
  have same := congrArg RegistrationFiles.drafts fits.2.1
  exact same

/-- The lock does not matter. -/
theorem relock (fits : m.Fits draftId before files) (lock : Option Nat) :
    m.Fits draftId before { files with lock } := ⟨fits.1,fits.2.1,fits.2.2⟩

theorem attempt (fits : m.Fits draftId before files) (choice : RegistrationChoice) {α : Type}
    (a : α) : m.Fits draftId before (files.attempt choice a files).2 := by
  unfold RegistrationFiles.attempt
  cases choice.failure <;> exact fits

theorem respond (fits : m.Fits draftId before files) (process : Nat)
    (choice : RegistrationChoice) (call : RegistrationCall) (may : m.permits call) :
    (m.after draftId call (files.respond process choice call).1).Fits draftId before
      (files.respond process choice call).2 := by
  cases call with
  | now => exact fits.attempt choice choice.clock
  | createDirectory => exact fits.attempt choice ()
  | writeLock createdAt => exact fits.attempt choice ()
  | writeTemporary => exact fits.attempt choice ()
  | review draft commitAfterApproval => exact fits.attempt choice choice.typed
  | appendAudit record => exact absurd trivial (may.resolve_left fits.2.2.1)
  | replaceDraft draft => exact absurd trivial (may.resolve_left fits.2.2.1)
  | replaceConfig id config => exact absurd trivial (may.resolve_left fits.2.2.1)
  | createLock =>
    show m.Fits draftId before (files.takeLock process choice).2
    unfold RegistrationFiles.takeLock
    split_ifs
    · exact fits
    · cases choice.failure with
      | some failure => exact fits
      | none => exact fits.relock (some process)
  | removeLock =>
    show m.Fits draftId before (files.dropLock choice)
    unfold RegistrationFiles.dropLock
    split_ifs
    · exact fits.relock none
    · exact fits
  | draftExists other =>
    show (m.after draftId (.draftExists other) (files.drafts other).isSome).Fits draftId before
      files
    by_cases same : other=draftId
    · have there : (files.drafts other).isSome=true := by
        rw [same,fits.drafts]
        exact Option.isSome_iff_ne_none.mpr fits.1
      rw [there]
      exact fits
    · cases (files.drafts other).isSome with
      | true => exact fits
      | false =>
        have kept : m.after draftId (.draftExists other) false=m := if_neg same
        rw [kept]
        exact fits
  | readDraft other =>
    show (m.after draftId (.readDraft other) (files.readDraft choice other)).Fits draftId before
      files
    cases result : files.readDraft choice other with
    | error e => exact fits
    | ok draft =>
      show (if other=draftId then m.reading draft else m).Fits draftId before files
      by_cases same : other=draftId
      · rw [if_pos same]
        cases m with
        | looking =>
          refine ⟨fits.1,fits.2.1,fun absurd => (by cases absurd),fun found equal => ?_⟩
          cases equal
          rw [← fits.drafts,← same]
          exact readDraft_ok result
        | found first => exact fits
        | absent => exact fits
      · rw [if_neg same]
        exact fits
  | readConfig => exact fits
  | pathState => exact fits
  | queryService control serviceId => exact fits
  | observeReconciliation config revision => exact fits
  | isTerminal => exact fits

end ReuseMode.Fits

namespace RegistrationAuthority

variable {authority : RegistrationAuthority} {process : Nat} {choices : Nat → RegistrationChoice}
  {request : PrepareRegistration} {files : RegistrationFiles} {draft : RegistrationDraft}

/-- Where a draft is stored for its ID, a preparation changes no file whatever fails, and it answers
nothing but this draft, if that fits. -/
theorem prepareAlone_stored (process : Nat) (choices : Nat → RegistrationChoice)
    (stored : files.drafts (authority.draftIdForRequest request.requestId)=some (.value draft)) :
    { (authority.prepareAlone process choices request files).2 with lock := files.lock }=files ∧
    ∀found,(authority.prepareAlone process choices request files).1=.ok found →
      found=draft ∧ requestMatchesDraft request draft=true := by
  have start : ReuseMode.looking.Fits (authority.draftIdForRequest request.requestId) files files :=
    ⟨by rw [stored]; simp,rfl,fun absurd => (by cases absurd),fun _ equal => (by cases equal)⟩
  obtain ⟨m,fits,ends⟩ := (authority.reuses_prepare request).eval (alone process choices)
    (fun world m => m.Fits (authority.draftIdForRequest request.requestId) files world.2)
    (fun call world m fits may => fits.respond process (choices world.1) call may)
    (t := (0,files)) start
  refine ⟨fits.2.1,fun found here => ?_⟩
  change (eval (alone process choices) (authority.prepare request).run (0,files)).1=.ok found
    at here
  rw [here] at ends
  rcases ends with absent|⟨same,matched⟩
  · exact absurd absent fits.2.2.1
  · have equal := fits.2.2.2 found same
    rw [stored] at equal
    cases equal
    exact ⟨rfl,matched⟩

/-- The same while the lock is free and nothing fails. -/
theorem prepareAlone_works
    (stored : files.drafts draft.draftId=some (.value draft))
    (own : draft.draftId=authority.draftIdForRequest request.requestId)
    (verified : authority.verifyDraft draft=.ok ()) (free : files.lock=none)
    (works : Works choices 0 7) (named : validateRequestId request.requestId=.ok ())
    (service : validateServiceId request.serviceId=.ok ()) :
    authority.prepareAlone process choices request files=
      (if requestMatchesDraft request draft=true then .ok draft else .error requestIdConflict,
        files) := by
  have first := (works_add 0 4 3).mp works
  have second := (works_add 4 1 2).mp first.2
  have third := (works_add 5 1 1).mp second.2
  have there : eval (alone process choices) (draftExists draft.draftId).run
      (4,{ files with lock := some process })=(.ok true,5,{ files with lock := some process }) := by
    show (Except.ok (files.drafts draft.draftId).isSome,_)=_
    rw [stored]
    rfl
  have read : eval (alone process choices) (authority.getDraft draft.draftId).run
      (5,{ files with lock := some process })=(.ok draft,6,{ files with lock := some process }) :=
    (@yields_getDraft authority process choices 5 { files with lock := some process } draft stored
      verified).ends third.1
  have reused : eval (alone process choices)
      (authority.reuseDraft draft.draftId (requestMatchesDraft request)).run
      (5,{ files with lock := some process })=
        (if requestMatchesDraft request draft=true then .ok draft else .error requestIdConflict,
          6,{ files with lock := some process }) := by
    rw [RegistrationAuthority.reuseDraft,eval_attempt,read]
    by_cases fits : requestMatchesDraft request draft=true
    · simp only [if_pos fits]
      rfl
    · simp only [if_neg fits]
      rfl
  have dropped : ({ files with lock := some process } : RegistrationFiles).dropLock (choices 6)=
      files := by
    rw [dropLock,if_pos (works_one.mp third.2),← free]
  have run : eval (alone process choices) (authority.prepare request).run (0,files)=
      (if requestMatchesDraft request draft=true then .ok draft else .error requestIdConflict,7,
        files) := by
    rw [prepare,eval_attempt,(yields_check named _).ends trivial]
    dsimp only
    rw [eval_attempt,(yields_check service _).ends trivial]
    dsimp only
    rw [eval_withCommitLock _ free first.1 (t := (6,{ files with lock := some process })) ?_]
    · rw [dropped]
    · rw [← own,eval_attempt,
        (yields_check (authority.validateDraftId_of_verified verified) _).ends trivial]
      dsimp only
      rw [eval_attempt,there]
      dsimp only
      rw [if_pos rfl]
      exact reused
  rw [prepareAlone,run]

/-- A service ID that is not valid is rejected before anything is looked at. -/
theorem prepareAlone_invalid (process : Nat) (choices : Nat → RegistrationChoice)
    (files : RegistrationFiles) {e : RegistrationError}
    (named : validateRequestId request.requestId=.ok ())
    (invalid : validateServiceId request.serviceId=.error e) :
    authority.prepareAlone process choices request files=(.error e,files) := by
  have run : eval (alone process choices) (authority.prepare request).run (0,files)=
      (.error e,0,files) := by
    rw [prepare,eval_attempt,(yields_check named _).ends trivial]
    dsimp only
    rw [invalid]
    rfl
  rw [prepareAlone,run]

end RegistrationAuthority

section Fixture

/-- The request that the draft of the fixture was prepared for. -/
def fixturePreparation : PrepareRegistration where
  requestId := "add-worker"
  operation := .register
  serviceId := "worker"
  baseRevision := "sha256:cb3569705ddfdeb064469ed0c61ccb96e1a4ebd0d5e5def931b348ccdfaf70b2"
  service := some (fixtureService "Worker" "/srv/worker")

/-- The draft is approved by another process. -/
def fixtureApproval : List RegistrationMove :=
  .launch 1 (.approve fixtureDraftId)::fixtureSteps 1 12

/-- A commit has just taken the lock. -/
def fixtureLocking : List RegistrationMove :=
  .launch 1 (.commit fixtureDraftId "registration_mcp")::fixtureSteps 1 2

theorem fixture_prepared : fixtureAuthority.PreparedBy fixtureFiles [] (fixtureSteps 0 7) 0
    fixturePreparation fixtureDraft where
  idle := rfl
  answered := rfl

theorem works_fixtureChoice : Works (fun _ => fixtureChoice) 0 7 := fun _ _ => rfl

/-- Nothing is written under the ID before the draft is there. -/
theorem fixture_surviving : fixtureAuthority.SurvivingRun fixtureFiles
    ([]++.launch 0 (.prepare fixturePreparation)::fixtureSteps 0 7++fixtureApproval)
    (fixtureAuthority.draftIdForRequest fixturePreparation.requestId) where
  stored draft _ := draft.reread_id
  written := by decide +kernel

/-- The number that is read of `3e49`. -/
def fixtureLoad : JsonNumber := .float 29999999999999997096634093792738472457993162063872

/-- What is read of that number when it has been printed is another one. -/
def fixtureReread (number : JsonNumber) : JsonNumber :=
  if number=fixtureLoad then .float 29999999999999991904337235257910843927496832843776 else number

/-- The worker is healthy under exactly this load. -/
def fixtureLoaded : ServiceConfig :=
  { fixtureService "Worker" "/srv/worker" with
    health := .httpJson "http://127.0.0.1:8080/health" 1000 30000 .jsonPointer
      (.ofList [("/load",JsonValue.number fixtureLoad)]) [] }

/-- Another worker has another hash. -/
def fixtureLoadAuthority : RegistrationAuthority :=
  { fixtureAuthority with
    facts := { fixtureAuthority.facts with parseSocketAddr := fun _ => some ⟨.v4 127 0 0 1,8080⟩ }
    proposalDigest := fun proposal =>
      if proposal.afterConfiguration.services["worker"]?=some fixtureLoaded then
        "c12eb74ef9a9b4c23ac239c808c7b0cfac85b33afcc0169e48108042bc7029d4"
      else "0000000000000000000000000000000000000000000000000000000000000000" }

def fixtureLoadPreparation : PrepareRegistration :=
  { fixturePreparation with service := some fixtureLoaded }

def fixtureLoadFiles : RegistrationFiles :=
  ⟨none,fun _ => none,.value fixtureBase,[],[],fixtureReread⟩

/-- Whether the process has answered with a draft. -/
def answersDraft (s : RegistrationState) (process : Nat) : Bool :=
  match s.parties process with
  | .working (.done (.ok (.draft _))) => true
  | _ => false

theorem exists_preparedBy {authority : RegistrationAuthority} {files : RegistrationFiles}
    {before after : List RegistrationMove} {process : Nat} {request : PrepareRegistration}
    (idle : (Run.final (step (registrationSystem authority)) before (.initial files)).parties
      process=.unborn)
    (answers : answersDraft (Run.final (step (registrationSystem authority))
      (before++.launch process (.prepare request)::after) (.initial files)) process=true) :
    ∃draft,authority.PreparedBy files before after process request draft := by
  unfold answersDraft at answers
  split at answers
  · rename_i draft answered
    exact ⟨draft,idle,answered⟩
  · cases answers

/-- The preparation has answered, and the same request finds a draft with another hash. -/
theorem fixture_drifted :
    answersDraft (Run.final (step (registrationSystem fixtureLoadAuthority))
      ([]++.launch 0 (.prepare fixtureLoadPreparation)::fixtureSteps 0 18)
      (.initial fixtureLoadFiles)) 0=true ∧
    (registrationRun fixtureLoadAuthority fixtureLoadFiles
      ([]++.launch 0 (.prepare fixtureLoadPreparation)::fixtureSteps 0 18++[])).lock=none ∧
    (fixtureLoadAuthority.prepareAlone 2 (fun _ => fixtureChoice) fixtureLoadPreparation
      (registrationRun fixtureLoadAuthority fixtureLoadFiles
        ([]++.launch 0 (.prepare fixtureLoadPreparation)::fixtureSteps 0 18++[]))).1=
        .error (.new "draft_integrity_failed"
          "registration draft content does not match its proposal hash") := by
  decide +kernel

end Fixture

end AkuSupervisor
