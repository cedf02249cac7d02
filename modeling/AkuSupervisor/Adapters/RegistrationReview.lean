import AkuSupervisor.Adapters.RegistrationFrame

namespace AkuSupervisor

open Program RegistrationM

/-- A piece of the review that is printed for approval. -/
inductive ReviewItem where
  | line (text : String)
  | field (label value : String)
  | document (heading : String) (value : JsonValue)
  | configuration (heading : String) (config : SupervisorConfig)
  deriving DecidableEq

def reviewWarnings (warnings : List String) : List ReviewItem :=
  if warnings.isEmpty then [] else .line "\nWARNINGS:"::warnings.map (.field "- ")

def reviewNote (commitAfterApproval : Bool) : String :=
  if commitAfterApproval then
    "\nAFTER CONFIRMATION: this command will immediately commit the exact proposed configuration. The service will not auto-start. Revision and stopped-state checks still apply."
  else
    "\nAPPROVAL ONLY: the configuration will remain unchanged until a separate commit. Use --commit to complete approval and mutation in one human command."

/-- The review of a draft, from its first line to its last one. -/
def printApprovalReview (draft : RegistrationDraft) (commitAfterApproval : Bool) :
    List ReviewItem :=
  [.line "AkuSupervisor registration approval\n",
    .field "Draft:            " draft.draftId,
    .field "Operation:        " draft.operation.display,
    .field "Service:          " draft.serviceId,
    .field "Configuration:    " draft.configurationPath,
    .field "Base revision:    " draft.baseRevision,
    .field "Proposed revision:" draft.proposedRevision,
    .field "Proposal hash:    " draft.proposalHash,
    .field "Expires at (ms):  " (toString draft.expiresAtUnixMs)]++
  reviewWarnings draft.warnings++
  [.document "\nCHANGE SUMMARY:" draft.changeSummary,
    .configuration "\nFULL CURRENT CONFIGURATION:" draft.beforeConfiguration,
    .configuration "\nFULL PROPOSED CONFIGURATION:" draft.afterConfiguration,
    .line (reviewNote commitAfterApproval)]

/-- The review shows the proposal with these values. -/
structure ShowsProposal (review : List ReviewItem)
    (serviceId baseRevision proposedRevision proposalHash : String) (config : SupervisorConfig) :
    Prop where
  service : .field "Service:          " serviceId∈review
  base : .field "Base revision:    " baseRevision∈review
  proposed : .field "Proposed revision:" proposedRevision∈review
  hash : .field "Proposal hash:    " proposalHash∈review
  after : .configuration "\nFULL PROPOSED CONFIGURATION:" config∈review

/-- The review shows these values, which describe the change. -/
structure ShowsChange (review : List ReviewItem) (before : SupervisorConfig) (summary : JsonValue)
    (warnings : List String) : Prop where
  before : .configuration "\nFULL CURRENT CONFIGURATION:" before∈review
  summary : .document "\nCHANGE SUMMARY:" summary∈review
  warnings : ∀warning,.field "- " warning∈review ↔ warning∈warnings

section Review

variable {draft : RegistrationDraft} {commitAfterApproval : Bool}

theorem mem_reviewWarnings {warnings : List String} {item : ReviewItem} :
    item∈reviewWarnings warnings ↔
      (item=.line "\nWARNINGS:" ∧ warnings≠[]) ∨ ∃warning∈warnings,.field "- " warning=item := by
  cases warnings with
  | nil => simp [reviewWarnings]
  | cons first rest => simp [reviewWarnings,eq_comm]

/-- The proposal shown is that of the draft. -/
theorem ShowsProposal.eq {serviceId baseRevision proposedRevision proposalHash : String}
    {config : SupervisorConfig}
    (shown : ShowsProposal (printApprovalReview draft commitAfterApproval) serviceId baseRevision
      proposedRevision proposalHash config) :
    serviceId=draft.serviceId ∧ baseRevision=draft.baseRevision ∧
      proposedRevision=draft.proposedRevision ∧ proposalHash=draft.proposalHash ∧
      config=draft.afterConfiguration := by
  obtain ⟨service,base,proposed,hash,after⟩ := shown
  simp [printApprovalReview,mem_reviewWarnings] at service base proposed hash after
  exact ⟨service,base,proposed,hash,after⟩

theorem showsProposal (draft : RegistrationDraft) (commitAfterApproval : Bool) :
    ShowsProposal (printApprovalReview draft commitAfterApproval) draft.serviceId draft.baseRevision
      draft.proposedRevision draft.proposalHash draft.afterConfiguration := by
  constructor <;> simp [printApprovalReview]

theorem showsChange (draft : RegistrationDraft) (commitAfterApproval : Bool) :
    ShowsChange (printApprovalReview draft commitAfterApproval) draft.beforeConfiguration
      draft.changeSummary draft.warnings := by
  refine ⟨?_,?_,fun warning => ?_⟩
  · simp [printApprovalReview]
  · simp [printApprovalReview]
  · simp [printApprovalReview,mem_reviewWarnings]

end Review

theorem RegistrationFiles.readDraft_ok_iff {files : RegistrationFiles} {choice : RegistrationChoice}
    {draftId : String} {draft : RegistrationDraft} :
    files.readDraft choice draftId=.ok draft ↔
      files.drafts draftId=some (.value draft) ∧ choice.failure=none := by
  constructor
  · intro result
    refine ⟨readDraft_ok result,?_⟩
    unfold readDraft at result
    rw [readDraft_ok result] at result
    cases failed : choice.failure with
    | none => rfl
    | some failure =>
      rw [failed] at result
      cases result
  · intro holds
    unfold readDraft
    rw [holds.1,holds.2]
    rfl

namespace RegistrationAuthority

variable (authority : RegistrationAuthority)

/-- The draft that `getDraft` accepts, without other processes. -/
def getDraftAlone (choice : RegistrationChoice) (draftId : String) (files : RegistrationFiles) :
    Except RegistrationError RegistrationDraft :=
  (eval (alone 0 fun _ => choice) (authority.getDraft draftId).run (0,files)).1

variable {authority}

theorem getDraftAlone_ok_iff {choice : RegistrationChoice} {draftId : String}
    {files : RegistrationFiles} {draft : RegistrationDraft} :
    authority.getDraftAlone choice draftId files=.ok draft ↔
      validateDraftId draftId=.ok () ∧ files.readDraft choice draftId=.ok draft ∧
        authority.verifyDraft draft=.ok () := by
  -- what is left once the ID is valid, for each result of the reading
  have rest (read : Except FileReadError RegistrationDraft) :
      (eval (alone 0 fun _ => choice) (do
        let found ← settle draftReadError read
        check (authority.verifyDraft found)
        return found : RegistrationM _).run (1,files)).1=.ok draft ↔
      read=.ok draft ∧ authority.verifyDraft draft=.ok () := by
    cases read with
    | error e =>
      constructor
      · intro result
        cases result
      · intro holds
        cases holds.1
    | ok found =>
      show (eval (alone 0 fun _ => choice) (do
        check (authority.verifyDraft found)
        return found : RegistrationM _).run (1,files)).1=.ok draft ↔ _
      cases verified : authority.verifyDraft found with
      | error e =>
        constructor
        · intro result
          cases result
        · intro holds
          cases holds.1
          rw [verified] at holds
          cases holds.2
      | ok _ =>
        constructor
        · intro result
          cases result
          exact ⟨rfl,verified⟩
        · intro holds
          cases holds.1
          rfl
  unfold getDraftAlone getDraft
  cases valid : validateDraftId draftId with
  | error e =>
    constructor
    · intro result
      cases result
    · intro holds
      cases holds.1
  | ok _ =>
    rw [and_iff_right rfl]
    exact rest (files.readDraft choice draftId)

end RegistrationAuthority

/-- The draft with another description of its change. -/
def RegistrationDraft.retold (draft : RegistrationDraft) (before : SupervisorConfig)
    (summary : JsonValue) (warnings : List String) : RegistrationDraft :=
  { draft with beforeConfiguration := before, changeSummary := summary, warnings }

def RegistrationFiles.tamper (files : RegistrationFiles) (draftId : String)
    (draft : RegistrationDraft) : RegistrationFiles :=
  { files with drafts := Function.update files.drafts draftId (some (.value draft)) }

/-- The draft is read and accepted, and its digests are those of nothing else. -/
structure Reviewable (authority : RegistrationAuthority) (choice : RegistrationChoice)
    (draftId : String) (files : RegistrationFiles) (draft : RegistrationDraft) : Prop where
  accepted : authority.getDraftAlone choice draftId files=.ok draft
  afterFree : authority.CollisionFree draft.afterConfiguration
  proposalFree : ∀other,authority.hashProposal other=authority.hashProposal draft.proposal →
    other=draft.proposal

/-- The proposal shown for a draft that is accepted is what every commit under its hash writes. The
description of the change is only the stored one: with any other one the draft is accepted too. -/
theorem review_binds_commit (authority : RegistrationAuthority) (choice : RegistrationChoice)
    (draftId : String) (files : RegistrationFiles) (draft : RegistrationDraft)
    (commitAfterApproval : Bool) (reviewable : Reviewable authority choice draftId files draft) :
    (∀(serviceId baseRevision proposedRevision proposalHash : String) (config : SupervisorConfig),
      ShowsProposal (printApprovalReview draft commitAfterApproval) serviceId baseRevision
        proposedRevision proposalHash config →
      authority.fingerprint config=proposedRevision ∧
      ∀(committed : RegistrationDraft) (before after : RegistrationFiles) (process : Nat)
        (choices : Nat → RegistrationChoice) (auditActor : String)
        (result : Except RegistrationError CommitResult),
        before.drafts committed.draftId=some (.value committed) → committed.status=.approved →
        committed.proposalHash=proposalHash →
        authority.commitAlone process choices committed.draftId auditActor before=(result,after) →
        after.replacements≠before.replacements →
        ∃current,before.config=.value current ∧ authority.fingerprint current=baseRevision ∧
          after.config=.value config ∧ SupervisorConfig.AgreeExcept serviceId current config) ∧
    ∀(before : SupervisorConfig) (summary : JsonValue) (warnings : List String),
      authority.getDraftAlone choice draftId
        (files.tamper draftId (draft.retold before summary warnings))=
          .ok (draft.retold before summary warnings) ∧
      ShowsChange (printApprovalReview (draft.retold before summary warnings) commitAfterApproval)
        before summary warnings := by
  obtain ⟨accepted,afterFree,proposalFree⟩ := reviewable
  obtain ⟨valid,read,verified⟩ := RegistrationAuthority.getDraftAlone_ok_iff.mp accepted
  constructor
  · intro serviceId baseRevision proposedRevision proposalHash config shown
    obtain ⟨rfl,rfl,rfl,rfl,rfl⟩ := shown.eq
    refine ⟨(authority.verifyDraft_ok verified).2,?_⟩
    intro committed before after process choices auditActor result stored approved hash commit
      replacing
    obtain ⟨m,fits,-⟩ := RegistrationAuthority.commitAlone_cases authority stored
      approved process choices auditActor
    rw [commit] at fits
    obtain ⟨written,replaced⟩ := fits.replaced replacing
    obtain ⟨current,here,applies⟩ := replaced.base
    -- the hash that was shown is that of the proposal which is committed
    have same : committed.proposal=draft.proposal := by
      apply proposalFree
      rw [authority.hashProposal_of_verified applies.verified,hash,
        authority.hashProposal_of_verified verified]
    have service : committed.serviceId=draft.serviceId := congrArg (·.serviceId) same
    have base : committed.baseRevision=draft.baseRevision := congrArg (·.baseRevision) same
    have config : committed.afterConfiguration=draft.afterConfiguration :=
      congrArg (·.afterConfiguration) same
    have whole := applies.eq_afterConfiguration (config ▸ afterFree)
    have frame := applies.agreeExcept
    rw [service,whole,config] at frame
    exact ⟨current,here,applies.based.trans base,by rw [replaced.config,whole,config],frame⟩
  · intro before summary warnings
    refine ⟨?_,showsChange (draft.retold before summary warnings) commitAfterApproval⟩
    have works := (RegistrationFiles.readDraft_ok_iff.mp read).2
    refine RegistrationAuthority.getDraftAlone_ok_iff.mpr ⟨valid,?_,verified⟩
    exact RegistrationFiles.readDraft_ok_iff.mpr ⟨Function.update_self _ _ _,works⟩

section Fixture

/-- The digest of the proposal is that of no other one, too. -/
def fixtureBound : RegistrationAuthority :=
  { fixtureExact with
    proposalDigest := fun proposal =>
      if proposal=fixtureDraft.proposal then fixtureAuthority.proposalDigest proposal
      else "0000000000000000000000000000000000000000000000000000000000000000" }

def fixtureRetold : RegistrationDraft := fixtureDraft.retold fixtureProposed .null ["none"]

theorem fixtureBound_free (other : RegistrationProposal)
    (same : fixtureBound.hashProposal other=fixtureBound.hashProposal fixtureDraft.proposal) :
    other=fixtureDraft.proposal := by
  have digests : fixtureBound.proposalDigest fixtureDraft.proposal≠
      "0000000000000000000000000000000000000000000000000000000000000000" := by
    decide +kernel
  have digest := fixtureBound.proposalDigest_of_hash same
  by_contra different
  have unused : fixtureBound.proposalDigest other=
      "0000000000000000000000000000000000000000000000000000000000000000" := if_neg different
  exact digests (digest.symm.trans unused)

theorem fixtureBound_accepts :
    fixtureBound.getDraftAlone fixtureChoice fixtureDraftId fixtureFiles=.ok fixtureDraft ∧
    fixtureBound.getDraftAlone fixtureChoice fixtureDraftId
      (fixtureFiles.tamper fixtureDraftId fixtureRetold)=.ok fixtureRetold ∧
    (fixtureCommit fixtureBound fixtureReady).2.replacements=[fixtureDraftId] := by
  decide +kernel

theorem reviewable_fixtureRetold : Reviewable fixtureBound fixtureChoice fixtureDraftId
    (fixtureFiles.tamper fixtureDraftId fixtureRetold) fixtureRetold :=
  ⟨fixtureBound_accepts.2.1,fixtureExact_free.1,fixtureBound_free⟩

/-- The review of the worker's draft, and its commit after the approval. -/
theorem review_binds_commit_worker :
    (fixtureCommit fixtureBound fixtureReady).2.config=.value fixtureProposed ∧
      ∃current,fixtureReady.config=.value current ∧
        SupervisorConfig.AgreeExcept "worker" current fixtureProposed := by
  have shown := (review_binds_commit fixtureBound fixtureChoice fixtureDraftId fixtureFiles
    fixtureDraft true ⟨fixtureBound_accepts.1,fixtureExact_free.1,fixtureBound_free⟩).1 _ _ _ _ _
    (showsProposal fixtureDraft true)
  have replacing : (fixtureCommit fixtureBound fixtureReady).2.replacements≠fixtureReady.replacements := by
    rw [fixtureBound_accepts.2.2]
    exact List.cons_ne_nil _ _
  obtain ⟨current,here,-,written,frame⟩ := shown.2 fixtureApproved fixtureReady
    (fixtureCommit fixtureBound fixtureReady).2 1 (fun _ => fixtureChoice) "human_cli"
    (fixtureCommit fixtureBound fixtureReady).1 stored_fixtureReady rfl rfl
    (fixtureCommit_eq fixtureBound fixtureReady) replacing
  exact ⟨written,current,here,frame⟩

/-- A draft whose description has been changed is accepted: the configuration it shows as the
current one is not at the base revision, and its summary and warnings are not those of the change. -/
theorem review_description_unbound :
    (¬∀(authority : RegistrationAuthority) (choice : RegistrationChoice) (draftId : String)
      (files : RegistrationFiles) (draft : RegistrationDraft),
      Reviewable authority choice draftId files draft →
      ∀(before : SupervisorConfig) (summary : JsonValue) (warnings : List String),
      ShowsChange (printApprovalReview draft true) before summary warnings →
        authority.fingerprint before=draft.baseRevision) ∧
    (¬∀(authority : RegistrationAuthority) (choice : RegistrationChoice) (draftId : String)
      (files : RegistrationFiles) (draft : RegistrationDraft),
      Reviewable authority choice draftId files draft →
      ∀(before : SupervisorConfig) (summary : JsonValue) (warnings : List String),
      ShowsChange (printApprovalReview draft true) before summary warnings →
        summary=authority.changeSummary draft.operation draft.serviceId before
          draft.afterConfiguration) ∧
    ¬∀(authority : RegistrationAuthority) (choice : RegistrationChoice) (draftId : String)
      (files : RegistrationFiles) (draft : RegistrationDraft),
      Reviewable authority choice draftId files draft →
      ∀(before : SupervisorConfig) (summary : JsonValue) (warnings : List String),
      ShowsChange (printApprovalReview draft true) before summary warnings →
      ∀(service : Option ServiceConfig) (proposed : SupervisorConfig) (issues : List ConfigIssue)
        (recomputed : List String),RegistrationAuthority.proposedService draft=.ok service →
        RegistrationAuthority.proposeChange before draft.operation draft.serviceId service=
          .ok (proposed,issues,recomputed) → warnings=recomputed := by
  have shows := showsChange fixtureRetold true
  refine ⟨fun claim => ?_,fun claim => ?_,fun claim => ?_⟩
  · have based := claim fixtureBound fixtureChoice fixtureDraftId _ fixtureRetold
      reviewable_fixtureRetold _ _ _ shows
    revert based
    decide +kernel
  · have recomputed := claim fixtureBound fixtureChoice fixtureDraftId _ fixtureRetold
      reviewable_fixtureRetold _ _ _ shows
    cases recomputed
  · obtain ⟨service,there⟩ : ∃service,RegistrationAuthority.proposedService fixtureRetold=
        .ok (some service) ∧ service.environment.isEmpty :=
      ⟨fixtureService "Worker" "/srv/worker",by decide +kernel⟩
    have recomputed := claim fixtureBound fixtureChoice fixtureDraftId _ fixtureRetold
      reviewable_fixtureRetold _ _ _ shows (some service) _ _ _ there.1 rfl
    rw [if_pos there.2] at recomputed
    cases recomputed

end Fixture

end AkuSupervisor
