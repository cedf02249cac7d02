import AkuSupervisor.Adapters.RegistrationRecovery

namespace AkuSupervisor

/-- The configurations agree in everything except one service. -/
structure SupervisorConfig.AgreeExcept (serviceId : String) (current config : SupervisorConfig) :
    Prop where
  rest : config={ current with services := config.services }
  others : ∀id≠serviceId,config.services[id]?=current.services[id]?

namespace RegistrationAuthority

variable {authority : RegistrationAuthority}

theorem agreeExcept_of_proposeChange {current proposed : SupervisorConfig}
    {operation : RegistrationOperation} {serviceId : String} {service : Option ServiceConfig}
    {issues : List ConfigIssue} {warnings : List String}
    (change : proposeChange current operation serviceId service=.ok (proposed,issues,warnings)) :
    SupervisorConfig.AgreeExcept serviceId current proposed := by
  have inserted (added : ServiceConfig) : SupervisorConfig.AgreeExcept serviceId current
      { current with services := current.services.insert serviceId added } := by
    refine ⟨rfl,fun id other => ?_⟩
    rw [Std.ExtTreeMap.getElem?_insert,if_neg]
    rw [Std.LawfulEqCmp.compare_eq_iff_eq]
    exact other.symm
  have erased : SupervisorConfig.AgreeExcept serviceId current
      { current with services := current.services.erase serviceId } := by
    refine ⟨rfl,fun id other => ?_⟩
    rw [Std.ExtTreeMap.getElem?_erase,if_neg]
    rw [Std.LawfulEqCmp.compare_eq_iff_eq]
    exact other.symm
  unfold proposeChange at change
  cases operation with
  | register =>
    cases service with
    | none => cases change
    | some added =>
      cases change
      exact inserted added
  | update =>
    cases service with
    | none => cases change
    | some added =>
      cases change
      exact inserted added
  | unregister =>
    cases service with
    | some added => cases change
    | none =>
      cases change
      exact erased

theorem Applies.agreeExcept {draft : RegistrationDraft} {current config : SupervisorConfig}
    (applies : authority.Applies draft current config) :
    SupervisorConfig.AgreeExcept draft.serviceId current config := by
  obtain ⟨service,-,proposes⟩ := applies.proposed
  obtain ⟨warnings,change⟩ := proposes.change
  exact agreeExcept_of_proposeChange change

/-- No other configuration has the fingerprint of this one. -/
def CollisionFree (authority : RegistrationAuthority) (config : SupervisorConfig) : Prop :=
  ∀other,authority.fingerprint other=authority.fingerprint config → other=config

variable (authority) in
theorem configDigest_of_fingerprint {a b : SupervisorConfig}
    (same : authority.fingerprint a=authority.fingerprint b) :
    authority.configDigest a=authority.configDigest b :=
  (String.append_right_inj "sha256:").mp same

variable (authority) in
theorem proposalDigest_of_hash {a b : RegistrationProposal}
    (same : authority.hashProposal a=authority.hashProposal b) :
    authority.proposalDigest a=authority.proposalDigest b :=
  (String.append_right_inj "sha256:").mp same

theorem Applies.eq_afterConfiguration {draft : RegistrationDraft}
    {current config : SupervisorConfig} (applies : authority.Applies draft current config)
    (free : authority.CollisionFree draft.afterConfiguration) : config=draft.afterConfiguration := by
  apply free
  rw [applies.revision,(authority.verifyDraft_ok applies.verified).2]

end RegistrationAuthority

/-- The configuration is what it was, and it has not been replaced. -/
structure ConfigurationKept (files after : RegistrationFiles) : Prop where
  config : after.config=files.config
  log : after.replacements=files.replacements

/-- The configuration at the base revision of the draft has been replaced by the approved one, which
differs in the service of the draft only. -/
structure ProposalWritten (authority : RegistrationAuthority) (draft : RegistrationDraft)
    (files after : RegistrationFiles) (base : SupervisorConfig) : Prop where
  before : files.config=.value base
  based : authority.fingerprint base=draft.baseRevision
  only : ∀other,authority.fingerprint other=draft.baseRevision → other=base
  written : after.config=.value draft.afterConfiguration
  proposed : authority.fingerprint draft.afterConfiguration=draft.proposedRevision
  frame : SupervisorConfig.AgreeExcept draft.serviceId base draft.afterConfiguration
  log : after.replacements=files.replacements++[draft.draftId]

/-- A commit of an approved draft fails and keeps the configuration, or keeps it and records the
draft because it is at the proposed revision already, or writes the approved configuration in place
of the one that the draft is based on. -/
theorem commit_frames_configuration (authority : RegistrationAuthority) (draft : RegistrationDraft)
    (files : RegistrationFiles) (process : Nat) (choices : Nat → RegistrationChoice)
    (auditActor : String) (stored : files.drafts draft.draftId=some (.value draft))
    (approved : draft.status=.approved)
    (afterFree : authority.CollisionFree draft.afterConfiguration)
    (currentFree : ∀current,files.config=.value current → authority.CollisionFree current)
    (result : Except RegistrationError CommitResult) (after : RegistrationFiles)
    (commit : authority.commitAlone process choices draft.draftId auditActor files=(result,after)) :
    (∃error,result=.error error) ∧ ConfigurationKept files after ∨
    (∃current,files.config=.value current ∧ authority.fingerprint current=draft.proposedRevision) ∧
      after.statusOf draft.draftId=some .committed ∧ ConfigurationKept files after ∨
    ∃base,ProposalWritten authority draft files after base := by
  obtain ⟨m,fits,ends⟩ := RegistrationAuthority.commitAlone_cases authority stored
    approved process choices auditActor
  rw [commit] at fits ends
  -- nothing has been replaced before the lock is taken or the draft found stale
  have failed (untouched : Untouched draft files after) (unfinished : m≠.finished) :
      (∃error,result=.error error) ∧ ConfigurationKept files after := by
    refine ⟨?_,untouched.config,untouched.log⟩
    cases result with
    | error e => exact ⟨e,rfl⟩
    | ok result => exact absurd (ends result rfl) unfinished
  have replaced {config : SupervisorConfig} (holds : Replaced authority draft files after config) :
      ∃base,ProposalWritten authority draft files after base := by
    obtain ⟨base,here,applies⟩ := holds.base
    have same := applies.eq_afterConfiguration afterFree
    subst same
    refine ⟨base,here,applies.based,fun other revision => ?_,holds.config,applies.revision,
      applies.agreeExcept,holds.log⟩
    exact currentFree base here other (revision.trans applies.based.symm)
  have recorded (reached : Recovered authority draft files after ∨
      ∃config,Replaced authority draft files after config) :
      ((∃current,files.config=.value current ∧
        authority.fingerprint current=draft.proposedRevision) ∧
        after.statusOf draft.draftId=some .committed ∧ ConfigurationKept files after) ∨
      ∃base,ProposalWritten authority draft files after base := by
    cases reached with
    | inl recovered =>
      exact .inl ⟨recovered.proposed,recovered.recorded,recovered.config,recovered.log⟩
    | inr here =>
      obtain ⟨config,holds⟩ := here
      exact .inr (replaced holds)
  cases m with
  | outside seen => exact .inl (failed fits.2 (by simp))
  | locked => exact .inl (failed fits (by simp))
  | vacant id => exact .inl (failed fits.1 (by simp))
  | approved found base => exact .inl (failed fits.2.1 (by simp))
  | replaced found config => exact .inr (.inr (replaced fits.2))
  | recorded => exact .inr (recorded fits.2)
  | finished => exact .inr (recorded fits.2)
  | lost =>
    obtain ⟨config,holds⟩ := fits
    exact .inr (.inr (replaced holds))

section Fixture

/-- The digests of the two configurations are those of no other one. -/
def fixtureExact : RegistrationAuthority :=
  { fixtureAuthority with
    configDigest := fun config =>
      if config=fixtureProposed then fixtureAuthority.configDigest fixtureProposed
      else if config=fixtureBase then fixtureAuthority.configDigest fixtureBase
      else "0000000000000000000000000000000000000000000000000000000000000000" }

/-- The files of the approved draft with the configuration at its proposed revision already. -/
def fixtureAhead : RegistrationFiles := { fixtureReady with config := .value fixtureProposed }

/-- The commit of the approved draft, in which everything works. -/
def fixtureCommit (authority : RegistrationAuthority) (files : RegistrationFiles) :
    Except RegistrationError CommitResult × RegistrationFiles :=
  authority.commitAlone 1 (fun _ => fixtureChoice) fixtureApproved.draftId "human_cli" files

theorem fixtureCommit_eq (authority : RegistrationAuthority) (files : RegistrationFiles) :
    authority.commitAlone 1 (fun _ => fixtureChoice) fixtureApproved.draftId "human_cli" files=
      ((fixtureCommit authority files).1,(fixtureCommit authority files).2) := rfl

theorem fixtureExact_free : fixtureExact.CollisionFree fixtureProposed ∧
    fixtureExact.CollisionFree fixtureBase := by
  have digests : fixtureExact.configDigest fixtureProposed=
        fixtureAuthority.configDigest fixtureProposed ∧
      fixtureExact.configDigest fixtureBase=fixtureAuthority.configDigest fixtureBase ∧
      fixtureAuthority.configDigest fixtureProposed≠fixtureAuthority.configDigest fixtureBase ∧
      fixtureAuthority.configDigest fixtureProposed≠
        "0000000000000000000000000000000000000000000000000000000000000000" ∧
      fixtureAuthority.configDigest fixtureBase≠
        "0000000000000000000000000000000000000000000000000000000000000000" := by
    decide +kernel
  obtain ⟨proposed,base,apart,proposedUsed,baseUsed⟩ := digests
  constructor
  · intro other same
    have digest := fixtureExact.configDigest_of_fingerprint same
    rw [proposed] at digest
    simp only [fixtureExact] at digest
    split_ifs at digest with first second
    · exact first
    · exact absurd digest.symm apart
    · exact absurd digest.symm proposedUsed
  · intro other same
    have digest := fixtureExact.configDigest_of_fingerprint same
    rw [base] at digest
    simp only [fixtureExact] at digest
    split_ifs at digest with first second
    · exact absurd digest apart
    · exact second
    · exact absurd digest.symm baseUsed

theorem fixtureCommit_log : (fixtureCommit fixtureExact fixtureReady).2.replacements=[fixtureDraftId] ∧
    (fixtureCommit fixtureExact fixtureAhead).2.replacements=[] ∧ (fixtureCommit fixtureExact fixtureAhead).1.isOk := by
  decide +kernel

theorem commit_frames_configuration_fresh : ProposalWritten fixtureExact fixtureApproved
    fixtureReady (fixtureCommit fixtureExact fixtureReady).2 fixtureBase := by
  have free (current : SupervisorConfig) (here : fixtureReady.config=.value current) :
      fixtureExact.CollisionFree current := by
    cases here
    exact fixtureExact_free.2
  have logged (kept : ConfigurationKept fixtureReady (fixtureCommit fixtureExact fixtureReady).2) : False := by
    have log := kept.log
    rw [fixtureCommit_log.1] at log
    cases log
  obtain ⟨-,kept⟩ | ⟨-,-,kept⟩ | ⟨base,written⟩ := commit_frames_configuration fixtureExact
    fixtureApproved fixtureReady 1 (fun _ => fixtureChoice) "human_cli" stored_fixtureReady rfl
    fixtureExact_free.1 free (fixtureCommit fixtureExact fixtureReady).1 (fixtureCommit fixtureExact fixtureReady).2
    (fixtureCommit_eq fixtureExact fixtureReady)
  · exact (logged kept).elim
  · exact (logged kept).elim
  · have same := written.before
    cases same
    exact written

/-- The commit of an approved draft whose proposed configuration is in place succeeds and replaces
nothing. -/
theorem commit_keeps_configuration_ahead :
    ¬∀(authority : RegistrationAuthority) (draft : RegistrationDraft) (files : RegistrationFiles)
      (process : Nat) (choices : Nat → RegistrationChoice) (auditActor : String),
      files.drafts draft.draftId=some (.value draft) → draft.status=.approved →
      authority.CollisionFree draft.afterConfiguration →
      (∀current,files.config=.value current → authority.CollisionFree current) →
      ∀(result : Except RegistrationError CommitResult) (after : RegistrationFiles),
      authority.commitAlone process choices draft.draftId auditActor files=(result,after) →
      (∃error,result=.error error) ∧ ConfigurationKept files after ∨
      ∃base,ProposalWritten authority draft files after base := by
  intro claim
  have free (current : SupervisorConfig) (here : fixtureAhead.config=.value current) :
      fixtureExact.CollisionFree current := by
    cases here
    exact fixtureExact_free.1
  obtain ⟨⟨error,failed⟩,-⟩ | ⟨base,written⟩ := claim fixtureExact fixtureApproved fixtureAhead 1
    (fun _ => fixtureChoice) "human_cli" stored_fixtureReady rfl fixtureExact_free.1 free
    (fixtureCommit fixtureExact fixtureAhead).1 (fixtureCommit fixtureExact fixtureAhead).2 (fixtureCommit_eq fixtureExact fixtureAhead)
  · have succeeds := fixtureCommit_log.2.2
    rw [failed] at succeeds
    cases succeeds
  · have log := written.log
    rw [fixtureCommit_log.2.1] at log
    cases log

end Fixture

end AkuSupervisor
