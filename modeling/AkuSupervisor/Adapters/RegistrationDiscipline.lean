import AkuSupervisor.Adapters.RegistrationProposal

namespace AkuSupervisor

open Program RegistrationM

/-- What a process may rely on: the drafts it has seen without the lock, or what it has found out
while it holds the lock. `approved` is the draft to commit, with the configuration it is for once
that has been read, `recorded` a draft that is stored as committed, `finished` the same after the
lock, and `lost` a commit that replaced the configuration and then failed. -/
inductive RegistrationMode where
  | outside (seen : List String)
  | locked
  | vacant (draftId : String)
  | approved (draft : RegistrationDraft) (base : Option SupervisorConfig)
  | replaced (draft : RegistrationDraft) (config : SupervisorConfig)
  | recorded
  | finished
  | lost

namespace RegistrationMode

/-- The modes of a process that holds the lock. -/
def owns : RegistrationMode → Bool
  | .outside _ | .finished | .lost => false
  | .locked | .vacant _ | .approved _ _ | .replaced _ _ | .recorded => true

/-- The draft that has replaced the configuration and is to be recorded as committed. -/
def applied : RegistrationMode → Option String
  | .replaced draft _ => some draft.draftId
  | _ => none

theorem owns_of_applied {m : RegistrationMode} {draftId : String}
    (applied : m.applied=some draftId) : m.owns=true := by
  cases m with
  | replaced draft config => rfl
  | _ => cases applied

/-- After a call that failed. -/
def spoiled : RegistrationMode → RegistrationMode
  | .replaced _ _ => .lost
  | m => m

/-- After the draft was read. -/
def reading (draft : RegistrationDraft) : RegistrationMode → RegistrationMode
  | .outside seen => .outside (draft.draftId::seen)
  | .locked =>
    match draft.status with
    | .prepared => .locked
    | .approved => .approved draft none
    | .committed => .recorded
  | m => m

/-- After the configuration was read. -/
def basing (config : SupervisorConfig) : RegistrationMode → RegistrationMode
  | .approved draft _ => .approved draft (some config)
  | m => m

/-- After a draft was written. -/
def written : RegistrationMode → RegistrationMode
  | .vacant _ => .locked
  | .approved _ _ | .replaced _ _ => .recorded
  | m => m

/-- After the configuration was replaced. -/
def replacing (config : SupervisorConfig) : RegistrationMode → RegistrationMode
  | .approved draft _ => .replaced draft config
  | m => m

/-- After the lock was dropped. -/
def dropped : RegistrationMode → RegistrationMode
  | .recorded => .finished
  | .lost => .lost
  | _ => .outside []

/-- The drafts that may be written: approvals of drafts seen, a new draft where there is none, and
the commit of the draft found approved once the configuration is at its proposed revision. -/
def mayWrite (authority : RegistrationAuthority) (draft : RegistrationDraft) :
    RegistrationMode → Prop
  | .outside seen => draft.status=.approved ∧ draft.draftId∈seen
  | .vacant draftId => draft.status=.prepared ∧ draft.draftId=draftId
  | .approved found base => draft.status=.committed ∧ draft.draftId=found.draftId ∧
      ∃current,base=some current ∧ authority.fingerprint current=found.proposedRevision
  | .replaced found _ => draft.status=.committed ∧ draft.draftId=found.draftId
  | .locked | .recorded | .finished | .lost => False

/-- Whether the lock may be dropped. -/
def mayDrop : RegistrationMode → Prop
  | .outside _ | .replaced _ _ | .finished => False
  | _ => True

/-- `reads` are the drafts that may be read in a mode. The configuration is only replaced by what
the draft makes of the one that was read. -/
def permits (authority : RegistrationAuthority) (reads : RegistrationMode → String → Prop) :
    RegistrationMode → RegistrationCall → Prop
  | m,.readDraft draftId => reads m draftId
  | m,.replaceDraft draft => m.mayWrite authority draft
  | m,.replaceConfig draftId config => ∃draft current,m=.approved draft (some current) ∧
      draft.draftId=draftId ∧ authority.Applies draft current config
  | m,.createLock => ∃seen,m=.outside seen
  | m,.removeLock => m.mayDrop
  | _,_ => True

def afterResult {ε α : Type} (m : RegistrationMode) : Except ε α → RegistrationMode
  | .ok _ => m
  | .error _ => m.spoiled

def after (m : RegistrationMode) : (call : RegistrationCall) → call.Answer → RegistrationMode
  | .createLock,.ok () => .locked
  | .removeLock,_ => m.dropped
  | .draftExists draftId,there =>
    match m,there with
    | .locked,false => .vacant draftId
    | .vacant _,true => .locked
    | m,_ => m
  | .readDraft _,.ok draft => m.reading draft
  | .readConfig,.ok config => m.basing config
  | .replaceDraft _,.ok () => m.written
  | .replaceConfig _ config,.ok () => m.replacing config
  | .now,result => m.afterResult result
  | .createDirectory,result | .writeTemporary,result | .writeLock _,result
  | .appendAudit _,result => m.afterResult result
  | .replaceDraft _,.error _ | .replaceConfig _ _,.error _ => m.spoiled
  | _,_ => m

end RegistrationMode

/-- The way the registration operations work together over the files they share. -/
def registrationDiscipline (authority : RegistrationAuthority)
    (reads : RegistrationMode → String → Prop) :
    Discipline RegistrationCall RegistrationCall.Answer RegistrationMode :=
  ⟨RegistrationMode.permits authority reads,RegistrationMode.after⟩

namespace RegistrationM

/-- The operation keeps to the discipline from the mode; `ok` and `err` are its possible ends. -/
abbrev Keeps (authority : RegistrationAuthority) (reads : RegistrationMode → String → Prop)
    {α : Type} (x : RegistrationM α) (m : RegistrationMode) (ok : α → RegistrationMode → Prop)
    (err : RegistrationError → RegistrationMode → Prop) : Prop :=
  Tries (registrationDiscipline authority reads) x m ok err

variable {authority : RegistrationAuthority} {reads : RegistrationMode → String → Prop}
  {α ε : Type} {m : RegistrationMode} {err : RegistrationError → RegistrationMode → Prop}

theorem keeps_ask (call : RegistrationCall) {ok : call.Answer → RegistrationMode → Prop}
    (may : m.permits authority reads call) (holds : ∀x,ok x (m.after call x)) :
    Keeps authority reads (ask call) m ok err :=
  (tries_lift _).mpr ⟨may,holds⟩

theorem keeps_settle {meaning : ε → RegistrationError} {result : Except ε α}
    {ok : α → RegistrationMode → Prop} (good : ∀a,result=.ok a → ok a m)
    (bad : ∀e,result=.error e → err (meaning e) m) :
    Keeps authority reads (settle meaning result) m ok err := by
  cases result with
  | ok a => exact good a rfl
  | error e => exact bad e rfl

theorem keeps_check {result : Except RegistrationError α} {ok : α → RegistrationMode → Prop}
    (good : ∀a,result=.ok a → ok a m) (bad : ∀e,err e m) :
    Keeps authority reads (check result) m ok err :=
  keeps_settle good fun e _ => bad e

/-- A call whose failure ends the operation. -/
theorem keeps_call (call : RegistrationCall) {β : Type} (result : call.Answer → Except ε β)
    (meaning : ε → RegistrationError) {ok : β → RegistrationMode → Prop}
    (may : m.permits authority reads call)
    (good : ∀x b,result x=.ok b → ok b (m.after call x))
    (bad : ∀x e,result x=.error e → err (meaning e) (m.after call x)) :
    Keeps authority reads (do settle meaning (result (← ask call))) m ok err :=
  (tries_bind _ _).mpr (keeps_ask call may fun x => keeps_settle (good x) (bad x))

theorem keeps_nowMs {ok : Nat → RegistrationMode → Prop} (good : ∀now,ok now m)
    (bad : ∀e,err e m.spoiled) : Keeps authority reads nowMs m ok err := by
  refine keeps_call .now id clockError trivial (fun x now h => ?_) fun x e h => ?_
  · cases h
    exact good now
  · cases h
    exact bad (clockError e)

theorem keeps_createDirectory (code : String) {ok : Unit → RegistrationMode → Prop}
    (good : ok () m) (bad : ∀e,err e m.spoiled) :
    Keeps authority reads (createDirectory code) m ok err := by
  refine keeps_call .createDirectory id (ioError code) trivial (fun x a h => ?_)
    fun x e h => ?_
  · cases h
    exact good
  · cases h
    exact bad (ioError code e)

theorem keeps_prepareReplacement {ok : Unit → RegistrationMode → Prop} (good : ok () m)
    (bad : ∀e,err e m.spoiled) : Keeps authority reads prepareReplacement m ok err := by
  refine (tries_bind _ _).mpr (keeps_createDirectory _ ?_ bad)
  refine (tries_bind _ _).mpr (keeps_nowMs (fun _ => ?_) bad)
  refine keeps_call .writeTemporary id temporaryError trivial (fun x a h => ?_)
    fun x e h => ?_
  · cases h
    exact good
  · cases h
    exact bad (temporaryError e)

theorem keeps_writeDraft (draft : RegistrationDraft) {ok : Unit → RegistrationMode → Prop}
    (valid : validateDraftId draft.draftId=.ok ()) (may : m.mayWrite authority draft)
    (good : ok () m.written) (bad : ∀e,err e m.spoiled) :
    Keeps authority reads (writeDraft draft) m ok err := by
  refine (tries_bind _ _).mpr ?_
  rw [valid]
  refine (tries_bind _ _).mpr (keeps_prepareReplacement ?_ bad)
  refine keeps_call (.replaceDraft draft) id replaceError may (fun x a h => ?_)
    fun x e h => ?_
  · cases h
    exact good
  · cases h
    exact bad (replaceError e)

theorem keeps_writeConfig {draft : RegistrationDraft} {current config : SupervisorConfig}
    (applies : authority.Applies draft current config) {ok : Unit → RegistrationMode → Prop}
    (good : ok () (.replaced draft config)) (bad : ∀e,err e (.approved draft (some current))) :
    Keeps authority reads (writeConfig draft.draftId config) (.approved draft (some current)) ok
      err := by
  refine (tries_bind _ _).mpr (keeps_prepareReplacement ?_ bad)
  refine keeps_call (.replaceConfig draft.draftId config) id replaceError
    ⟨draft,current,rfl,rfl,applies⟩ (fun x a h => ?_) fun x e h => ?_
  · cases h
    exact good
  · cases h
    exact bad (replaceError e)

theorem keeps_auditRegistration (event : String) (draft : RegistrationDraft) (actor : Option String)
    {ok : Unit → RegistrationMode → Prop} (good : ok () m) (bad : ∀e,err e m.spoiled) :
    Keeps authority reads (auditRegistration event draft actor) m ok err := by
  refine (tries_bind _ _).mpr (keeps_createDirectory _ ?_ bad)
  refine (tries_bind _ _).mpr (keeps_nowMs (fun now => ?_) bad)
  refine keeps_call (.appendAudit _) id auditError trivial (fun x a h => ?_)
    fun x e h => ?_
  · cases h
    exact good
  · cases h
    exact bad (auditError e)

theorem keeps_writeLockRecord {ok : Unit → RegistrationMode → Prop} (good : ok () m)
    (bad : ∀e,err e m.spoiled) : Keeps authority reads writeLockRecord m ok err := by
  refine (tries_bind _ _).mpr (keeps_nowMs (fun now => ?_) bad)
  refine keeps_call (.writeLock now) id lockRecordError trivial (fun x a h => ?_)
    fun x e h => ?_
  · cases h
    exact good
  · cases h
    exact bad (lockRecordError e)

/-- An operation under the lock ends in a mode in which the lock may be dropped. -/
theorem keeps_withCommitLock (body : RegistrationM α) (seen : List String)
    {ok : α → RegistrationMode → Prop}
    (inner : Keeps authority reads body .locked (fun a m' => m'.mayDrop ∧ ok a m'.dropped)
      fun _ m' => m'.mayDrop) :
    Keeps authority reads (withCommitLock body) (.outside seen) ok fun _ _ => True := by
  refine (tries_bind _ _).mpr (keeps_createDirectory _ ?_ fun _ => trivial)
  refine (tries_bind _ _).mpr (keeps_ask .createLock ⟨seen,rfl⟩ fun taken => ?_)
  refine (tries_bind _ _).mpr (keeps_settle (fun _ here => ?_) fun _ _ => trivial)
  subst here
  refine (tries_bind _ _).mpr ((tries_lift _).mpr ?_)
  have marked : Keeps authority reads (do writeLockRecord; body) .locked
      (fun a m' => m'.mayDrop ∧ ok a m'.dropped) fun _ m' => m'.mayDrop :=
    (tries_bind _ _).mpr (keeps_writeLockRecord inner fun _ => trivial)
  refine Follows.mono marked fun result m' ends => ?_
  have may : m'.mayDrop := by
    cases result with
    | ok a => exact ends.1
    | error e => exact ends
  refine (tries_bind _ _).mpr (keeps_ask .removeLock may fun _ => ?_)
  refine keeps_check (fun a here => ?_) fun _ => trivial
  subst here
  exact ends.2

end RegistrationM

namespace RegistrationAuthority

variable (authority : RegistrationAuthority) {reads : RegistrationMode → String → Prop}
  {m : RegistrationMode} {err : RegistrationError → RegistrationMode → Prop}

theorem keeps_getDraft (draftId : String) (readable : reads m draftId)
    {ok : RegistrationDraft → RegistrationMode → Prop}
    (good : ∀draft,authority.verifyDraft draft=.ok () → ok draft (m.reading draft))
    (bad : ∀e,err e m) (unverified : ∀e draft,err e (m.reading draft)) :
    Keeps authority reads (authority.getDraft draftId) m ok err := by
  refine (tries_bind _ _).mpr (keeps_check (fun _ _ => ?_) bad)
  refine (tries_bind _ _).mpr (keeps_ask (.readDraft draftId) readable fun result => ?_)
  refine (tries_bind _ _).mpr (keeps_settle (fun draft here => ?_) fun e here => ?_)
  · subst here
    refine (tries_bind _ _).mpr (keeps_check (fun _ verified => ?_) fun e => unverified e draft)
    exact good draft verified
  · subst here
    exact bad (draftReadError e)

/-- The mode after a configuration that is accepted, or an end with or without one. -/
theorem keeps_currentConfig {ok : SupervisorConfig → RegistrationMode → Prop}
    (good : ∀config,authority.Accepts config → ok config (m.basing config)) (bad : ∀e,err e m)
    (rejected : ∀e config,err e (m.basing config)) :
    Keeps authority reads authority.currentConfig m ok err := by
  refine (tries_bind _ _).mpr (keeps_ask .readConfig trivial fun result => ?_)
  refine (tries_bind _ _).mpr (keeps_settle (fun config here => ?_) fun e here => ?_)
  · subst here
    refine (tries_bind _ _).mpr (keeps_settle (fun _ structural => ?_) fun _ _ =>
      rejected _ config)
    exact (tries_bind _ _).mpr (keeps_check (fun _ environment =>
      good config ⟨structural,environment⟩) fun e => rejected e config)
  · subst here
    exact bad (configReadError authority.configurationPath e)

theorem keeps_validateRegistrationProposal (current : SupervisorConfig)
    (operation : RegistrationOperation) (serviceId : String) (service : Option ServiceConfig)
    {ok : SupervisorConfig × List ConfigIssue × List String → RegistrationMode → Prop}
    (good : ∀proposal,(proposal.2.1=[] →
      authority.Proposes current operation serviceId service proposal.1) → ok proposal m)
    (bad : ∀e,err e m) : Keeps authority reads
      (authority.validateRegistrationProposal current operation serviceId service) m ok err := by
  refine (tries_bind _ _).mpr (keeps_check (fun _ target => ?_) bad)
  refine (tries_bind _ _).mpr (keeps_check (fun proposal change => ?_) bad)
  obtain ⟨proposed,issues,warnings⟩ := proposal
  have proposes (none : issues++SupervisorConfig.structuralContractIssues authority.facts proposed
      =[]) : authority.Proposes current operation serviceId service proposed := by
    obtain ⟨rfl,contract⟩ := List.append_eq_nil_iff.mp none
    exact ⟨target,⟨warnings,change⟩,contract⟩
  by_cases removed : operation=.unregister
  · simp only [removed,if_true]
    subst removed
    exact good (proposed,_,warnings) proposes
  · simp only [removed,if_false]
    refine (tries_bind _ _).mpr (keeps_ask .pathState trivial fun paths => ?_)
    exact good (proposed,_,warnings) fun none => proposes (mergeIssues_eq_nil none)

theorem keeps_validProposal (invalid : String) (current : SupervisorConfig)
    (operation : RegistrationOperation) (serviceId : String) (service : Option ServiceConfig)
    {ok : SupervisorConfig × List String → RegistrationMode → Prop}
    (good : ∀proposed,authority.Proposes current operation serviceId service proposed.1 →
      ok proposed m) (bad : ∀e,err e m) : Keeps authority reads
      (authority.validProposal invalid current operation serviceId service) m ok err := by
  refine (tries_bind _ _).mpr
    (authority.keeps_validateRegistrationProposal _ _ _ _ (fun proposal valid => ?_) bad)
  obtain ⟨proposed,issues,warnings⟩ := proposal
  cases issues with
  | nil => exact good (proposed,warnings) (valid rfl)
  | cons issue rest => exact bad _

theorem keeps_requireObservedStopped (config : SupervisorConfig) (serviceId : String)
    {ok : Unit → RegistrationMode → Prop} (good : ok () m) (bad : ∀e,err e m) :
    Keeps authority reads (requireObservedStopped config serviceId) m ok err := by
  refine (tries_bind _ _).mpr (keeps_ask (.queryService _ _) trivial fun response => ?_)
  refine (tries_bind _ _).mpr (keeps_check (fun _ _ => ?_) bad)
  exact keeps_check (fun _ _ => good) bad

theorem keeps_resultOf (draft : RegistrationDraft)
    {ok : CommitResult → RegistrationMode → Prop} (good : ∀result,ok result m) :
    Keeps authority reads (resultOf draft) m ok err :=
  (tries_bind _ _).mpr (keeps_ask (.observeReconciliation _ _) trivial fun _ => good _)

theorem mayDrop_reading (draft : RegistrationDraft) :
    (RegistrationMode.locked.reading draft).mayDrop := by
  unfold RegistrationMode.reading
  cases draft.status <;> trivial

/-- What `prepare` needs is that it may drop the lock in the end. -/
theorem keeps_reuseDraft (draftId : String) (same : RegistrationDraft → Bool)
    (readable : reads .locked draftId) :
    Keeps authority reads (authority.reuseDraft draftId same) .locked
      (fun _ m' => m'.mayDrop ∧ True) fun _ m' => m'.mayDrop := by
  refine (tries_bind _ _).mpr (authority.keeps_getDraft _ readable (fun existing _ => ?_)
    (fun _ => trivial) fun _ => mayDrop_reading)
  by_cases fits : same existing=true
  · rw [if_pos fits]
    exact ⟨mayDrop_reading existing,trivial⟩
  · rw [if_neg fits]
    exact mayDrop_reading existing

theorem keeps_persistDraft (draft : RegistrationDraft)
    (valid : validateDraftId draft.draftId=.ok ()) (prepared : draft.status=.prepared)
    (readable : reads .locked draft.draftId) :
    Keeps authority reads (authority.persistDraft draft.draftId draft) (.vacant draft.draftId)
      (fun _ m' => m'.mayDrop ∧ True) fun _ m' => m'.mayDrop := by
  refine (tries_bind _ _).mpr (keeps_createDirectory _ ?_ fun _ => trivial)
  refine (tries_bind _ _).mpr (keeps_ask (.draftExists draft.draftId) trivial fun there => ?_)
  cases there with
  | true => exact authority.keeps_reuseDraft draft.draftId _ readable
  | false =>
    refine (tries_bind _ _).mpr (keeps_writeDraft draft valid ⟨prepared,rfl⟩ ?_ fun _ => trivial)
    exact (tries_bind _ _).mpr (keeps_auditRegistration _ _ _ ⟨trivial,trivial⟩ fun _ => trivial)

theorem keeps_prepare (request : PrepareRegistration) (seen : List String)
    (readable : reads .locked (authority.draftIdForRequest request.requestId)) :
    Keeps authority reads (authority.prepare request) (.outside seen) (fun _ _ => True)
      fun _ _ => True := by
  refine (tries_bind _ _).mpr (keeps_check (fun _ _ => ?_) fun _ => trivial)
  refine (tries_bind _ _).mpr (keeps_check (fun _ _ => ?_) fun _ => trivial)
  refine keeps_withCommitLock _ seen ?_
  refine (tries_bind _ _).mpr (keeps_check (fun _ valid => ?_) fun _ => trivial)
  refine (tries_bind _ _).mpr (keeps_ask (.draftExists _) trivial fun there => ?_)
  cases there with
  | true => exact authority.keeps_reuseDraft _ _ readable
  | false =>
    refine (tries_bind _ _).mpr (authority.keeps_currentConfig (fun current _ => ?_)
      (fun _ => trivial) fun _ _ => trivial)
    by_cases based : request.baseRevision=authority.fingerprint current
    · simp only [based,ne_eq,not_true_eq_false,if_false]
      refine (tries_bind _ _).mpr (authority.keeps_validProposal _ _ _ _ _
        (fun proposal _ => ?_) fun _ => trivial)
      refine (tries_bind _ _).mpr (keeps_nowMs (fun now => ?_) fun _ => trivial)
      exact authority.keeps_persistDraft
        (authority.newDraft request current proposal.1 proposal.2 now) valid rfl readable
    · simp only [based,ne_eq,not_false_eq_true,if_true]
      exact trivial

/-- The draft approved has been read before, so it is stored. -/
theorem keeps_approveWithConfirmation (draft : RegistrationDraft) (confirmation : String)
    (seen : List String) (verified : authority.verifyDraft draft=.ok ())
    (mem : draft.draftId∈seen) :
    Keeps authority reads (approveWithConfirmation draft confirmation) (.outside seen)
      (fun _ m' => m'=.outside seen) fun _ _ => True := by
  have valid := authority.validateDraftId_of_verified verified
  unfold approveWithConfirmation
  by_cases prepared : draft.status=.prepared
  · simp only [prepared,ne_eq,not_true_eq_false,if_false]
    refine (tries_bind _ _).mpr (keeps_nowMs (fun now => ?_) fun _ => trivial)
    by_cases expired : draft.expiresAtUnixMs < now
    · simp only [expired,if_true]
      exact trivial
    · simp only [expired,if_false]
      by_cases phrase : confirmation=draft.confirmationPhrase
      · simp only [phrase,not_true_eq_false,if_false]
        refine (tries_bind _ _).mpr (keeps_nowMs (fun approvedAt => ?_) fun _ => trivial)
        refine (tries_bind _ _).mpr (keeps_writeDraft _ valid ⟨rfl,mem⟩ ?_ fun _ => trivial)
        exact (tries_bind _ _).mpr (keeps_auditRegistration _ _ _ rfl fun _ => trivial)
      · simp only [phrase,not_false_eq_true,if_true]
        exact trivial
  · simp only [prepared,ne_eq,not_false_eq_true,if_true]
    by_cases again : draft.status=.approved ∧ confirmation=draft.confirmationPhrase
    · rw [if_pos again]
      exact (tries_bind _ _).mpr (keeps_auditRegistration _ _ _ rfl fun _ => trivial)
    · rw [if_neg again]
      exact trivial

theorem keeps_approveInteractiveMode (draftId : String) (commitAfterApproval : Bool)
    (seen : List String) (readable : reads (.outside seen) draftId) :
    Keeps authority reads (authority.approveInteractiveMode draftId commitAfterApproval)
      (.outside seen) (fun _ m' => ∃seen',m'=.outside seen') fun _ _ => True := by
  refine (tries_bind _ _).mpr (keeps_ask .isTerminal trivial fun terminal => ?_)
  cases terminal with
  | false => exact trivial
  | true =>
    refine (tries_bind _ _).mpr (authority.keeps_getDraft _ readable (fun draft verified => ?_)
      (fun _ => trivial) fun _ _ => trivial)
    refine (tries_bind _ _).mpr (keeps_ask (.review draft commitAfterApproval) trivial
      fun typed => ?_)
    refine (tries_bind _ _).mpr (keeps_settle (fun _ here => ?_) fun _ _ => trivial)
    subst here
    refine (authority.keeps_approveWithConfirmation draft _ (draft.draftId::seen) verified
      List.mem_cons_self).mono (fun _ m' same => ⟨_,same⟩) fun _ _ _ => trivial

theorem keeps_recordCommitted (draft : RegistrationDraft) (event auditActor : String)
    (verified : authority.verifyDraft draft=.ok ())
    (may : ∀committed : RegistrationDraft,committed.status=.committed →
      committed.draftId=draft.draftId → m.mayWrite authority committed) (drop : m.spoiled.mayDrop)
    (written : m.written=.recorded) :
    Keeps authority reads (recordCommitted draft event auditActor) m
      (fun _ m' => m'.mayDrop ∧ m'.dropped=.finished) fun _ m' => m'.mayDrop := by
  have valid := authority.validateDraftId_of_verified verified
  refine (tries_bind _ _).mpr (keeps_nowMs (fun now => ?_) fun _ => drop)
  refine (tries_bind _ _).mpr (keeps_writeDraft _ valid (may _ rfl rfl) ?_ fun _ => drop)
  rw [written]
  refine (tries_bind _ _).mpr (keeps_auditRegistration _ _ _ ?_ fun _ => trivial)
  exact authority.keeps_resultOf _ fun _ => ⟨trivial,rfl⟩

theorem keeps_applyDraft {draft : RegistrationDraft} {current : SupervisorConfig}
    (verified : authority.verifyDraft draft=.ok ()) (approved : draft.status=.approved)
    (based : authority.fingerprint current=draft.baseRevision)
    (accepted : authority.Accepts current) {ok : Unit → RegistrationMode → Prop}
    (good : ∀config,ok () (.replaced draft config))
    (bad : ∀e,err e (.approved draft (some current))) :
    Keeps authority reads (authority.applyDraft draft current) (.approved draft (some current)) ok
      err := by
  have rest : Keeps authority reads (authority.applyProposal draft current)
      (.approved draft (some current)) ok err := by
    refine (tries_bind _ _).mpr (keeps_check (fun service found => ?_) bad)
    refine (tries_bind _ _).mpr
      (authority.keeps_validProposal _ _ _ _ _ (fun proposal proposes => ?_) bad)
    by_cases same : authority.fingerprint proposal.1=draft.proposedRevision
    · simp only [same,ne_eq,not_true_eq_false,if_false]
      exact keeps_writeConfig ⟨verified,approved,based,accepted,⟨service,found,proposes⟩,same⟩
        (good proposal.1) bad
    · simp only [same,ne_eq,not_false_eq_true,if_true]
      exact bad _
  unfold applyDraft
  by_cases gated : draft.operation=.update ∨ draft.operation=.unregister
  · rw [if_pos gated]
    exact (tries_bind _ _).mpr (authority.keeps_requireObservedStopped _ _ rest bad)
  · rw [if_neg gated]
    exact rest

/-- A commit that succeeds has found or left its draft recorded as committed. -/
theorem keeps_commitWithActor (draftId auditActor : String) (seen : List String)
    (readable : reads .locked draftId) :
    Keeps authority reads (authority.commitWithActor draftId auditActor) (.outside seen)
      (fun _ m' => m'=.finished) fun _ _ => True := by
  refine keeps_withCommitLock _ seen ?_
  refine (tries_bind _ _).mpr (authority.keeps_getDraft _ readable (fun draft verified => ?_)
    (fun _ => trivial) fun _ => mayDrop_reading)
  by_cases committed : draft.status=.committed
  · have mode : RegistrationMode.locked.reading draft=.recorded := by
      unfold RegistrationMode.reading
      rw [committed]
    rw [if_pos committed,mode]
    exact authority.keeps_resultOf _ fun _ => ⟨trivial,rfl⟩
  rw [if_neg committed]
  by_cases approved : draft.status=.approved
  · have mode : RegistrationMode.locked.reading draft=.approved draft none := by
      unfold RegistrationMode.reading
      rw [approved]
    rw [mode]
    simp only [approved,ne_eq,not_true_eq_false,if_false]
    refine (tries_bind _ _).mpr (keeps_nowMs (fun now => ?_) fun _ => trivial)
    by_cases expired : draft.expiresAtUnixMs < now
    · simp only [expired,if_true]
      exact trivial
    simp only [expired,if_false]
    refine (tries_bind _ _).mpr (authority.keeps_currentConfig (fun current accepted => ?_)
      (fun _ => trivial) fun _ _ => trivial)
    by_cases proposed : authority.fingerprint current=draft.proposedRevision
    · simp only [proposed,if_true]
      exact authority.keeps_recordCommitted draft _ _ verified
        (fun _ status id => ⟨status,id,current,rfl,proposed⟩) trivial rfl
    simp only [proposed,if_false]
    by_cases based : authority.fingerprint current=draft.baseRevision
    · simp only [based,not_true_eq_false,if_false]
      refine (tries_bind _ _).mpr (authority.keeps_applyDraft verified approved based accepted
        (fun config => ?_) fun _ => trivial)
      exact authority.keeps_recordCommitted draft _ _ verified
        (fun _ status id => ⟨status,id⟩) trivial rfl
    · simp only [based,not_false_eq_true,if_true]
      exact trivial
  · simp only [approved,ne_eq,not_false_eq_true,if_true]
    exact mayDrop_reading draft

theorem keeps_approveAndCommitInteractive (draftId : String) (seen : List String)
    (readable : ∀m,reads m draftId) :
    Keeps authority reads (authority.approveAndCommitInteractive draftId) (.outside seen)
      (fun _ m' => m'=.finished) fun _ _ => True := by
  refine (tries_bind _ _).mpr (authority.keeps_getDraft _ (readable _) (fun draft _ => ?_)
    (fun _ => trivial) fun _ _ => trivial)
  by_cases prepared : draft.status=.prepared
  · simp only [prepared,if_true]
    refine (tries_bind _ _).mpr ((authority.keeps_approveInteractiveMode _ _ _ (readable _)).mono
      (fun _ m' ends => ?_) fun _ _ _ => trivial)
    obtain ⟨seen',rfl⟩ := ends
    exact authority.keeps_commitWithActor _ _ _ (readable _)
  · simp only [prepared,if_false]
    exact authority.keeps_commitWithActor _ _ _ (readable _)

end RegistrationAuthority

end AkuSupervisor
