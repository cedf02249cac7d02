import AkuSupervisor.Adapters.RegistrationAlone

namespace AkuSupervisor

open Program RegistrationM

/-- The environment lets so many calls from the `n`-th on succeed. -/
def Works (choices : Nat → RegistrationChoice) (n calls : Nat) : Prop :=
  ∀i < calls,(choices (n+i)).failure=none

theorem works_one {choices : Nat → RegistrationChoice} {n : Nat} :
    Works choices n 1 ↔ (choices n).failure=none := by
  constructor
  · intro works
    exact works 0 (by omega)
  · intro works i below
    have first : i=0 := by omega
    subst first
    exact works

theorem works_add {choices : Nat → RegistrationChoice} (n first more : Nat) :
    Works choices n (first+more) ↔ Works choices n first ∧ Works choices (n+first) more := by
  constructor
  · intro works
    refine ⟨fun i below => works i (by omega),fun i below => ?_⟩
    have later := works (first+i) (by omega)
    rwa [← Nat.add_assoc] at later
  · intro works i below
    by_cases early : i < first
    · exact works.1 i early
    · have later := works.2 (i-first) (by omega)
      rwa [show n+first+(i-first)=n+i by omega] at later

theorem RegistrationFiles.attempt_ok {files after : RegistrationFiles} {choice : RegistrationChoice}
    {α : Type} {a : α} (works : choice.failure=none) :
    files.attempt choice a after=(.ok a,after) := by
  unfold attempt
  rw [works]

theorem RegistrationFiles.works_of_attempt {files after : RegistrationFiles}
    {choice : RegistrationChoice} {α : Type} {a b : α}
    (result : (files.attempt choice a after).1=.ok b) : choice.failure=none := by
  unfold attempt at result
  cases failed : choice.failure with
  | none => rfl
  | some failure =>
    rw [failed] at result
    cases result

namespace RegistrationM

variable {process : Nat} {choices : Nat → RegistrationChoice} {n : Nat} {files : RegistrationFiles}
  {α β ε : Type}

/-- A call whose failure ends the operation. -/
theorem yields_call (call : RegistrationCall) (meaning : ε → RegistrationError)
    (result : call.Answer → Except ε β) {cond : Prop} {b : β} {files' : RegistrationFiles}
    (good : cond → result (files.respond process (choices n) call).1=.ok b ∧
      (files.respond process (choices n) call).2=files')
    (only : ∀b',result (files.respond process (choices n) call).1=.ok b' → cond) :
    Yields (alone process choices) (do settle meaning (result (← ask call)) : RegistrationM β)
      (n,files) cond b (n+1,files') := by
  have asked : Yields (alone process choices) (ask call) (n,files) True
      (files.respond process (choices n) call).1
      (n+1,(files.respond process (choices n) call).2) := .lift (perform call) (n,files)
  have settled : cond → Yields (alone process choices)
      (settle meaning (result (files.respond process (choices n) call).1))
      (n+1,(files.respond process (choices n) call).2) True b (n+1,files') := by
    intro holds
    obtain ⟨here,there⟩ := good holds
    rw [here,there]
    exact .pure b _
  by_cases holds : cond
  · exact (asked.bind fun _ => settled holds).congr ⟨fun _ => ⟨trivial,trivial⟩,fun _ => holds⟩
  · refine ⟨fun now => absurd now holds,fun b' u ended => ?_⟩
    cases answer : result (files.respond process (choices n) call).1 with
    | ok b' => exact only b' answer
    | error e =>
      rw [eval_attempt,asked.ends trivial] at ended
      simp only [answer] at ended
      cases ended

theorem yields_attempt (call : RegistrationCall) (meaning : IoFailure → RegistrationError)
    (result : call.Answer → Except IoFailure α) (a : α) (files' : RegistrationFiles)
    (answers : (result (files.respond process (choices n) call).1,
      (files.respond process (choices n) call).2)=files.attempt (choices n) a files') :
    Yields (alone process choices) (do settle meaning (result (← ask call)) : RegistrationM α)
      (n,files) (Works choices n 1) a (n+1,files') := by
  have first : result (files.respond process (choices n) call).1=
      (files.attempt (choices n) a files').1 := congrArg Prod.fst answers
  have second : (files.respond process (choices n) call).2=
      (files.attempt (choices n) a files').2 := congrArg Prod.snd answers
  refine (yields_call call meaning result (fun works => ?_) fun b here => ?_).congr works_one
  · rw [RegistrationFiles.attempt_ok works] at first second
    exact ⟨first,second⟩
  · rw [first] at here
    exact RegistrationFiles.works_of_attempt here

theorem yields_nowMs : Yields (alone process choices) nowMs (n,files) (Works choices n 1)
    (choices n).clock (n+1,files) :=
  yields_attempt .now clockError id _ files rfl

theorem yields_createDirectory (code : String) : Yields (alone process choices)
    (createDirectory code) (n,files) (Works choices n 1) () (n+1,files) :=
  yields_attempt .createDirectory (ioError code) id () files rfl

theorem yields_check {result : Except RegistrationError α} {a : α} (good : result=.ok a)
    (t : Nat × RegistrationFiles) :
    Yields (alone process choices) (check result) t True a t := by
  rw [good]
  exact .pure a t

theorem yields_prepareReplacement : Yields (alone process choices) prepareReplacement (n,files)
    (Works choices n 3) () (n+3,files) := by
  refine ((yields_createDirectory _).bind fun _ => yields_nowMs.bind fun _ =>
    yields_attempt .writeTemporary temporaryError id () files rfl).congr ?_
  rw [works_add n 1 2,works_add (n+1) 1 1]

theorem yields_writeDraft (draft : RegistrationDraft)
    (valid : validateDraftId draft.draftId=.ok ()) :
    Yields (alone process choices) (writeDraft draft) (n,files) (Works choices n 4) ()
      (n+4,files.storeDraft draft) := by
  refine ((yields_check valid _).bind fun _ => yields_prepareReplacement.bind fun _ =>
    yields_attempt (.replaceDraft draft) replaceError id () (files.storeDraft draft) rfl).congr ?_
  rw [works_add n 3 1,true_and]

theorem yields_auditRegistration (process : Nat) (choices : Nat → RegistrationChoice) (n : Nat)
    (files : RegistrationFiles) (event : String) (draft : RegistrationDraft)
    (actor : Option String) :
    ∃audit,Yields (alone process choices) (auditRegistration event draft actor) (n,files)
      (Works choices n 3) () (n+3,{ files with audit }) := by
  refine ⟨_,((yields_createDirectory _).bind fun _ => yields_nowMs.bind fun _ =>
    yields_attempt (.appendAudit _) auditError id () _ rfl).congr ?_⟩
  rw [works_add n 1 2,works_add (n+1) 1 1]

theorem yields_writeLockRecord : Yields (alone process choices) writeLockRecord (n,files)
    (Works choices n 2) () (n+2,files) := by
  refine (yields_nowMs.bind fun _ =>
    yields_attempt (.writeLock (choices n).clock) lockRecordError id () files rfl).congr ?_
  rw [works_add n 1 1]

theorem yields_takeLock : Yields (alone process choices)
    (do settle lockError (← ask .createLock)) (n,files) (files.lock=none ∧ Works choices n 1) ()
    (n+1,{ files with lock := some process }) := by
  refine yields_call .createLock lockError id (fun holds => ?_) fun _ here => ?_
  · show id (files.takeLock process (choices n)).1=_ ∧ (files.takeLock process (choices n)).2=_
    unfold RegistrationFiles.takeLock
    rw [holds.1,works_one.mp holds.2]
    exact ⟨rfl,rfl⟩
  · change (files.takeLock process (choices n)).1=_ at here
    unfold RegistrationFiles.takeLock at here
    split_ifs at here with held
    · rw [works_one]
      cases failed : (choices n).failure with
      | none => exact ⟨Option.not_isSome_iff_eq_none.mp held,rfl⟩
      | some failure =>
        rw [failed] at here
        cases here

theorem eval_dropLock (result : Except RegistrationError α) (t : Nat × RegistrationFiles) :
    eval (alone process choices)
      (do let _ ← ask .removeLock; check result : RegistrationM α).run t=
        (result,t.1+1,t.2.dropLock (choices t.1)) := by
  cases result <;> rfl

/-- While nothing fails, an operation under the lock ends as it would with the lock. -/
theorem eval_withCommitLock (body : RegistrationM α) (free : files.lock=none)
    (works : Works choices 0 4) {result : Except RegistrationError α} {t : Nat × RegistrationFiles}
    (inner : eval (alone process choices) body.run (4,{ files with lock := some process })=
      (result,t)) :
    eval (alone process choices) (withCommitLock body).run (0,files)=
      (result,t.1+1,t.2.dropLock (choices t.1)) := by
  have first := (works_add 0 1 3).mp works
  have second := (works_add 1 1 2).mp first.2
  have marked : eval (alone process choices) (do writeLockRecord; body : RegistrationM α).run
      (2,{ files with lock := some process })=(result,t) := by
    rw [eval_attempt,yields_writeLockRecord.ends second.2]
    exact inner
  have locked : eval (alone process choices)
      (do settle lockError (← ask .createLock) : RegistrationM Unit).run (1,files)=
        (.ok (),2,{ files with lock := some process }) :=
    yields_takeLock.ends ⟨free,second.1⟩
  have caught : eval (alone process choices)
      (do
        let result ← (monadLift (do writeLockRecord; body : RegistrationM α).run :
          RegistrationM (Except RegistrationError α))
        let _ ← ask .removeLock
        check result : RegistrationM α).run (2,{ files with lock := some process })=
          (result,t.1+1,t.2.dropLock (choices t.1)) := by
    rw [eval_attempt,(Yields.lift _ _).ends trivial,marked]
    exact eval_dropLock result t
  have whole : withCommitLock body=(do
      createDirectory "commit_lock_directory_create"
      (do settle lockError (← ask .createLock) : RegistrationM Unit)
      let result ← (monadLift (do writeLockRecord; body : RegistrationM α).run :
        RegistrationM (Except RegistrationError α))
      let _ ← ask .removeLock
      check result) := rfl
  rw [whole,eval_attempt,(yields_createDirectory _).ends first.1]
  dsimp only
  rw [eval_attempt,locked]
  exact caught

/-- The lock has to be free, and it is dropped at the end. -/
theorem yields_withCommitLock (body : RegistrationM α) {cond : Prop} {a : α} {m : Nat}
    {files' : RegistrationFiles}
    (inner : Yields (alone process choices) body (4,{ files with lock := some process }) cond a
      (m,files')) :
    Yields (alone process choices) (withCommitLock body) (0,files)
      (files.lock=none ∧ Works choices 0 4 ∧ cond) a (m+1,files'.dropLock (choices m)) := by
  have marked : Yields (alone process choices) (do writeLockRecord; body)
      (2,{ files with lock := some process }) (Works choices 2 2 ∧ cond) a (m,files') :=
    yields_writeLockRecord.bind fun _ => inner
  refine ((yields_createDirectory _).bind fun _ => yields_takeLock.bind fun _ =>
    marked.caught (fun _ => ⟨fun _ => eval_dropLock (.ok a) (m,files'),fun _ _ _ => trivial⟩)
      fun e u c v ended => ?_).congr ?_
  · rw [eval_dropLock] at ended
    cases ended
  · rw [works_add 0 1 3,works_add 1 1 2]
    tauto

end RegistrationM

namespace RegistrationAuthority

variable {authority : RegistrationAuthority} {process : Nat} {choices : Nat → RegistrationChoice}
  {n : Nat} {files : RegistrationFiles} {draft : RegistrationDraft}

theorem yields_getDraft (stored : files.drafts draft.draftId=some (.value draft))
    (verified : authority.verifyDraft draft=.ok ()) :
    Yields (alone process choices) (authority.getDraft draft.draftId) (n,files)
      (Works choices n 1) draft (n+1,files) := by
  have read : Yields (alone process choices)
      (do settle draftReadError (← ask (.readDraft draft.draftId))) (n,files) (Works choices n 1)
      draft (n+1,files) := by
    refine (yields_call (.readDraft draft.draftId) draftReadError id (fun works => ?_)
      fun b here => ?_).congr works_one
    · refine ⟨?_,rfl⟩
      show files.readDraft (choices n) draft.draftId=.ok draft
      unfold RegistrationFiles.readDraft
      rw [stored,works]
      rfl
    · change files.readDraft (choices n) draft.draftId=.ok b at here
      unfold RegistrationFiles.readDraft at here
      rw [stored] at here
      cases failed : (choices n).failure with
      | none => rfl
      | some failure =>
        rw [failed] at here
        cases here
  refine ((yields_check (authority.validateDraftId_of_verified verified) _).bind fun _ =>
    read.bind fun _ => (yields_check verified _).bind fun _ => .pure draft _).congr ?_
  tauto

theorem yields_currentConfig {current : SupervisorConfig} (here : files.config=.value current) :
    Yields (alone process choices) authority.currentConfig (n,files)
      (Works choices n 1 ∧ authority.Accepts current) current (n+1,files) := by
  have read : Yields (alone process choices)
      (do settle (configReadError authority.configurationPath) (← ask .readConfig)) (n,files)
      (Works choices n 1) current (n+1,files) := by
    refine (yields_call .readConfig _ id (fun works => ?_) fun b there => ?_).congr works_one
    · refine ⟨?_,rfl⟩
      show files.readConfig (choices n)=.ok current
      unfold RegistrationFiles.readConfig
      rw [works,here]
      rfl
    · change files.readConfig (choices n)=.ok b at there
      unfold RegistrationFiles.readConfig at there
      cases failed : (choices n).failure with
      | none => rfl
      | some failure =>
        rw [failed] at there
        cases there
  have checked : Yields (alone process choices) (do
      settle configError (SupervisorConfig.validateStructure authority.facts current)
      check (ensureRegistrationSafeEnvironment current)
      return current) (n+1,files) (authority.Accepts current) current (n+1,files) := by
    constructor
    · intro accepts
      rw [accepts.structural,accepts.environment]
      rfl
    · intro b u ended
      cases structural : SupervisorConfig.validateStructure authority.facts current with
      | error e =>
        rw [structural] at ended
        cases ended
      | ok _ =>
        cases environment : ensureRegistrationSafeEnvironment current with
        | error e =>
          rw [structural,environment] at ended
          cases ended
        | ok _ => exact ⟨structural,environment⟩
  exact read.bind fun _ => checked

theorem yields_recordCommitted (process : Nat) (choices : Nat → RegistrationChoice) (n : Nat)
    (files : RegistrationFiles) (event auditActor : String)
    (valid : validateDraftId draft.draftId=.ok ()) :
    ∃result files',Yields (alone process choices) (recordCommitted draft event auditActor) (n,files)
        (Works choices n 8) result (n+9,files') ∧
      files'.statusOf draft.draftId=some .committed ∧ files'.config=files.config := by
  let committed := { draft with
    status := .committed, committedAtUnixMs := some (choices n).clock }
  obtain ⟨audit,audited⟩ := yields_auditRegistration process choices (n+5)
    (files.storeDraft committed) event committed (some auditActor)
  have told : Yields (alone process choices) (resultOf committed)
      (n+8,{ files.storeDraft committed with audit }) (True ∧ True) _ _ :=
    (Yields.lift (perform (RegistrationCall.observeReconciliation _ _)) _).bind fun _ => .pure _ _
  refine ⟨_,{ files.storeDraft committed with audit },(yields_nowMs.bind fun _ =>
    (yields_writeDraft committed valid).bind fun _ => audited.bind fun _ => told).congr ?_,?_,rfl⟩
  · rw [works_add n 1 7,works_add (n+1) 4 3]
    tauto
  · show (files.storeDraft committed).statusOf draft.draftId=some .committed
    rw [RegistrationFiles.statusOf_storeDraft,if_pos rfl]

/-- The commit of an approved draft whose configuration is in place already. -/
theorem yields_recovery (process : Nat) (choices : Nat → RegistrationChoice)
    {current : SupervisorConfig} (auditActor : String)
    (stored : files.drafts draft.draftId=some (.value draft)) (approved : draft.status=.approved)
    (verified : authority.verifyDraft draft=.ok ()) (here : files.config=.value current)
    (proposed : authority.fingerprint current=draft.proposedRevision) :
    ∃result calls files',Yields (alone process choices)
      (authority.commitWithActor draft.draftId auditActor) (0,files)
      (files.lock=none ∧ Works choices 0 15 ∧ (choices 5).clock≤draft.expiresAtUnixMs ∧
        authority.Accepts current) result (calls,files') ∧
      files'.statusOf draft.draftId=some .committed ∧ files'.config=files.config := by
  obtain ⟨result,files',recorded,committed,config⟩ := yields_recordCommitted process choices 7
    { files with lock := some process } "commit_recovered" auditActor
    (authority.validateDraftId_of_verified verified)
  have timely : Yields (alone process choices) nowMs (5,{ files with lock := some process })
    (Works choices 5 1) (choices 5).clock (6,{ files with lock := some process }) := yields_nowMs
  have configured : Yields (alone process choices) authority.currentConfig
      (6,{ files with lock := some process }) (Works choices 6 1 ∧ authority.Accepts current)
      current (7,{ files with lock := some process }) := yields_currentConfig here
  have read : Yields (alone process choices) (authority.getDraft draft.draftId)
      (4,{ files with lock := some process }) (Works choices 4 1) draft
      (5,{ files with lock := some process }) := yields_getDraft stored verified
  refine ⟨result,17,files'.dropLock (choices 16),(yields_withCommitLock _ (?_ : Yields _ _ _ (Works choices 4 1 ∧
    Works choices 5 1 ∧ ¬draft.expiresAtUnixMs<(choices 5).clock ∧
    (Works choices 6 1 ∧ authority.Accepts current) ∧ Works choices 7 8) _ _)).congr ?_,?_,?_⟩
  · refine read.bind fun _ => ?_
    rw [if_neg (by rw [approved]; decide),if_neg (by rw [approved]; decide)]
    refine timely.bind fun _ => .guarded () fun _ => configured.bind fun _ => ?_
    rw [if_pos proposed]
    exact recorded
  · rw [works_add 0 4 11,works_add 4 1 10,works_add 5 1 9,works_add 6 1 8,Nat.not_lt]
    tauto
  · unfold RegistrationFiles.dropLock
    split_ifs <;> exact committed
  · unfold RegistrationFiles.dropLock
    split_ifs <;> exact config

/-- A commit of the draft succeeds, records it as committed and leaves the configuration alone. -/
def Recovers (authority : RegistrationAuthority) (process : Nat)
    (choices : Nat → RegistrationChoice) (draftId auditActor : String) (files : RegistrationFiles) :
    Prop :=
  (∃result,(authority.commitAlone process choices draftId auditActor files).1=.ok result) ∧
  (authority.commitAlone process choices draftId auditActor files).2.statusOf draftId=
    some .committed ∧
  (authority.commitAlone process choices draftId auditActor files).2.config=files.config

theorem recovers_iff {current : SupervisorConfig} (auditActor : String)
    (stored : files.drafts draft.draftId=some (.value draft)) (approved : draft.status=.approved)
    (verified : authority.verifyDraft draft=.ok ()) (here : files.config=.value current)
    (proposed : authority.fingerprint current=draft.proposedRevision) :
    authority.Recovers process choices draft.draftId auditActor files ↔
      files.lock=none ∧ Works choices 0 15 ∧ (choices 5).clock≤draft.expiresAtUnixMs ∧
        authority.Accepts current := by
  obtain ⟨result,calls,files',yields,committed,config⟩ := yields_recovery process choices
    auditActor stored approved verified here proposed
  constructor
  · intro recovers
    obtain ⟨⟨other,succeeds⟩,-⟩ := recovers
    have run : eval (alone process choices)
        (authority.commitWithActor draft.draftId auditActor).run (0,files)=
          (.ok other,(eval (alone process choices)
            (authority.commitWithActor draft.draftId auditActor).run (0,files)).2) :=
      Prod.ext succeeds rfl
    exact yields.only _ _ run
  · intro holds
    have commit : authority.commitAlone process choices draft.draftId auditActor files=
        (.ok result,files') := by
      unfold commitAlone
      rw [yields.ends holds]
    unfold Recovers
    rw [commit]
    exact ⟨⟨result,rfl⟩,committed,config⟩

/-- A commit that has replaced the configuration but has not recorded the draft as committed. -/
theorem replaced_of_commitInterrupted (authority : RegistrationAuthority)
    (stored : files.drafts draft.draftId=some (.value draft)) (approved : draft.status=.approved) (process : Nat) (choices : Nat → RegistrationChoice)
    (calls : Nat) (auditActor : String) (after : RegistrationFiles)
    (interruption : after=
      authority.commitInterrupted process choices calls draft.draftId auditActor files)
    (replacing : after.replacements≠files.replacements)
    (unrecorded : after.statusOf draft.draftId≠some .committed) :
    ∃config,Replaced authority draft files after config ∧
      after.drafts draft.draftId=some (.value draft) := by
  subst interruption
  obtain ⟨m,fits⟩ := commitInterrupted_fits stored approved process choices calls auditActor
  obtain ⟨config,replaced⟩ := fits.replaced replacing
  exact ⟨config,replaced,replaced.held.resolve_right unrecorded⟩

end RegistrationAuthority

/-- A commit that was interrupted after it replaced the configuration leaves one that is accepted
and at the proposed revision. As long as it is, a later commit of the draft recovers just if no lock
is left over, its calls work, the draft has not expired and the configuration is still accepted. -/
theorem interrupted_commit_recovers_iff (authority : RegistrationAuthority)
    (draft : RegistrationDraft) (files after : RegistrationFiles) (process calls : Nat)
    (choices : Nat → RegistrationChoice) (auditActor : String)
    (stored : files.drafts draft.draftId=some (.value draft)) (approved : draft.status=.approved)
    (interruption : after=
      authority.commitInterrupted process choices calls draft.draftId auditActor files)
    (replacing : after.replacements≠files.replacements)
    (unrecorded : after.statusOf draft.draftId≠some .committed) :
    (∃config,after.config=.value config ∧ authority.fingerprint config=draft.proposedRevision ∧
      authority.Accepts config) ∧
    ∀(later : RegistrationFiles) (current : SupervisorConfig),
      later.drafts draft.draftId=after.drafts draft.draftId → later.config=.value current →
      authority.fingerprint current=draft.proposedRevision →
      ∀(process' : Nat) (choices' : Nat → RegistrationChoice) (auditActor' : String),
        authority.Recovers process' choices' draft.draftId auditActor' later ↔
          later.lock=none ∧ Works choices' 0 15 ∧
            (choices' 5).clock≤draft.expiresAtUnixMs ∧ authority.Accepts current := by
  obtain ⟨config,replaced,held⟩ := RegistrationAuthority.replaced_of_commitInterrupted authority
    stored approved process choices calls auditActor after interruption replacing unrecorded
  obtain ⟨base,-,applies⟩ := replaced.base
  refine ⟨⟨config,replaced.config,applies.revision,applies.accepts⟩,?_⟩
  intro later current same here proposed process' choices' auditActor'
  rw [held] at same
  exact RegistrationAuthority.recovers_iff auditActor' same approved applies.verified here proposed

section Fixture

/-- The draft of the worker after its approval. -/
def fixtureApproved : RegistrationDraft :=
  { fixtureDraft with status := .approved, approvedAtUnixMs := some 500 }

def fixtureReady : RegistrationFiles := fixtureFiles.storeDraft fixtureApproved

/-- The file of the draft cannot be replaced. -/
def fixtureUnwritten (call : Nat) : RegistrationChoice :=
  if call=16 then { fixtureChoice with failure := some ⟨.write,"disk full"⟩ } else fixtureChoice

def fixtureHalfway : RegistrationFiles :=
  fixtureAuthority.commitInterrupted 1 fixtureUnwritten 18 fixtureDraftId "registration_mcp"
    fixtureReady

/-- The clock has passed the expiry of the draft by a millisecond. -/
def fixtureExpired (_ : Nat) : RegistrationChoice :=
  { fixtureChoice with clock := draftLifetimeMs+1 }

theorem fixture_halfway :
    fixtureHalfway.replacements=[fixtureDraftId] ∧ fixtureHalfway.lock=none ∧
    fixtureHalfway.statusOf fixtureDraftId=some .approved ∧
    fixtureHalfway.config=.value fixtureProposed := by
  decide +kernel

theorem stored_fixtureReady :
    fixtureReady.drafts fixtureApproved.draftId=some (.value fixtureApproved) := by
  have read : fixtureApproved.reread fixtureFiles.round=fixtureApproved :=
    RegistrationDraft.reread_id fixtureApproved
  have stored := RegistrationFiles.drafts_storeDraft fixtureFiles fixtureApproved
  rwa [read] at stored

/-- The commit whose last replacement fails, and the one that recovers it in time. -/
theorem interrupted_commit_recovers_iff_halfway :
    fixtureHalfway.replacements≠fixtureReady.replacements ∧
    fixtureHalfway.statusOf fixtureDraftId≠some .committed ∧
    fixtureAuthority.Recovers 2 (fun _ => fixtureChoice) fixtureDraftId "human_cli"
      fixtureHalfway := by
  obtain ⟨log,lock,status,config⟩ := fixture_halfway
  have replacing : fixtureHalfway.replacements≠fixtureReady.replacements := by
    rw [log]
    exact List.cons_ne_nil _ _
  have unrecorded : fixtureHalfway.statusOf fixtureDraftId≠some .committed := by
    rw [status]
    decide
  obtain ⟨⟨found,there,proposed,accepts⟩,recovers⟩ := interrupted_commit_recovers_iff
    fixtureAuthority fixtureApproved fixtureReady fixtureHalfway 1 18 fixtureUnwritten
    "registration_mcp" stored_fixtureReady rfl rfl replacing unrecorded
  have timely : fixtureChoice.clock≤fixtureApproved.expiresAtUnixMs := by decide
  exact ⟨replacing,unrecorded,(recovers fixtureHalfway found rfl there proposed 2
    (fun _ => fixtureChoice) "human_cli").mpr ⟨lock,fun _ _ => rfl,timely,accepts⟩⟩

/-- After the expiry of the draft the commit is not recovered, although nothing else is amiss. -/
theorem interrupted_commit_expired :
    ¬∀(authority : RegistrationAuthority) (draft : RegistrationDraft)
      (files after : RegistrationFiles) (process calls : Nat) (choices : Nat → RegistrationChoice)
      (auditActor : String),
      files.drafts draft.draftId=some (.value draft) → draft.status=.approved →
      after=authority.commitInterrupted process choices calls draft.draftId auditActor files →
      after.replacements≠files.replacements → after.statusOf draft.draftId≠some .committed →
      ∀(current : SupervisorConfig),after.config=.value current →
        authority.fingerprint current=draft.proposedRevision → authority.Accepts current →
        after.lock=none → ∀(process' : Nat) (choices' : Nat → RegistrationChoice)
          (auditActor' : String),(∀call,(choices' call).failure=none) →
          authority.Recovers process' choices' draft.draftId auditActor' after := by
  intro claim
  obtain ⟨log,lock,status,config⟩ := fixture_halfway
  have replacing : fixtureHalfway.replacements≠fixtureReady.replacements := by
    rw [log]
    exact List.cons_ne_nil _ _
  have unrecorded : fixtureHalfway.statusOf fixtureApproved.draftId≠some .committed := by
    show fixtureHalfway.statusOf fixtureDraftId≠_
    rw [status]
    decide
  obtain ⟨found,replaced,held⟩ := RegistrationAuthority.replaced_of_commitInterrupted
    fixtureAuthority stored_fixtureReady rfl 1 fixtureUnwritten 18
    "registration_mcp" fixtureHalfway rfl replacing unrecorded
  obtain ⟨base,-,applies⟩ := replaced.base
  have recovers := claim fixtureAuthority fixtureApproved fixtureReady fixtureHalfway 1 18
    fixtureUnwritten "registration_mcp" stored_fixtureReady rfl rfl replacing unrecorded found
    replaced.config applies.revision applies.accepts lock 2 fixtureExpired "human_cli" fun _ => rfl
  have timely := ((RegistrationAuthority.recovers_iff "human_cli" held rfl applies.verified
    replaced.config applies.revision).mp recovers).2.2.1
  exact absurd timely (by decide)

end Fixture

end AkuSupervisor
