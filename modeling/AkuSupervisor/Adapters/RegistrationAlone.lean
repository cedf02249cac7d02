import AkuSupervisor.Adapters.RegistrationRun

namespace AkuSupervisor

open Program

/-- The answers to a process that works alone. The world is the number of its calls and the files,
and `choices` is what the environment contributes to each call. -/
def alone (process : Nat) (choices : Nat → RegistrationChoice) (call : RegistrationCall)
    (world : Nat × RegistrationFiles) : call.Answer × Nat × RegistrationFiles :=
  let (answer,files) := world.2.respond process (choices world.1) call
  (answer,world.1+1,files)

namespace RegistrationAuthority

variable (authority : RegistrationAuthority)

/-- A commit from its first call to its last one, without other processes. -/
def commitAlone (process : Nat) (choices : Nat → RegistrationChoice)
    (draftId auditActor : String) (files : RegistrationFiles) :
    Except RegistrationError CommitResult × RegistrationFiles :=
  let (result,_,files) := eval (alone process choices)
    (authority.commitWithActor draftId auditActor).run (0,files)
  (result,files)

/-- The files that a commit leaves which is interrupted after so many calls. -/
def commitInterrupted (process : Nat) (choices : Nat → RegistrationChoice) (calls : Nat)
    (draftId auditActor : String) (files : RegistrationFiles) : RegistrationFiles :=
  (interrupted (alone process choices) calls
    (authority.commitWithActor draftId auditActor).run (0,files)).2.2

end RegistrationAuthority

/-- The draft is stored as it was, and the configuration has not been replaced. -/
structure Untouched (draft : RegistrationDraft) (before files : RegistrationFiles) : Prop where
  stored : files.drafts draft.draftId=some (.value draft)
  config : files.config=before.config
  log : files.replacements=before.replacements

/-- The configuration has not been replaced because it is at the proposed revision of the draft,
which is recorded as committed. -/
structure Recovered (authority : RegistrationAuthority) (draft : RegistrationDraft)
    (before files : RegistrationFiles) : Prop where
  proposed : ∃current,before.config=.value current ∧
    authority.fingerprint current=draft.proposedRevision
  recorded : files.statusOf draft.draftId=some .committed
  config : files.config=before.config
  log : files.replacements=before.replacements

/-- The configuration has been replaced by what the draft makes of it. -/
structure Replaced (authority : RegistrationAuthority) (draft : RegistrationDraft)
    (before files : RegistrationFiles) (config : SupervisorConfig) : Prop where
  base : ∃current,before.config=.value current ∧ authority.Applies draft current config
  config : files.config=.value config
  log : files.replacements=before.replacements++[draft.draftId]
  held : files.drafts draft.draftId=some (.value draft) ∨
    files.statusOf draft.draftId=some .committed

namespace RegistrationMode

/-- How far the commit of an approved draft has come when it is in the mode. -/
def Fits (authority : RegistrationAuthority) (draft : RegistrationDraft)
    (before files : RegistrationFiles) : RegistrationMode → Prop
  | .outside seen => seen=[] ∧ Untouched draft before files
  | .locked => Untouched draft before files
  | .vacant draftId => Untouched draft before files ∧ files.drafts draftId=none
  | .approved found base => found=draft ∧ Untouched draft before files ∧
      ∀current,base=some current → before.config=.value current
  | .replaced found config => found=draft ∧ Replaced authority draft before files config
  | .recorded | .finished => files.statusOf draft.draftId=some .committed ∧
      (Recovered authority draft before files ∨ ∃config,Replaced authority draft before files config)
  | .lost => ∃config,Replaced authority draft before files config

/-- Under the lock, the commit of the draft reads this draft only. -/
def readsOnly (draft : RegistrationDraft) (m : RegistrationMode) (draftId : String) : Prop :=
  m=.locked ∧ draftId=draft.draftId

namespace Fits

variable {authority : RegistrationAuthority} {draft : RegistrationDraft}
  {before files : RegistrationFiles} {m : RegistrationMode}

/-- The lock and the audit do not matter. -/
theorem aside (fits : m.Fits authority draft before files) (lock : Option Nat)
    (audit : List RegistrationAuditRecord) :
    m.Fits authority draft before { files with lock, audit } := by
  have untouched (h : Untouched draft before files) :
      Untouched draft before { files with lock, audit } := ⟨h.stored,h.config,h.log⟩
  have recovered (h : Recovered authority draft before files) :
      Recovered authority draft before { files with lock, audit } :=
    ⟨h.proposed,h.recorded,h.config,h.log⟩
  have replaced {config : SupervisorConfig} (h : Replaced authority draft before files config) :
      Replaced authority draft before { files with lock, audit } config :=
    ⟨h.base,h.config,h.log,h.held⟩
  cases m with
  | outside seen => exact ⟨fits.1,untouched fits.2⟩
  | locked => exact untouched fits
  | vacant id => exact ⟨untouched fits.1,fits.2⟩
  | approved found base => exact ⟨fits.1,untouched fits.2.1,fits.2.2⟩
  | replaced found config => exact ⟨fits.1,replaced fits.2⟩
  | recorded =>
    exact ⟨fits.1,fits.2.imp recovered fun ⟨config,here⟩ => ⟨config,replaced here⟩⟩
  | finished =>
    exact ⟨fits.1,fits.2.imp recovered fun ⟨config,here⟩ => ⟨config,replaced here⟩⟩
  | lost =>
    obtain ⟨config,here⟩ := fits
    exact ⟨config,replaced here⟩

theorem spoil (fits : m.Fits authority draft before files) :
    m.spoiled.Fits authority draft before files := by
  cases m with
  | replaced found config => exact ⟨config,fits.2⟩
  | _ => exact fits

/-- A call that either works or fails and changes nothing; `next` is the mode after it. -/
theorem attempt (fits : m.Fits authority draft before files) (choice : RegistrationChoice)
    {α : Type} (a : α) (files' : RegistrationFiles) (next : Except IoFailure α → RegistrationMode)
    (worked : (next (.ok a)).Fits authority draft before files')
    (failing : ∀failure,next (.error failure)=m.spoiled) :
    (next (files.attempt choice a files').1).Fits authority draft before
      (files.attempt choice a files').2 := by
  unfold RegistrationFiles.attempt
  cases choice.failure with
  | none => exact worked
  | some failure =>
    show (next (.error failure)).Fits authority draft before files
    rw [failing]
    exact fits.spoil

/-- The process writes a draft: another new one, or this one as committed. -/
theorem write (fits : m.Fits authority draft before files) {written : RegistrationDraft}
    (may : m.mayWrite authority written) :
    m.written.Fits authority draft before (files.storeDraft written) := by
  cases m with
  | outside seen =>
    have none := may.2
    rw [fits.1] at none
    cases none
  | vacant id =>
    have apart : draft.draftId≠written.draftId := by
      intro same
      have there := fits.1.stored
      rw [same,may.2,fits.2] at there
      cases there
    refine ⟨?_,fits.1.config,fits.1.log⟩
    simpa [RegistrationFiles.storeDraft,Function.update_of_ne apart] using fits.1.stored
  | approved found base =>
    obtain ⟨rfl,untouched,read⟩ := fits
    obtain ⟨status,named,current,here,proposed⟩ := may
    have recorded : (files.storeDraft written).statusOf found.draftId=some .committed := by
      rw [RegistrationFiles.statusOf_storeDraft,if_pos named.symm,status]
    exact ⟨recorded,.inl ⟨⟨current,read current here,proposed⟩,recorded,untouched.config,
      untouched.log⟩⟩
  | replaced found config =>
    obtain ⟨rfl,replaced⟩ := fits
    obtain ⟨status,named⟩ := may
    have recorded : (files.storeDraft written).statusOf found.draftId=some .committed := by
      rw [RegistrationFiles.statusOf_storeDraft,if_pos named.symm,status]
    exact ⟨recorded,.inr ⟨config,replaced.base,replaced.config,replaced.log,.inr recorded⟩⟩
  | locked => cases may
  | recorded => cases may
  | finished => cases may
  | lost => cases may

/-- What the process knows stays true with every call of its own that the discipline permits. -/
theorem respond (approved : draft.status=.approved) (fits : m.Fits authority draft before files)
    (process : Nat) (choice : RegistrationChoice) (call : RegistrationCall)
    (may : m.permits authority (readsOnly draft) call) :
    (m.after call (files.respond process choice call).1).Fits authority draft before
      (files.respond process choice call).2 := by
  cases call with
  | now => exact fits.attempt choice _ files (m.after .now) fits fun _ => rfl
  | createDirectory =>
    exact fits.attempt choice () files (m.after .createDirectory) fits fun _ => rfl
  | writeLock createdAt =>
    exact fits.attempt choice () files (m.after (.writeLock createdAt)) fits fun _ => rfl
  | writeTemporary =>
    exact fits.attempt choice () files (m.after .writeTemporary) fits fun _ => rfl
  | appendAudit record =>
    exact fits.attempt choice () { files with audit := files.audit++[record] }
      (m.after (.appendAudit record)) (fits.aside files.lock _) fun _ => rfl
  | replaceDraft written =>
    exact fits.attempt choice () (files.storeDraft written) (m.after (.replaceDraft written))
      (fits.write may) fun _ => rfl
  | replaceConfig draftId config =>
    refine fits.attempt choice () (files.replaceConfig draftId config)
      (m.after (.replaceConfig draftId config)) ?_ fun _ => rfl
    obtain ⟨found,current,rfl,rfl,applies⟩ := may
    obtain ⟨rfl,untouched,read⟩ := fits
    exact ⟨rfl,⟨current,read current rfl,applies⟩,rfl,by rw [← untouched.log]; rfl,
      .inl untouched.stored⟩
  | createLock =>
    obtain ⟨seen,rfl⟩ := may
    show ((RegistrationMode.outside seen).after .createLock (files.takeLock process choice).1).Fits
      authority draft before (files.takeLock process choice).2
    unfold RegistrationFiles.takeLock
    split_ifs with taken
    · exact fits
    · cases choice.failure with
      | some failure => exact fits
      | none => exact ⟨fits.2.stored,fits.2.config,fits.2.log⟩
  | removeLock =>
    show m.dropped.Fits authority draft before (files.dropLock choice)
    have dropped : m.dropped.Fits authority draft before files := by
      cases m with
      | locked => exact ⟨rfl,fits⟩
      | vacant id => exact ⟨rfl,fits.1⟩
      | approved found base => exact ⟨rfl,fits.2.1⟩
      | recorded => exact fits
      | lost => exact fits
      | outside seen => cases may
      | replaced found config => cases may
      | finished => cases may
    unfold RegistrationFiles.dropLock
    split_ifs
    · exact dropped.aside none files.audit
    · exact dropped
  | draftExists draftId =>
    show (m.after (.draftExists draftId) (files.drafts draftId).isSome).Fits authority draft before
      files
    cases there : files.drafts draftId with
    | none =>
      cases m with
      | locked => exact ⟨fits,there⟩
      | _ => exact fits
    | some content =>
      cases m with
      | vacant id => exact fits.1
      | _ => exact fits
  | readDraft draftId =>
    obtain ⟨rfl,rfl⟩ := may
    show (RegistrationMode.locked.after (.readDraft draft.draftId)
      (files.readDraft choice draft.draftId)).Fits authority draft before files
    cases result : files.readDraft choice draft.draftId with
    | error e => exact fits
    | ok found =>
      have there := RegistrationFiles.readDraft_ok result
      rw [fits.stored] at there
      cases there
      show (RegistrationMode.locked.reading draft).Fits authority draft before files
      unfold RegistrationMode.reading
      rw [approved]
      exact ⟨rfl,fits,nofun⟩
  | readConfig =>
    show (m.after .readConfig (files.readConfig choice)).Fits authority draft before files
    cases result : files.readConfig choice with
    | error e => exact fits
    | ok config =>
      show (m.basing config).Fits authority draft before files
      cases m with
      | approved found base =>
        refine ⟨fits.1,fits.2.1,fun current here => ?_⟩
        cases here
        rw [← fits.2.1.config]
        exact RegistrationFiles.readConfig_ok result
      | _ => exact fits
  | pathState => exact fits
  | queryService control serviceId => exact fits
  | observeReconciliation config revision => exact fits
  | isTerminal => exact fits
  | review reviewed commitAfterApproval =>
    show m.Fits authority draft before (files.attempt choice choice.typed files).2
    unfold RegistrationFiles.attempt
    cases choice.failure <;> exact fits

theorem replaced (fits : m.Fits authority draft before files)
    (replacing : files.replacements≠before.replacements) :
    ∃config,Replaced authority draft before files config := by
  have recorded (reached : Recovered authority draft before files ∨
      ∃config,Replaced authority draft before files config) :=
    reached.resolve_left fun recovered => replacing recovered.log
  cases m with
  | outside seen => exact absurd fits.2.log replacing
  | locked => exact absurd fits.log replacing
  | vacant id => exact absurd fits.1.log replacing
  | approved found base => exact absurd fits.2.1.log replacing
  | replaced found config => exact ⟨config,fits.2⟩
  | recorded => exact recorded fits.2
  | finished => exact recorded fits.2
  | lost => exact fits

end Fits

end RegistrationMode

namespace RegistrationAuthority

variable {authority : RegistrationAuthority} {draft : RegistrationDraft}
  {files : RegistrationFiles}

theorem fits_start (stored : files.drafts draft.draftId=some (.value draft)) :
    (RegistrationMode.outside []).Fits authority draft files files := ⟨rfl,stored,rfl,rfl⟩

theorem keeps_commit (draft : RegistrationDraft) (auditActor : String) :
    RegistrationM.Keeps authority (RegistrationMode.readsOnly draft)
      (authority.commitWithActor draft.draftId auditActor) (.outside []) (fun _ m => m=.finished)
      fun _ _ => True :=
  authority.keeps_commitWithActor draft.draftId auditActor [] ⟨rfl,rfl⟩

/-- Wherever the commit of an approved draft ends, it has left the files as far as it has come, and
when it succeeds it has recorded the draft as committed. -/
theorem commitAlone_cases (authority : RegistrationAuthority)
    (stored : files.drafts draft.draftId=some (.value draft))
    (approved : draft.status=.approved) (process : Nat) (choices : Nat → RegistrationChoice)
    (auditActor : String) :
    ∃m : RegistrationMode,m.Fits authority draft files
        (authority.commitAlone process choices draft.draftId auditActor files).2 ∧
      ∀result,(authority.commitAlone process choices draft.draftId auditActor files).1=.ok result →
        m=.finished := by
  obtain ⟨m,fits,ends⟩ := (keeps_commit draft auditActor).eval (alone process choices)
    (fun world m => m.Fits authority draft files world.2)
    (fun call world m fits may => fits.respond approved process (choices world.1) call may)
    (t := (0,files)) (fits_start stored)
  refine ⟨m,fits,fun result here => ?_⟩
  change (eval (alone process choices) (authority.commitWithActor draft.draftId auditActor).run
    (0,files)).1=.ok result at here
  rw [here] at ends
  exact ends

theorem commitInterrupted_fits (stored : files.drafts draft.draftId=some (.value draft))
    (approved : draft.status=.approved) (process : Nat) (choices : Nat → RegistrationChoice)
    (calls : Nat) (auditActor : String) :
    ∃m : RegistrationMode,m.Fits authority draft files
      (authority.commitInterrupted process choices calls draft.draftId auditActor files) := by
  exact (keeps_commit draft auditActor).interrupted (alone process choices)
    (fun world m => m.Fits authority draft files world.2)
    (fun call world m fits may => fits.respond approved process (choices world.1) call may)
    calls (t := (0,files)) (fits_start stored)

end RegistrationAuthority

end AkuSupervisor
