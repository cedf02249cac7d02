import AkuSupervisor.Adapters.RegistrationRun

namespace AkuSupervisor

open Program RegistrationM RegistrationFiles Interleaving

/-- The draft as it was prepared. -/
def RegistrationDraft.original (draft : RegistrationDraft) : RegistrationDraft :=
  { draft with status := .prepared, approvedAtUnixMs := none, committedAtUnixMs := none }

theorem RegistrationDraft.draftId_of_original {a b : RegistrationDraft}
    (same : a.original=b.original) : a.draftId=b.draftId := congrArg (·.draftId) same

theorem verifyDraft_of_original (authority : RegistrationAuthority) {a b : RegistrationDraft}
    (same : a.original=b.original) : authority.verifyDraft a=authority.verifyDraft b := by
  show authority.verifyDraft a.original=authority.verifyDraft b.original
  rw [same]

theorem requestMatchesDraft_of_original (request : PrepareRegistration) {a b : RegistrationDraft}
    (same : a.original=b.original) : requestMatchesDraft request a=requestMatchesDraft request b := by
  show requestMatchesDraft request a.original=requestMatchesDraft request b.original
  rw [same]

/-- No number of the draft is left different when it is printed and read again. -/
def RegistrationDraft.Survives (round : JsonNumber → JsonNumber) (draft : RegistrationDraft) :
    Prop := draft.reread round=draft

instance (round : JsonNumber → JsonNumber) (draft : RegistrationDraft) :
    Decidable (draft.Survives round) := inferInstanceAs (Decidable (_=_))

theorem RegistrationDraft.Survives.of_original {round : JsonNumber → JsonNumber}
    {a b : RegistrationDraft} (survives : b.Survives round) (same : a.original=b.original) :
    a.Survives round := by
  have read : a.original.reread round=a.original := by
    rw [same]
    exact congrArg RegistrationDraft.original survives
  calc a.reread round
      = { a.original.reread round with
          status := a.status
          approvedAtUnixMs := a.approvedAtUnixMs
          committedAtUnixMs := a.committedAtUnixMs } := rfl
    _ = { a.original with
          status := a.status
          approvedAtUnixMs := a.approvedAtUnixMs
          committedAtUnixMs := a.committedAtUnixMs } := by rw [read]
    _ = a := rfl

/-- Calls that neither look for, read nor write a draft and do not touch lock or configuration. -/
def RegistrationCall.Aside : RegistrationCall → Prop
  | .createLock | .removeLock | .draftExists _ | .readDraft _ | .replaceDraft _
  | .replaceConfig _ _ => False
  | _ => True

/-- The discipline of operations that make such calls only. -/
def asides : Discipline RegistrationCall RegistrationCall.Answer Unit :=
  ⟨fun _ call => call.Aside,fun _ _ _ => ()⟩

namespace RegistrationM

def IsAside {α : Type} (x : RegistrationM α) : Prop :=
  Tries asides x () (fun _ _ => True) fun _ _ => True

variable {α β ε : Type}

theorem IsAside.bind {x : RegistrationM α} {f : α → RegistrationM β} (first : IsAside x)
    (next : ∀a,IsAside (f a)) : IsAside (x >>= f) :=
  (tries_bind _ _).mpr (Tries.mono first (fun a _ _ => next a) fun _ _ _ => trivial)

theorem isAside_pure (a : α) : IsAside (pure a : RegistrationM α) := trivial

theorem isAside_throw (e : RegistrationError) : IsAside (throw e : RegistrationM α) := trivial

theorem isAside_ask (call : RegistrationCall) (may : call.Aside) : IsAside (ask call) :=
  (tries_lift _).mpr ⟨may,fun _ => trivial⟩

theorem isAside_settle (meaning : ε → RegistrationError) (result : Except ε α) :
    IsAside (settle meaning result) := by
  cases result with
  | ok a => exact isAside_pure a
  | error e => exact isAside_throw (meaning e)

theorem isAside_check (result : Except RegistrationError α) : IsAside (check result) :=
  isAside_settle id result

theorem isAside_ite {c : Prop} [Decidable c] {x y : RegistrationM α} (first : IsAside x)
    (second : IsAside y) : IsAside (if c then x else y) := by
  by_cases holds : c
  · rw [if_pos holds]
    exact first
  · rw [if_neg holds]
    exact second

theorem isAside_nowMs : IsAside nowMs :=
  (isAside_ask .now trivial).bind (isAside_settle clockError)

theorem isAside_createDirectory (code : String) : IsAside (createDirectory code) :=
  (isAside_ask .createDirectory trivial).bind (isAside_settle (ioError code))

theorem isAside_prepareReplacement : IsAside prepareReplacement :=
  (isAside_createDirectory _).bind fun _ => isAside_nowMs.bind fun _ =>
    (isAside_ask .writeTemporary trivial).bind (isAside_settle temporaryError)

theorem isAside_auditRegistration (event : String) (draft : RegistrationDraft)
    (actor : Option String) : IsAside (auditRegistration event draft actor) :=
  (isAside_createDirectory _).bind fun _ => isAside_nowMs.bind fun _ =>
    (isAside_ask (.appendAudit _) trivial).bind (isAside_settle auditError)

theorem isAside_writeLockRecord : IsAside writeLockRecord :=
  isAside_nowMs.bind fun _ => (isAside_ask (.writeLock _) trivial).bind
    (isAside_settle lockRecordError)

theorem isAside_currentConfig (authority : RegistrationAuthority) :
    IsAside authority.currentConfig :=
  (isAside_ask .readConfig trivial).bind fun _ => (isAside_settle _ _).bind fun _ =>
    (isAside_settle _ _).bind fun _ => (isAside_check _).bind fun _ => isAside_pure _

theorem isAside_validProposal (authority : RegistrationAuthority) (invalid : String)
    (current : SupervisorConfig) (operation : RegistrationOperation) (serviceId : String)
    (service : Option ServiceConfig) :
    IsAside (authority.validProposal invalid current operation serviceId service) := by
  have validated : IsAside
      (authority.validateRegistrationProposal current operation serviceId service) :=
    (isAside_check _).bind fun _ => (isAside_check _).bind fun _ => isAside_ite (isAside_pure _)
      ((isAside_ask .pathState trivial).bind fun _ => isAside_pure _)
  exact validated.bind fun _ => isAside_ite ((isAside_throw _).bind fun _ => isAside_pure _)
    (isAside_pure _)

theorem isAside_requireObservedStopped (config : SupervisorConfig) (serviceId : String) :
    IsAside (RegistrationAuthority.requireObservedStopped config serviceId) :=
  (isAside_ask (.queryService _ _) trivial).bind fun _ => (isAside_check _).bind fun _ =>
    isAside_check _

theorem isAside_resultOf (draft : RegistrationDraft) :
    IsAside (RegistrationAuthority.resultOf draft) :=
  (isAside_ask (.observeReconciliation _ _) trivial).bind fun _ => isAside_pure _

end RegistrationM

/-- What a process knows of the drafts: those it has read or written, whether it holds the lock, the
ID under which it has found nothing since it does, and whether an answer contradicts that. -/
structure DraftKnowledge where
  seen : List RegistrationDraft
  vacant : Option String
  owns : Bool
  misled : Bool

namespace DraftKnowledge

/-- Before the first call. -/
def start : DraftKnowledge := ⟨[],none,false,false⟩

/-- A draft is written over itself, or where there is none. -/
def permits : DraftKnowledge → RegistrationCall → Prop
  | m,.replaceDraft draft => (∃found∈m.seen,found.original=draft.original) ∨
      m.vacant=some draft.draftId
  | m,.createLock => m.owns=false
  | m,.removeLock => m.owns=true
  | _,_ => True

def after (m : DraftKnowledge) : (call : RegistrationCall) → call.Answer → DraftKnowledge
  | .createLock,.ok () => { m with owns := true }
  | .removeLock,_ => { m with owns := false, vacant := none }
  | .draftExists draftId,false => if m.owns=true then { m with vacant := some draftId } else m
  | .draftExists draftId,true => if m.vacant=some draftId then { m with misled := true } else m
  | .readDraft _,.ok draft => { m with seen := draft::m.seen }
  | .replaceDraft draft,.ok () => { m with seen := draft::m.seen, vacant := none }
  | _,_ => m

end DraftKnowledge

/-- The way in which every operation keeps to the drafts that are stored. -/
def draftKnowledge : Discipline RegistrationCall RegistrationCall.Answer DraftKnowledge :=
  ⟨DraftKnowledge.permits,DraftKnowledge.after⟩

namespace RegistrationFiles

/-- A draft is stored in the place of this one; and with the ID `tracked` it is this one as it was
prepared, whatever has become of it since, and its numbers stay what they are. -/
def Holds (tracked : String) (files : RegistrationFiles) (draft : RegistrationDraft) : Prop :=
  ∃stored,files.drafts draft.draftId=some (.value stored) ∧
    (draft.draftId=tracked → stored.original=draft.original ∧ draft.Survives files.round)

/-- What the processes know of the drafts is true, and what is stored under the ID `tracked` is read
again as it is. -/
structure Steady (tracked : String) (files : RegistrationFiles) (modes : Nat → DraftKnowledge) :
    Prop where
  seen : ∀i,∀draft∈(modes i).seen,files.Holds tracked draft
  survives : ∀draft,files.drafts tracked=some (.value draft) → draft.Survives files.round
  vacant : ∀(i : Nat) (draftId : String),(modes i).vacant=some draftId →
    (modes i).owns=true ∧ files.drafts draftId=none
  owned : ∀i,(modes i).owns=true → files.lock=some i
  certain : ∀i,(modes i).misled=false
  filed : files.Filed

variable {tracked : String}

theorem Holds.congr {files files' : RegistrationFiles} {draft : RegistrationDraft}
    (holds : files.Holds tracked draft) (same : files'.drafts=files.drafts)
    (reads : files'.round=files.round) : files'.Holds tracked draft := by
  obtain ⟨stored,there,kept⟩ := holds
  exact ⟨stored,same ▸ there,fun named => reads ▸ kept named⟩

/-- The same draft is written over itself, or another one elsewhere. -/
theorem Holds.store {files : RegistrationFiles} {draft written : RegistrationDraft}
    (holds : files.Holds tracked draft)
    (room : files.Holds tracked written ∨ files.drafts written.draftId=none) :
    (files.storeDraft written).Holds tracked draft := by
  obtain ⟨stored,there,kept⟩ := holds
  by_cases same : draft.draftId=written.draftId
  · refine ⟨written.reread files.round,by rw [same,drafts_storeDraft],fun named => ?_⟩
    rcases room with ⟨before,here,first⟩|none
    · rw [same,here] at there
      cases there
      obtain ⟨written',survives⟩ := first (same ▸ named)
      obtain ⟨draft',reads⟩ := kept named
      rw [survives]
      exact ⟨written'.symm.trans draft',reads⟩
    · rw [same,none] at there
      cases there
  · exact ⟨stored,(drafts_storeDraft_ne files same).trans there,kept⟩

namespace Steady

variable {files : RegistrationFiles} {modes : Nat → DraftKnowledge} {i : Nat}

/-- A call that leaves the drafts as they are. -/
theorem of_drafts (steady : Steady tracked files modes) {files' : RegistrationFiles}
    {m : DraftKnowledge} (drafts : files'.drafts=files.drafts) (reads : files'.round=files.round)
    (seen : ∀draft∈m.seen,files.Holds tracked draft)
    (vacant : ∀draftId,m.vacant=some draftId → m.owns=true ∧ files.drafts draftId=none)
    (own : m.owns=true → files'.lock=some i) (certain : m.misled=false)
    (owned : ∀j,j≠i → (modes j).owns=true → files'.lock=some j) :
    Steady tracked files' (Function.update modes i m) := by
  refine ⟨fun j draft mem => ?_,fun draft there => ?_,fun j draftId none => ?_,fun j owns => ?_,
    fun j => ?_,fun draftId draft there => steady.filed draftId draft (drafts ▸ there)⟩
  · by_cases same : j=i
    · rw [same,Function.update_self] at mem
      exact (seen draft mem).congr drafts reads
    · rw [Function.update_of_ne same] at mem
      exact (steady.seen j draft mem).congr drafts reads
  · rw [reads]
    exact steady.survives draft (drafts ▸ there)
  · by_cases same : j=i
    · rw [same,Function.update_self] at none ⊢
      rw [drafts]
      exact vacant draftId none
    · rw [Function.update_of_ne same] at none ⊢
      rw [drafts]
      exact steady.vacant j draftId none
  · by_cases same : j=i
    · rw [same,Function.update_self] at owns
      rw [same]
      exact own owns
    · rw [Function.update_of_ne same] at owns
      exact owned j same owns
  · by_cases same : j=i
    · rw [same,Function.update_self]
      exact certain
    · rw [Function.update_of_ne same]
      exact steady.certain j

/-- Neither drafts nor lock nor what the process knows of them change. -/
theorem idle (steady : Steady tracked files modes) {files' : RegistrationFiles} {m : DraftKnowledge}
    (drafts : files'.drafts=files.drafts) (reads : files'.round=files.round)
    (lock : files'.lock=files.lock) (same : m=modes i) :
    Steady tracked files' (Function.update modes i m) := by
  subst same
  refine steady.of_drafts drafts reads (steady.seen i) (steady.vacant i) ?_ (steady.certain i) ?_
  · rw [lock]
    exact steady.owned i
  · rw [lock]
    exact fun j _ => steady.owned j

/-- A process sees a draft. -/
theorem read (steady : Steady tracked files modes) {draft : RegistrationDraft}
    (holds : files.Holds tracked draft) :
    Steady tracked files (Function.update modes i
      { modes i with seen := draft::(modes i).seen }) := by
  refine steady.of_drafts rfl rfl (fun found mem => ?_) (steady.vacant i) (steady.owned i)
    (steady.certain i) fun j _ => steady.owned j
  rcases List.mem_cons.mp mem with rfl|before
  · exact holds
  · exact steady.seen i found before

/-- What may be written is stored already, or nothing is stored in its place. -/
theorem room (steady : Steady tracked files modes) {draft : RegistrationDraft}
    (may : (modes i).permits (.replaceDraft draft)) :
    files.Holds tracked draft ∨ files.drafts draft.draftId=none := by
  rcases may with ⟨found,mem,same⟩|none
  · obtain ⟨stored,there,kept⟩ := steady.seen i found mem
    have named := RegistrationDraft.draftId_of_original same
    refine .inl ⟨stored,named ▸ there,fun mine => ?_⟩
    obtain ⟨original,survives⟩ := kept (named.trans mine)
    exact ⟨original.trans same,survives.of_original same.symm⟩
  · exact .inr (steady.vacant i _ none).2

/-- A process writes a draft. -/
theorem write (steady : Steady tracked files modes) {draft : RegistrationDraft}
    (may : (modes i).permits (.replaceDraft draft))
    (first : draft.draftId=tracked → files.drafts tracked=none → draft.Survives files.round) :
    Steady tracked (files.storeDraft draft) (Function.update modes i
      { modes i with seen := draft::(modes i).seen, vacant := none }) := by
  have room := steady.room may
  have survives (named : draft.draftId=tracked) : draft.Survives files.round := by
    rcases room with ⟨_,_,holds⟩|none
    · exact (holds named).2
    · exact first named (named ▸ none)
  have stored := drafts_storeDraft files draft
  refine ⟨fun j found mem => ?_,fun found there => ?_,fun j draftId none => ?_,fun j owns => ?_,
    fun j => ?_,fun draftId found there => ?_⟩
  · have before : found=draft ∨ files.Holds tracked found := by
      by_cases same : j=i
      · rw [same,Function.update_self] at mem
        exact (List.mem_cons.mp mem).imp id (steady.seen i found)
      · rw [Function.update_of_ne same] at mem
        exact .inr (steady.seen j found mem)
    rcases before with rfl|holds
    · refine ⟨_,stored,fun named => ?_⟩
      rw [survives named]
      exact ⟨rfl,survives named⟩
    · exact holds.store room
  · by_cases named : draft.draftId=tracked
    · rw [← named,stored,survives named] at there
      cases there
      exact survives named
    · rw [drafts_storeDraft_ne files (Ne.symm named)] at there
      exact steady.survives found there
  · by_cases same : j=i
    · rw [same,Function.update_self] at none
      cases none
    · rw [Function.update_of_ne same] at none ⊢
      obtain ⟨owns,absent⟩ := steady.vacant j draftId none
      refine ⟨owns,?_⟩
      have apart : draftId≠draft.draftId := by
        intro equal
        rcases may with ⟨found,seen,kept⟩|mine
        · obtain ⟨there,here,-⟩ := steady.seen i found seen
          rw [RegistrationDraft.draftId_of_original kept,← equal,absent] at here
          cases here
        · have lock := steady.owned i (steady.vacant i _ mine).1
          rw [steady.owned j owns] at lock
          exact same (Option.some.inj lock)
      rwa [drafts_storeDraft_ne files apart]
  · by_cases same : j=i
    · rw [same,Function.update_self] at owns
      rw [same]
      exact steady.owned i owns
    · rw [Function.update_of_ne same] at owns
      exact steady.owned j owns
  · by_cases same : j=i
    · rw [same,Function.update_self]
      exact steady.certain i
    · rw [Function.update_of_ne same]
      exact steady.certain j
  · by_cases same : draftId=draft.draftId
    · rw [same,stored] at there
      cases there
      exact same.symm
    · rw [drafts_storeDraft_ne files same] at there
      exact steady.filed draftId found there

/-- A call that works, or fails and changes nothing. -/
theorem attempt (steady : Steady tracked files modes) (choice : RegistrationChoice) {α : Type} (a : α)
    (files' : RegistrationFiles) (next : Except IoFailure α → DraftKnowledge)
    (worked : Steady tracked files' (Function.update modes i (next (.ok a))))
    (failing : ∀failure,next (.error failure)=modes i) :
    Steady tracked (RegistrationFiles.attempt files choice a files').2
      (Function.update modes i (next (RegistrationFiles.attempt files choice a files').1)) := by
  unfold RegistrationFiles.attempt
  cases choice.failure with
  | none => exact worked
  | some failure => exact steady.idle rfl rfl rfl (failing failure)

/-- Whatever call a process makes, what the processes know stays true, as long as the first draft that
is written under the ID is read again as it is. -/
theorem respond (steady : Steady tracked files modes) (choice : RegistrationChoice)
    (call : RegistrationCall) (may : (modes i).permits call)
    (first : ∀draft,call=.replaceDraft draft → draft.draftId=tracked → files.drafts tracked=none →
      draft.Survives files.round) :
    Steady tracked (files.respond i choice call).2
      (Function.update modes i ((modes i).after call (files.respond i choice call).1)) := by
  have still : Steady tracked files (Function.update modes i (modes i)) := steady.idle rfl rfl rfl rfl
  cases call with
  | now => exact steady.attempt choice _ files ((modes i).after .now) still fun _ => rfl
  | createDirectory =>
    exact steady.attempt choice () files ((modes i).after .createDirectory) still fun _ => rfl
  | writeLock createdAt =>
    exact steady.attempt choice () files ((modes i).after (.writeLock createdAt)) still
      fun _ => rfl
  | writeTemporary =>
    exact steady.attempt choice () files ((modes i).after .writeTemporary) still fun _ => rfl
  | appendAudit record =>
    exact steady.attempt choice () _ ((modes i).after (.appendAudit record))
      (steady.idle rfl rfl rfl rfl) fun _ => rfl
  | replaceConfig draftId config =>
    exact steady.attempt choice () _ ((modes i).after (.replaceConfig draftId config))
      (steady.idle rfl rfl rfl rfl) fun _ => rfl
  | replaceDraft draft =>
    exact steady.attempt choice () _ ((modes i).after (.replaceDraft draft))
      (steady.write may (first draft rfl)) fun _ => rfl
  | review draft commitAfterApproval =>
    exact steady.attempt choice choice.typed files
      ((modes i).after (.review draft commitAfterApproval)) still fun _ => rfl
  | createLock =>
    show Steady tracked (files.takeLock i choice).2
      (Function.update modes i ((modes i).after .createLock (files.takeLock i choice).1))
    unfold RegistrationFiles.takeLock
    cases free : files.lock with
    | some holder => exact still
    | none =>
      cases choice.failure with
      | some failure => exact still
      | none =>
        refine steady.of_drafts rfl rfl (steady.seen i) (fun draftId none => ?_) (fun _ => rfl)
          (steady.certain i) fun j _ owns => ?_
        · exact ⟨rfl,(steady.vacant i draftId none).2⟩
        · have lock := steady.owned j owns
          rw [free] at lock
          cases lock
  | removeLock =>
    show Steady tracked (files.dropLock choice)
      (Function.update modes i { modes i with owns := false, vacant := none })
    have lock := steady.owned i may
    refine steady.of_drafts ?_ ?_ (steady.seen i) (fun _ none => ?_) (fun owns => ?_)
      (steady.certain i) fun j other owns => ?_
    · unfold RegistrationFiles.dropLock
      split_ifs <;> rfl
    · unfold RegistrationFiles.dropLock
      split_ifs <;> rfl
    · cases none
    · cases owns
    · rw [steady.owned j owns] at lock
      exact absurd (Option.some.inj lock) other
  | draftExists draftId =>
    show Steady tracked files (Function.update modes i
      ((modes i).after (.draftExists draftId) (files.drafts draftId).isSome))
    cases there : files.drafts draftId with
    | some content =>
      show Steady tracked files (Function.update modes i
        (if (modes i).vacant=some draftId then { modes i with misled := true } else modes i))
      split_ifs with vacant
      · rw [(steady.vacant i draftId vacant).2] at there
        cases there
      · exact still
    | none =>
      show Steady tracked files (Function.update modes i
        (if (modes i).owns=true then { modes i with vacant := some draftId } else modes i))
      split_ifs with owns
      · refine steady.of_drafts rfl rfl (steady.seen i) (fun other same => ?_) (steady.owned i)
          (steady.certain i) fun j _ => steady.owned j
        cases same
        exact ⟨owns,there⟩
      · exact still
  | readDraft draftId =>
    show Steady tracked files (Function.update modes i
      ((modes i).after (.readDraft draftId) (files.readDraft choice draftId)))
    cases result : files.readDraft choice draftId with
    | error e => exact still
    | ok draft =>
      have stored := readDraft_ok result
      have named := steady.filed draftId draft stored
      refine steady.read ⟨draft,by rw [named]; exact stored,fun mine => ⟨rfl,?_⟩⟩
      exact steady.survives draft (by rw [← mine,named]; exact stored)
  | readConfig => exact still
  | pathState => exact still
  | queryService control serviceId => exact still
  | observeReconciliation config revision => exact still
  | isTerminal => exact still

/-- A draft that is stored stays stored as it was prepared. -/
theorem keeps_holds (steady : Steady tracked files modes) (choice : RegistrationChoice)
    (call : RegistrationCall) (may : (modes i).permits call) {draft : RegistrationDraft}
    (holds : files.Holds tracked draft) : (files.respond i choice call).2.Holds tracked draft := by
  by_cases write : ∃written,call=.replaceDraft written
  · obtain ⟨written,rfl⟩ := write
    show (RegistrationFiles.attempt files choice () (files.storeDraft written)).2.Holds tracked draft
    unfold RegistrationFiles.attempt
    cases choice.failure with
    | some failure => exact holds
    | none => exact holds.store (steady.room may)
  · exact holds.congr (drafts_respond files i choice call fun written same =>
      write ⟨written,same⟩) (round_respond files i choice call)

end Steady

end RegistrationFiles

namespace RegistrationM

variable {α β ε : Type} {m : DraftKnowledge} {err : RegistrationError → DraftKnowledge → Prop}

/-- The operation keeps to the drafts from what is known. -/
abbrev Knows (x : RegistrationM α) (m : DraftKnowledge) (ok : α → DraftKnowledge → Prop)
    (err : RegistrationError → DraftKnowledge → Prop) : Prop :=
  Tries draftKnowledge x m ok err

/-- Operations aside leave what is known as it is. Another discipline may tell of the result. -/
theorem IsAside.tells {τ : Type} {d' : Discipline RegistrationCall RegistrationCall.Answer τ}
    {m' : τ} {x : RegistrationM α} {good : α → Prop} (aside : IsAside x)
    (tells : Tries d' x m' (fun a _ => good a) fun _ _ => True) :
    Knows x m (fun a m' => m'=m ∧ good a) fun _ m' => m'=m := by
  have still (call : RegistrationCall) (may : asides.permits () call) :
      draftKnowledge.permits m call ∧ ∀answer,draftKnowledge.after m call answer=m := by
    cases call with
    | createLock => cases may
    | removeLock => cases may
    | draftExists draftId => cases may
    | readDraft draftId => cases may
    | replaceDraft draft => cases may
    | replaceConfig draftId config => cases may
    | now => exact ⟨trivial,fun _ => rfl⟩
    | createDirectory => exact ⟨trivial,fun _ => rfl⟩
    | writeLock createdAt => exact ⟨trivial,fun _ => rfl⟩
    | readConfig => exact ⟨trivial,fun _ => rfl⟩
    | pathState => exact ⟨trivial,fun _ => rfl⟩
    | writeTemporary => exact ⟨trivial,fun _ => rfl⟩
    | appendAudit record => exact ⟨trivial,fun _ => rfl⟩
    | queryService control serviceId => exact ⟨trivial,fun _ => rfl⟩
    | observeReconciliation config revision => exact ⟨trivial,fun _ => rfl⟩
    | isTerminal => exact ⟨trivial,fun _ => rfl⟩
    | review draft commitAfterApproval => exact ⟨trivial,fun _ => rfl⟩
  refine Follows.mono ((Follows.value aside tells).aside m still) fun result m' ends => ?_
  obtain ⟨same,-,n,told⟩ := ends
  cases result with
  | ok a => exact ⟨same,told⟩
  | error e => exact same

theorem IsAside.bind_knows {τ : Type} {d' : Discipline RegistrationCall RegistrationCall.Answer τ}
    {m' : τ} {x : RegistrationM α} {f : α → RegistrationM β} {ok : β → DraftKnowledge → Prop}
    {good : α → Prop} (aside : IsAside x) (tells : Tries d' x m' (fun a _ => good a) fun _ _ => True)
    (next : ∀a,good a → Knows (f a) m ok err) (bad : ∀e,err e m) : Knows (x >>= f) m ok err := by
  refine (tries_bind _ _).mpr (Tries.mono (aside.tells tells) (fun a m' ends => ?_)
    fun e m' same => ?_)
  · rw [ends.1]
    exact next a ends.2
  · rw [same]
    exact bad e

theorem IsAside.then_knows {x : RegistrationM α} {f : α → RegistrationM β}
    {ok : β → DraftKnowledge → Prop} (aside : IsAside x) (next : ∀a,Knows (f a) m ok err)
    (bad : ∀e,err e m) : Knows (x >>= f) m ok err :=
  have told : Tries asides x () (fun _ _ => True) fun _ _ => True := aside
  aside.bind_knows told (fun a _ => next a) bad

theorem IsAside.knows {x : RegistrationM α} {ok : α → DraftKnowledge → Prop} (aside : IsAside x)
    (good : ∀a,ok a m) (bad : ∀e,err e m) : Knows x m ok err := by
  refine Tries.mono (aside.tells aside) (fun a m' ends => ?_) fun e m' same => ?_
  · rw [ends.1]
    exact good a
  · rw [same]
    exact bad e

theorem knows_ask (call : RegistrationCall) {ok : call.Answer → DraftKnowledge → Prop}
    (may : m.permits call) (holds : ∀answer,ok answer (m.after call answer)) :
    Knows (ask call) m ok err :=
  (tries_lift _).mpr ⟨may,holds⟩

theorem knows_check {result : Except RegistrationError α} {f : α → RegistrationM β}
    {ok : β → DraftKnowledge → Prop} (next : ∀a,result=.ok a → Knows (f a) m ok err)
    (bad : ∀e,err e m) : Knows (check result >>= f) m ok err := by
  cases result with
  | ok a => exact next a rfl
  | error e => exact bad e

theorem knows_writeDraft (draft : RegistrationDraft) {ok : Unit → DraftKnowledge → Prop}
    (may : m.permits (.replaceDraft draft))
    (good : ok () { m with seen := draft::m.seen, vacant := none }) (bad : ∀e,err e m) :
    Knows (writeDraft draft) m ok err := by
  refine knows_check (fun _ _ => isAside_prepareReplacement.then_knows (fun _ => ?_) bad) bad
  refine (tries_bind _ _).mpr (knows_ask (.replaceDraft draft) may fun result => ?_)
  cases result with
  | ok done => exact good
  | error failure => exact bad _

theorem knows_withCommitLock (body : RegistrationM α) {ok : α → DraftKnowledge → Prop}
    (free : m.owns=false)
    (inner : Knows body { m with owns := true }
      (fun a m' => m'.owns=true ∧ ok a { m' with owns := false, vacant := none })
      fun _ m' => m'.owns=true) :
    Knows (withCommitLock body) m ok fun _ _ => True := by
  refine (isAside_createDirectory _).then_knows (fun _ => ?_) fun _ => trivial
  refine (tries_bind _ _).mpr (knows_ask .createLock free fun taken => ?_)
  cases taken with
  | error failure => exact trivial
  | ok done =>
    have marked : Knows (do writeLockRecord; body) { m with owns := true }
        (fun a m' => m'.owns=true ∧ ok a { m' with owns := false, vacant := none })
        fun _ m' => m'.owns=true :=
      isAside_writeLockRecord.then_knows (fun _ => inner) fun _ => rfl
    refine (tries_bind _ _).mpr ((tries_pure done).mpr ?_)
    refine (tries_bind _ _).mpr ((tries_lift _).mpr (Follows.mono marked fun result m' ends => ?_))
    cases result with
    | ok a => exact (tries_bind _ _).mpr (knows_ask .removeLock ends.1 fun _ => ends.2)
    | error e => exact (tries_bind _ _).mpr (knows_ask .removeLock ends fun _ => trivial)

end RegistrationM

namespace RegistrationAuthority

variable (authority : RegistrationAuthority) {m : DraftKnowledge}
  {err : RegistrationError → DraftKnowledge → Prop}

theorem knows_getDraft (draftId : String) {ok : RegistrationDraft → DraftKnowledge → Prop}
    (good : ∀draft,authority.verifyDraft draft=.ok () → ok draft { m with seen := draft::m.seen })
    (bad : ∀e seen,err e { m with seen }) : Knows (authority.getDraft draftId) m ok err := by
  refine knows_check (fun _ _ => ?_) fun e => bad e m.seen
  refine (tries_bind _ _).mpr (knows_ask (.readDraft draftId) trivial fun result => ?_)
  cases result with
  | error failure => exact bad _ m.seen
  | ok draft => exact knows_check (fun _ verified => good draft verified) fun e => bad e _

/-- What is known of a draft that is answered. -/
def Answered (same : RegistrationDraft → Bool) (draft : RegistrationDraft) (m : DraftKnowledge) :
    Prop :=
  m.misled=true ∨ draft∈m.seen ∧ authority.verifyDraft draft=.ok () ∧ same draft=true

theorem knows_reuseDraft (draftId : String) (same : RegistrationDraft → Bool)
    (owns : m.owns=true) {ok : RegistrationDraft → DraftKnowledge → Prop}
    (good : ∀draft,authority.Answered same draft { m with seen := draft::m.seen } →
      ok draft { m with seen := draft::m.seen }) :
    Knows (authority.reuseDraft draftId same) m ok fun _ m' => m'.owns=true := by
  refine (tries_bind _ _).mpr (authority.knows_getDraft draftId (fun draft verified => ?_)
    fun _ _ => owns)
  by_cases fits : same draft=true
  · rw [if_pos fits]
    exact good draft (.inr ⟨List.mem_cons_self,verified,fits⟩)
  · rw [if_neg fits]
    exact owns

theorem verifyDraft_newDraft (request : PrepareRegistration) (current proposed : SupervisorConfig)
    (warnings : List String) (now : Nat)
    (based : request.baseRevision=authority.fingerprint current) :
    authority.verifyDraft (authority.newDraft request current proposed warnings now)=.ok () := by
  have hash : authority.hashProposal
      (authority.newDraft request current proposed warnings now).proposal=
        (authority.newDraft request current proposed warnings now).proposalHash := by
    simp only [newDraft,RegistrationDraft.proposal,based]
  rw [verifyDraft,if_neg (by simp [newDraft]),if_neg]
  rw [hash]
  simp [newDraft]

theorem requestMatchesDraft_newDraft {request : PrepareRegistration}
    {current proposed : SupervisorConfig} (warnings : List String) (now : Nat)
    (based : request.baseRevision=authority.fingerprint current)
    (proposes : authority.Proposes current request.operation request.serviceId request.service
      proposed) :
    requestMatchesDraft request (authority.newDraft request current proposed warnings now)=true := by
  obtain ⟨more,change⟩ := proposes.change
  obtain ⟨requestId,operation,serviceId,baseRevision,service⟩ := request
  unfold proposeChange at change
  cases operation with
  | register =>
    cases service with
    | none => cases change
    | some added =>
      simp only [Except.ok.injEq,Prod.mk.injEq] at change
      simp [requestMatchesDraft,newDraft,← change.1,← based]
  | update =>
    cases service with
    | none => cases change
    | some added =>
      simp only [Except.ok.injEq,Prod.mk.injEq] at change
      simp [requestMatchesDraft,newDraft,← change.1,← based]
  | unregister =>
    cases service with
    | some added => cases change
    | none =>
      simp only [Except.ok.injEq,Prod.mk.injEq] at change
      simp [requestMatchesDraft,newDraft,← change.1,← based]

theorem knows_persistDraft (draft : RegistrationDraft) (same : RegistrationDraft → Bool)
    (verified : authority.verifyDraft draft=.ok ()) (fits : same draft=true) (owns : m.owns=true)
    (vacant : m.vacant=some draft.draftId) {ok : RegistrationDraft → DraftKnowledge → Prop}
    (good : ∀draft m',m'.owns=true → authority.Answered same draft m' → ok draft m') :
    Knows (authority.persistDraft draft.draftId draft) m ok fun _ m' => m'.owns=true := by
  refine (isAside_createDirectory _).then_knows (fun _ => ?_) fun _ => owns
  refine (tries_bind _ _).mpr (knows_ask (.draftExists draft.draftId) trivial fun there => ?_)
  cases there with
  | true =>
    have after : m.after (.draftExists draft.draftId) true={ m with misled := true } := if_pos vacant
    rw [after]
    exact authority.knows_reuseDraft (m := { m with misled := true }) draft.draftId _ owns
      fun found _ => good found _ owns (.inl rfl)
  | false =>
    have after : m.after (.draftExists draft.draftId) false=
        { m with vacant := some draft.draftId } := if_pos owns
    rw [after]
    refine (tries_bind _ _).mpr (knows_writeDraft (m := { m with vacant := some draft.draftId })
      draft (.inr rfl) ?_ fun _ => owns)
    refine (isAside_auditRegistration _ _ _).then_knows (fun _ => ?_) fun _ => owns
    exact good draft _ owns (.inr ⟨List.mem_cons_self,verified,fits⟩)

/-- A draft that is answered is stored, verified and fits the request. -/
theorem knows_prepare (request : PrepareRegistration) (free : m.owns=false)
    (vacant : m.vacant=none) :
    Knows (authority.prepare request) m (fun draft m' => validateRequestId request.requestId=.ok () ∧
      validateServiceId request.serviceId=.ok () ∧
      authority.Answered (requestMatchesDraft request) draft m') fun _ _ => True := by
  refine knows_check (fun _ named => ?_) fun _ => trivial
  refine knows_check (fun _ service => ?_) fun _ => trivial
  refine knows_withCommitLock _ free ?_
  refine knows_check (fun _ valid => ?_) fun _ => rfl
  refine (tries_bind _ _).mpr (knows_ask (.draftExists _) trivial fun there => ?_)
  cases there with
  | true =>
    have after : DraftKnowledge.after { m with owns := true }
        (.draftExists (authority.draftIdForRequest request.requestId)) true=
          { m with owns := true } := if_neg (by simp [vacant])
    rw [after]
    exact authority.knows_reuseDraft (m := { m with owns := true }) _ _ rfl
      fun found answered => ⟨rfl,named,service,answered⟩
  | false =>
    refine (isAside_currentConfig authority).then_knows (fun current => ?_) fun _ => rfl
    by_cases based : request.baseRevision=authority.fingerprint current
    · rw [if_neg (not_not.mpr based)]
      have told (invalid : String) : Keeps authority (fun _ _ => True)
          (authority.validProposal invalid current request.operation request.serviceId
            request.service) .finished (fun proposal _ => authority.Proposes current
              request.operation request.serviceId request.service proposal.1) fun _ _ => True :=
        authority.keeps_validProposal _ _ _ _ _ (fun _ proposes => proposes) fun _ => trivial
      refine (isAside_validProposal authority _ _ _ _ _).bind_knows (told _)
        (fun proposal proposes => ?_) fun _ => rfl
      refine isAside_nowMs.then_knows (fun now => ?_) fun _ => rfl
      exact authority.knows_persistDraft
        (authority.newDraft request current proposal.1 proposal.2 now)
        (requestMatchesDraft request) (authority.verifyDraft_newDraft request _ _ _ now based)
        (authority.requestMatchesDraft_newDraft _ now based proposes) rfl rfl
        fun found m' owns answered => ⟨owns,named,service,answered⟩
    · rw [if_pos based]
      exact rfl

theorem knows_approveWithConfirmation (draft : RegistrationDraft) (confirmation : String)
    (mem : draft∈m.seen) {ok : RegistrationDraft → DraftKnowledge → Prop}
    (good : ∀draft m',m'.owns=m.owns → (m'.vacant=none ∨ m'.vacant=m.vacant) → ok draft m') :
    Knows (approveWithConfirmation draft confirmation) m ok fun _ _ => True := by
  unfold approveWithConfirmation
  have ends (found : RegistrationDraft) : ok found m := good found m rfl (.inr rfl)
  by_cases prepared : draft.status=.prepared
  · simp only [prepared,ne_eq,not_true_eq_false,if_false]
    refine isAside_nowMs.then_knows (fun now => ?_) fun _ => trivial
    by_cases expired : draft.expiresAtUnixMs < now
    · simp only [expired,if_true]
      exact trivial
    · simp only [expired,if_false]
      by_cases phrase : confirmation=draft.confirmationPhrase
      · simp only [phrase,not_true_eq_false,if_false]
        refine isAside_nowMs.then_knows (fun approvedAt => ?_) fun _ => trivial
        refine (tries_bind _ _).mpr (knows_writeDraft _ (.inl ⟨draft,mem,rfl⟩) ?_ fun _ => trivial)
        exact (isAside_auditRegistration _ _ _).then_knows
          (fun _ => good _ _ rfl (.inl rfl)) fun _ => trivial
      · simp only [phrase,not_false_eq_true,if_true]
        exact trivial
  · simp only [prepared,ne_eq,not_false_eq_true,if_true]
    by_cases again : draft.status=.approved ∧ confirmation=draft.confirmationPhrase
    · rw [if_pos again]
      exact (isAside_auditRegistration _ _ _).then_knows (fun _ => ends draft) fun _ => trivial
    · rw [if_neg again]
      exact trivial

theorem knows_approveInteractiveMode (draftId : String) (commitAfterApproval : Bool)
    (free : m.owns=false) (vacant : m.vacant=none) :
    Knows (authority.approveInteractiveMode draftId commitAfterApproval) m
      (fun _ m' => m'.owns=false ∧ m'.vacant=none) fun _ _ => True := by
  refine (tries_bind _ _).mpr (knows_ask .isTerminal trivial fun terminal => ?_)
  cases terminal with
  | false => exact trivial
  | true =>
    refine (tries_bind _ _).mpr (authority.knows_getDraft _ (fun draft verified => ?_)
      fun _ _ => trivial)
    refine (tries_bind _ _).mpr (knows_ask (.review draft commitAfterApproval) trivial
      fun typed => ?_)
    cases typed with
    | error failure => exact trivial
    | ok confirmation =>
      refine (tries_bind _ _).mpr ((tries_pure confirmation).mpr ?_)
      refine knows_approveWithConfirmation (m := { m with seen := draft::m.seen }) draft
        _ List.mem_cons_self fun _ m' owns none => ⟨owns.trans free,?_⟩
      rcases none with none|same
      · exact none
      · exact same.trans vacant

theorem knows_recordCommitted (draft : RegistrationDraft) (event auditActor : String)
    (mem : draft∈m.seen) (owns : m.owns=true) :
    Knows (recordCommitted draft event auditActor) m (fun _ m' => m'.owns=true ∧ True)
      fun _ m' => m'.owns=true := by
  refine isAside_nowMs.then_knows (fun now => ?_) fun _ => owns
  refine (tries_bind _ _).mpr (knows_writeDraft _ (.inl ⟨draft,mem,rfl⟩) ?_ fun _ => owns)
  refine (isAside_auditRegistration _ _ _).then_knows (fun _ => ?_) fun _ => owns
  exact (isAside_resultOf _).knows (fun _ => ⟨owns,trivial⟩) fun _ => owns

theorem knows_applyDraft (draft : RegistrationDraft) (current : SupervisorConfig)
    {ok : Unit → DraftKnowledge → Prop} (good : ok () m) (bad : ∀e,err e m) :
    Knows (authority.applyDraft draft current) m ok err := by
  have rest : Knows (authority.applyProposal draft current) m ok err := by
    refine knows_check (fun service _ => ?_) bad
    refine (isAside_validProposal authority _ _ _ _ _).then_knows (fun proposal => ?_) bad
    by_cases same : authority.fingerprint proposal.1=draft.proposedRevision
    · simp only [same,ne_eq,not_true_eq_false,if_false]
      refine isAside_prepareReplacement.then_knows (fun _ => ?_) bad
      refine (tries_bind _ _).mpr (knows_ask (.replaceConfig _ _) trivial fun result => ?_)
      cases result with
      | ok done => exact good
      | error failure => exact bad _
    · simp only [same,ne_eq,not_false_eq_true,if_true]
      exact bad _
  unfold applyDraft
  by_cases gated : draft.operation=.update ∨ draft.operation=.unregister
  · rw [if_pos gated]
    exact (isAside_requireObservedStopped _ _).then_knows (fun _ => rest) bad
  · rw [if_neg gated]
    exact rest

theorem knows_commitWithActor (draftId auditActor : String) (free : m.owns=false) :
    Knows (authority.commitWithActor draftId auditActor) m (fun _ _ => True) fun _ _ => True := by
  refine knows_withCommitLock _ free ?_
  refine (tries_bind _ _).mpr (authority.knows_getDraft (m := { m with owns := true }) _
    (fun draft verified => ?_) fun _ _ => rfl)
  by_cases committed : draft.status=.committed
  · rw [if_pos committed]
    exact (isAside_resultOf _).knows (fun _ => ⟨rfl,trivial⟩) fun _ => rfl
  rw [if_neg committed]
  by_cases approved : draft.status=.approved
  · simp only [approved,ne_eq,not_true_eq_false,if_false]
    refine isAside_nowMs.then_knows (fun now => ?_) fun _ => rfl
    by_cases expired : draft.expiresAtUnixMs < now
    · simp only [expired,if_true]
      exact rfl
    simp only [expired,if_false]
    refine (isAside_currentConfig authority).then_knows (fun current => ?_) fun _ => rfl
    have recorded (event : String) : Knows (recordCommitted draft event auditActor)
        { m with owns := true, seen := draft::m.seen } (fun _ m' => m'.owns=true ∧ True)
        fun _ m' => m'.owns=true :=
      knows_recordCommitted draft event auditActor List.mem_cons_self rfl
    by_cases proposed : authority.fingerprint current=draft.proposedRevision
    · simp only [proposed,if_true]
      exact recorded "commit_recovered"
    simp only [proposed,if_false]
    by_cases based : authority.fingerprint current=draft.baseRevision
    · simp only [based,not_true_eq_false,if_false]
      exact (tries_bind _ _).mpr (authority.knows_applyDraft draft current (recorded "committed")
        fun _ => rfl)
    · simp only [based,not_false_eq_true,if_true]
      exact rfl
  · simp only [approved,ne_eq,not_false_eq_true,if_true]
    exact rfl

theorem knows_approveAndCommitInteractive (draftId : String) (free : m.owns=false)
    (vacant : m.vacant=none) :
    Knows (authority.approveAndCommitInteractive draftId) m (fun _ _ => True)
      fun _ _ => True := by
  refine (tries_bind _ _).mpr (authority.knows_getDraft _ (fun draft _ => ?_) fun _ _ => trivial)
  by_cases prepared : draft.status=.prepared
  · simp only [prepared,if_true]
    refine (tries_bind _ _).mpr (Tries.mono (authority.knows_approveInteractiveMode
      (m := { m with seen := draft::m.seen }) _ _ free vacant) (fun _ m' ends => ?_)
      fun _ _ _ => trivial)
    exact authority.knows_commitWithActor _ _ ends.1
  · simp only [prepared,if_false]
    exact authority.knows_commitWithActor (m := { m with seen := draft::m.seen }) _ _ free

/-- What is known where an operation ends. -/
def Known (request : RegistrationRequest) (result : Except RegistrationError RegistrationReply)
    (m : DraftKnowledge) : Prop :=
  ∀prepare draft,request=.prepare prepare → result=.ok (.draft draft) →
    validateRequestId prepare.requestId=.ok () ∧ validateServiceId prepare.serviceId=.ok () ∧
      authority.Answered (requestMatchesDraft prepare) draft m

theorem knows_operation (request : RegistrationRequest) :
    Follows draftKnowledge (authority.operation request).run DraftKnowledge.start
      (authority.Known request) := by
  have other {α : Type} (x : RegistrationM α) (reply : α → RegistrationReply)
      (apart : ∀prepare,request≠.prepare prepare) (knows : Knows x DraftKnowledge.start
        (fun _ _ => True) fun _ _ => True) :
      Follows draftKnowledge (do return reply (← x) : RegistrationM RegistrationReply).run
        DraftKnowledge.start (authority.Known request) := by
    have told (result : Except RegistrationError RegistrationReply) (m : DraftKnowledge) :
        authority.Known request result m := fun prepare draft same => absurd same (apart prepare)
    have all : Knows (do return reply (← x) : RegistrationM RegistrationReply)
        DraftKnowledge.start (fun _ _ => True) fun _ _ => True :=
      (tries_bind _ _).mpr (Tries.mono knows (fun _ _ _ => trivial) fun _ _ _ => trivial)
    exact Follows.mono all fun result m' _ => told result m'
  cases request with
  | prepare prepare =>
    have knows := authority.knows_prepare (m := .start) prepare rfl rfl
    have told : Knows (authority.operation (.prepare prepare)) DraftKnowledge.start
        (fun reply m' => authority.Known (.prepare prepare) (.ok reply) m')
        fun e m' => authority.Known (.prepare prepare) (.error e) m' := by
      refine (tries_bind _ _).mpr (Tries.mono knows (fun draft m' answered => ?_) fun e m' _ => ?_)
      · intro other found same result
        cases same
        cases result
        exact answered
      · intro other found same result
        cases result
    refine Follows.mono told fun result m' ends => ?_
    cases result with
    | ok reply => exact ends
    | error e => exact ends
  | approve draftId =>
    exact other _ .draft (fun _ same => (by cases same)) (Tries.mono
      (authority.knows_approveInteractiveMode draftId false rfl rfl) (fun _ _ _ => trivial)
      fun _ _ _ => trivial)
  | commit draftId auditActor =>
    exact other _ .committed (fun _ same => (by cases same))
      (authority.knows_commitWithActor draftId auditActor rfl)
  | approveAndCommit draftId =>
    exact other _ .committed (fun _ same => (by cases same))
      (authority.knows_approveAndCommitInteractive draftId rfl rfl)

/-- The draft that a process is about to write, if it is the first one under the ID. -/
def firstWritten (tracked : String) (s : RegistrationState) (i : Nat) : Option RegistrationDraft :=
  match s.calling i with
  | some (.replaceDraft draft) =>
    if draft.draftId=tracked ∧ (s.shared.drafts tracked).isNone then some draft else none
  | _ => none

/-- What is written first under the ID in a step is read again as it is. -/
def FirstSurvives (tracked : String) (s : RegistrationState) : RegistrationMove → Prop
  | .advance i _ => ∀draft∈firstWritten tracked s i,draft.Survives s.shared.round
  | _ => True

instance (tracked : String) (s : RegistrationState) :
    (move : RegistrationMove) → Decidable (FirstSurvives tracked s move)
  | .advance _ _ => Option.decidableForallMem _
  | .launch _ _ | .kill _ | .disturb _ => isTrue trivial

theorem upholds_steady (tracked : String) : Upholds (registrationSystem authority) draftKnowledge
    .start id (FirstSurvives tracked) (RegistrationFiles.Steady tracked) where
  follows request := Follows.mono (authority.knows_operation request) fun _ _ _ => trivial
  advances s modes i choice call next steady here may first := by
    refine steady.respond choice call may fun draft write named none => ?_
    subst write
    have calling := State.calling_eq here
    apply first draft
    rw [firstWritten,calling]
    exact if_pos ⟨named,by rw [none]; rfl⟩
  kills _ _ _ steady _ := steady.idle rfl rfl rfl rfl
  disturbs _ _ _ steady _ :=
    ⟨fun i draft mem => (steady.seen i draft mem).congr rfl rfl,steady.survives,steady.vacant,
      steady.owned,steady.certain,steady.filed⟩

/-- A process has been started for the preparation, and in the end it has answered with the draft. -/
structure PreparedBy (files : RegistrationFiles) (before after : List RegistrationMove) (process : Nat)
    (request : PrepareRegistration) (draft : RegistrationDraft) : Prop where
  idle : (Run.final (step (registrationSystem authority)) before (.initial files)).parties process=
    .unborn
  answered : (Run.final (step (registrationSystem authority))
    (before++.launch process (.prepare request)::after) (.initial files)).parties process=
      .working (.done (.ok (.draft draft)))

/-- In every step of the run the draft that is written first under the ID is read again as it is, and
so is one that is stored there at the start. -/
structure SurvivingRun (files : RegistrationFiles) (moves : List RegistrationMove)
    (tracked : String) : Prop where
  stored : ∀draft,files.drafts tracked=some (.value draft) → draft.Survives files.round
  written : Run.Along (step (registrationSystem authority)) (FirstSurvives tracked) moves
    (.initial files)

theorem disciplined_start {files : RegistrationFiles} (filed : files.Filed) {tracked : String}
    (survives : ∀draft,files.drafts tracked=some (.value draft) → draft.Survives files.round) :
    Disciplined draftKnowledge .start (RegistrationFiles.Steady tracked)
      (.initial files : RegistrationState) := by
  refine disciplined_initial files ⟨?_,survives,?_,?_,fun _ => rfl,filed⟩
  · exact fun _ draft mem => absurd mem List.not_mem_nil
  · exact fun _ _ none => (by cases none)
  · exact fun _ owns => (by cases owns)

/-- A draft that is stored in a state of a run is stored as it was prepared in every later state. -/
theorem holds_later {s : RegistrationState} {tracked : String}
    (disciplined : Disciplined draftKnowledge .start (RegistrationFiles.Steady tracked) s)
    (moves : List RegistrationMove)
    (written : Run.Along (step (registrationSystem authority)) (FirstSurvives tracked) moves s)
    {draft : RegistrationDraft} (holds : s.shared.Holds tracked draft) :
    (Run.final (step (registrationSystem authority)) moves s).shared.Holds tracked draft := by
  have each (s : RegistrationState) (move : RegistrationMove)
      (disciplined : Disciplined draftKnowledge .start (RegistrationFiles.Steady tracked) s)
      (_ : FirstSurvives tracked s move) : s.shared.Holds tracked draft →
        (step (registrationSystem authority) move s).shared.Holds tracked draft :=
    disciplined.moves (fun _ _ => True)
      (fun files files' => files.Holds tracked draft → files'.Holds tracked draft) (fun _ => id)
      (fun s modes i choice call next steady here may _ => steady.keeps_holds choice call may)
      (fun _ _ => id) (fun _ _ holds => holds.congr rfl rfl) trivial
  exact (authority.upholds_steady tracked).keeps.related
    (R := fun s t => s.shared.Holds tracked draft → t.shared.Holds tracked draft) (fun _ => id)
    (fun _ _ _ first second holds => second (first holds)) each disciplined written holds

/-- A draft that is answered is stored from then on, verified and fits its request. -/
theorem holds_of_prepared {files : RegistrationFiles} (filed : files.Filed)
    {before after : List RegistrationMove} {process : Nat} {request : PrepareRegistration}
    {draft : RegistrationDraft}
    (prepared : authority.PreparedBy files before after process request draft)
    (later : List RegistrationMove) {tracked : String}
    (surviving : authority.SurvivingRun files
      (before++.launch process (.prepare request)::after++later) tracked) :
    (registrationRun authority files
        (before++.launch process (.prepare request)::after++later)).Holds tracked draft ∧
      authority.verifyDraft draft=.ok () ∧ requestMatchesDraft request draft=true ∧
      validateRequestId request.requestId=.ok () ∧ validateServiceId request.serviceId=.ok () := by
  have keeps := (authority.upholds_steady tracked).keeps
  obtain ⟨whole,written⟩ := (Run.along_append _ _ _ _).mp surviving.written
  obtain ⟨early,launching,late⟩ := (Run.along_append _ _ _ _).mp whole
  have start := disciplined_start filed surviving.stored
  have begun := keeps.final start early
  have tells : ((registrationSystem authority).program (.prepare request)).Follows
      draftKnowledge .start (authority.Known (.prepare request)) :=
    authority.knows_operation (.prepare request)
  have launched := begun.launch prepared.idle (authority.upholds_steady tracked).follows tells
  have answered := ((authority.upholds_steady tracked).keeps_ending process
    (authority.Known (.prepare request))).final launched late
  rw [← Run.final_cons,← Run.final_append] at answered
  obtain ⟨modes,steady,known⟩ := answered.done prepared.answered
  obtain ⟨named,service,misled|⟨mem,verified,fits⟩⟩ := known request draft rfl rfl
  · rw [steady.certain process] at misled
    cases misled
  · have reached := keeps.final start whole
    have holds := authority.holds_later reached later written (steady.seen process draft mem)
    rw [← Run.final_append] at holds
    exact ⟨holds,verified,fits,named,service⟩

end RegistrationAuthority

end AkuSupervisor
