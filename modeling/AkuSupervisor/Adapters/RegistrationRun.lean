import AkuSupervisor.Adapters.RegistrationDiscipline

namespace AkuSupervisor

open Interleaving

/-- The registration operations that a process can be started for. -/
inductive RegistrationRequest where
  | prepare (request : PrepareRegistration)
  | approve (draftId : String)
  | commit (draftId auditActor : String)
  | approveAndCommit (draftId : String)
  deriving DecidableEq

inductive RegistrationReply where
  | draft (draft : RegistrationDraft)
  | committed (result : CommitResult)
  deriving DecidableEq

def RegistrationAuthority.operation (authority : RegistrationAuthority) :
    RegistrationRequest → RegistrationM RegistrationReply
  | .prepare request => do return .draft (← authority.prepare request)
  | .approve draftId => do return .draft (← authority.approveInteractiveMode draftId false)
  | .commit draftId auditActor => do
    return .committed (← authority.commitWithActor draftId auditActor)
  | .approveAndCommit draftId => do
    return .committed (← authority.approveAndCommitInteractive draftId)

/-- Registration processes over one runtime directory. A process that dies leaves the files as they
are, its lock included, and anybody may edit the configuration. -/
def registrationSystem (authority : RegistrationAuthority) :
    Interleaving RegistrationFiles RegistrationCall RegistrationCall.Answer RegistrationChoice
      RegistrationRequest (FileContent SupervisorConfig)
      (Except RegistrationError RegistrationReply) where
  respond := RegistrationFiles.respond
  program request := (authority.operation request).run
  abandon _ files := files
  disturb config files := { files with config }

abbrev RegistrationState := State RegistrationFiles RegistrationCall RegistrationCall.Answer
  (Except RegistrationError RegistrationReply)

abbrev RegistrationMove :=
  Move RegistrationChoice RegistrationRequest (FileContent SupervisorConfig)

namespace RegistrationFiles

def statusOf (files : RegistrationFiles) (draftId : String) : Option DraftStatus :=
  match files.drafts draftId with
  | some (.value draft) => some draft.status
  | _ => none

/-- Every draft is stored under its own ID. -/
def Filed (files : RegistrationFiles) : Prop :=
  ∀draftId draft,files.drafts draftId=some (.value draft) → draft.draftId=draftId

/-- A draft has replaced the configuration and is not recorded as committed. -/
def unrecorded (files : RegistrationFiles) : Bool :=
  files.replacements.any fun draftId => files.statusOf draftId≠some .committed

/-- Every draft keeps its status or moves on in the order of the statuses. -/
def Forward (files files' : RegistrationFiles) : Prop :=
  ∀draftId status,files.statusOf draftId=some status →
    ∃status',files'.statusOf draftId=some status' ∧ status.rank ≤ status'.rank

theorem Forward.refl (files : RegistrationFiles) : Forward files files :=
  fun _ status here => ⟨status,here,le_refl _⟩

theorem Forward.trans {f g h : RegistrationFiles} (first : Forward f g) (second : Forward g h) :
    Forward f h := by
  intro draftId status here
  obtain ⟨status',there,le⟩ := first draftId status here
  obtain ⟨status'',last,le'⟩ := second draftId status' there
  exact ⟨status'',last,le_trans le le'⟩

theorem statusOf_storeDraft (files : RegistrationFiles) (draft : RegistrationDraft)
    (draftId : String) : (files.storeDraft draft).statusOf draftId=
      if draftId=draft.draftId then some draft.status else files.statusOf draftId := by
  unfold statusOf storeDraft
  by_cases same : draftId=draft.draftId
  · rw [if_pos same,same]
    simp only [Function.update_self,RegistrationDraft.reread_status]
  · rw [if_neg same]
    simp only [Function.update_of_ne same]

/-- The write of a draft that is not stored with a later status. -/
theorem forward_storeDraft (files : RegistrationFiles) (draft : RegistrationDraft)
    (later : ∀status,files.statusOf draft.draftId=some status → status.rank≤draft.status.rank) :
    Forward files (files.storeDraft draft) := by
  intro draftId status here
  rw [statusOf_storeDraft]
  by_cases same : draftId=draft.draftId
  · rw [if_pos same]
    subst same
    exact ⟨draft.status,rfl,later status here⟩
  · rw [if_neg same]
    exact ⟨status,here,le_refl _⟩

/-- What the files have to be like for a process in the mode. -/
def Supports (files : RegistrationFiles) : RegistrationMode → Prop
  | .outside seen => ∀draftId∈seen,files.drafts draftId≠none
  | .locked | .recorded | .finished => True
  | .vacant draftId => files.drafts draftId=none
  | .approved draft _ =>
    draft.draftId∉files.replacements ∧ files.statusOf draft.draftId≠some .committed
  | .replaced draft _ =>
    draft.draftId∈files.replacements ∧ files.statusOf draft.draftId≠some .committed
  | .lost => False

/-- The files and how far the processes are. A draft that has replaced the configuration is recorded
as committed, or the process that applied it is about to do so. -/
structure Sound (files : RegistrationFiles) (modes : Nat → RegistrationMode) : Prop where
  supports : ∀i,files.Supports (modes i)
  owned : ∀i,(modes i).owns=true → files.lock=some i
  filed : files.Filed
  once : files.replacements.Nodup
  recorded : ∀draftId∈files.replacements,
    files.statusOf draftId=some .committed ∨ ∃i,(modes i).applied=some draftId

namespace Sound

variable {authority : RegistrationAuthority} {files : RegistrationFiles}
  {modes : Nat → RegistrationMode} {i : Nat}

theorem sole (sound : Sound files modes) {j : Nat} (one : (modes i).owns=true)
    (other : (modes j).owns=true) : i=j := by
  have lock := sound.owned i one
  rw [sound.owned j other] at lock
  exact (Option.some.inj lock).symm

/-- No other process holds the lock. -/
theorem others_outside (sound : Sound files modes) {j : Nat} (other : j≠i)
    (here : (modes i).owns=true) : (modes j).owns=false := by
  cases there : (modes j).owns with
  | false => rfl
  | true => exact absurd (sound.sole there here) other

/-- One process changes the files and its mode. -/
theorem of_update {files' : RegistrationFiles} {m : RegistrationMode} (mine : files'.Supports m)
    (others : ∀j,j≠i → files'.Supports (modes j)) (own : m.owns=true → files'.lock=some i)
    (owned : ∀j,j≠i → (modes j).owns=true → files'.lock=some j) (filed : files'.Filed)
    (once : files'.replacements.Nodup)
    (recorded : ∀draftId∈files'.replacements,files'.statusOf draftId=some .committed ∨
      m.applied=some draftId ∨ ∃j,j≠i ∧ (modes j).applied=some draftId) :
    Sound files' (Function.update modes i m) := by
  refine ⟨fun j => ?_,fun j holds => ?_,filed,once,fun draftId mem => ?_⟩
  · by_cases same : j=i
    · rw [same,Function.update_self]
      exact mine
    · rw [Function.update_of_ne same]
      exact others j same
  · by_cases same : j=i
    · rw [same,Function.update_self] at holds
      rw [same]
      exact own holds
    · rw [Function.update_of_ne same] at holds
      exact owned j same holds
  · rcases recorded draftId mem with done|now|⟨j,other,replaced⟩
    · exact .inl done
    · exact .inr ⟨i,by rw [Function.update_self,now]⟩
    · exact .inr ⟨j,by rw [Function.update_of_ne other,replaced]⟩

/-- A draft in the middle of its commit belongs to this process or to another one. -/
theorem recorded_cases (sound : Sound files modes) (i : Nat) {draftId : String}
    (mem : draftId∈files.replacements) : files.statusOf draftId=some .committed ∨
      (modes i).applied=some draftId ∨ ∃j,j≠i ∧ (modes j).applied=some draftId := by
  rcases sound.recorded draftId mem with done|⟨j,replaced⟩
  · exact .inl done
  · by_cases same : j=i
    · exact .inr (.inl (same ▸ replaced))
    · exact .inr (.inr ⟨j,same,replaced⟩)

/-- A process changes its mode, and the files stay as they are. -/
theorem remode (sound : Sound files modes) (m : RegistrationMode) (supports : files.Supports m)
    (owns : m.owns=true → (modes i).owns=true)
    (kept : ∀draftId,(modes i).applied=some draftId → m.applied=some draftId) :
    Sound files (Function.update modes i m) := by
  refine of_update supports (fun j _ => sound.supports j) (fun own => sound.owned i (owns own))
    (fun j _ => sound.owned j) sound.filed sound.once fun draftId mem => ?_
  exact (sound.recorded_cases i mem).imp_right (.imp_left (kept draftId))

/-- While a process is about to record its draft, there is a draft that is not recorded. -/
theorem unrecorded_of_replaced (sound : Sound files modes) {draft : RegistrationDraft}
    {config : SupervisorConfig} (replaced : modes i=.replaced draft config) :
    files.unrecorded=true := by
  have supports := sound.supports i
  rw [replaced] at supports
  exact List.any_eq_true.mpr ⟨draft.draftId,supports.1,decide_eq_true supports.2⟩

/-- A process takes the lock. -/
theorem acquire (sound : Sound files modes) (free : files.lock=none) :
    Sound { files with lock := some i } (Function.update modes i .locked) := by
  have none (j : Nat) : (modes j).owns≠true := by
    intro owns
    exact absurd ((sound.owned j owns).symm.trans free) (by simp)
  refine of_update trivial (fun j _ => sound.supports j) (fun _ => rfl)
    (fun j _ owns => absurd owns (none j)) sound.filed sound.once fun draftId mem => ?_
  rcases sound.recorded draftId mem with done|⟨j,replaced⟩
  · exact .inl done
  · exact absurd (RegistrationMode.owns_of_applied replaced) (none j)

/-- The process that holds the lock drops it. -/
theorem release (sound : Sound files modes) (may : (modes i).mayDrop) (lock : Option Nat) :
    Sound { files with lock } (Function.update modes i (modes i).dropped) := by
  have supports := sound.supports i
  have free (m : RegistrationMode) (owns : (modes i).owns=true) (idle : (modes i).applied=none)
      (rests : ({ files with lock } : RegistrationFiles).Supports m) (out : m.owns=false) :
      Sound { files with lock } (Function.update modes i m) := by
    refine of_update rests (fun j _ => sound.supports j) (fun own => ?_) (fun j other holds => ?_)
      sound.filed sound.once fun draftId mem => ?_
    · rw [out] at own
      cases own
    · rw [sound.others_outside other owns] at holds
      cases holds
    · refine (sound.recorded_cases i mem).imp_right (.imp_left fun replaced => ?_)
      rw [idle] at replaced
      cases replaced
  cases mode : modes i with
  | locked => exact free (.outside []) (by rw [mode]; rfl) (by rw [mode]; rfl) nofun rfl
  | vacant id => exact free (.outside []) (by rw [mode]; rfl) (by rw [mode]; rfl) nofun rfl
  | approved draft base =>
    exact free (.outside []) (by rw [mode]; rfl) (by rw [mode]; rfl) nofun rfl
  | recorded => exact free .finished (by rw [mode]; rfl) (by rw [mode]; rfl) trivial rfl
  | outside seen =>
    rw [mode] at may
    cases may
  | replaced draft config =>
    rw [mode] at may
    cases may
  | finished =>
    rw [mode] at may
    cases may
  | lost =>
    rw [mode] at supports
    cases supports

/-- A process replaces the configuration with what its draft proposes. -/
theorem apply (sound : Sound files modes) {draft : RegistrationDraft}
    {base : Option SupervisorConfig} (mode : modes i=.approved draft base)
    (config : SupervisorConfig) : Sound (files.replaceConfig draft.draftId config)
      (Function.update modes i (.replaced draft config)) := by
  have owns : (modes i).owns=true := by rw [mode]; rfl
  have here := sound.supports i
  rw [mode] at here
  refine of_update ⟨List.mem_append_right _ (List.mem_singleton_self _),here.2⟩
    (fun j other => ?_) (fun _ => sound.owned i owns) (fun j _ => sound.owned j) sound.filed ?_
    fun id mem => ?_
  · have outside := sound.others_outside other owns
    have there := sound.supports j
    cases mode' : modes j with
    | outside seen =>
      rw [mode'] at there
      exact there
    | lost =>
      rw [mode'] at there
      cases there
    | locked => trivial
    | finished => trivial
    | recorded => trivial
    | vacant id => rw [mode'] at outside; cases outside
    | approved other base => rw [mode'] at outside; cases outside
    | replaced other config => rw [mode'] at outside; cases outside
  · refine List.nodup_append.mpr ⟨sound.once,List.nodup_singleton _,fun id mem other last => ?_⟩
    rw [List.mem_singleton.mp last]
    intro same
    exact here.1 (same ▸ mem)
  · rcases List.mem_append.mp mem with old|new
    · refine (sound.recorded_cases i old).imp_right (.imp_left fun replaced => ?_)
      rw [mode] at replaced
      cases replaced
    · rw [List.mem_singleton.mp new]
      exact .inr (.inl rfl)

/-- A process outside the lock only writes approvals of drafts that are stored. -/
theorem mayWrite_outside (sound : Sound files modes) {draft : RegistrationDraft}
    (may : (modes i).mayWrite authority draft) (free : (modes i).owns=false) :
    draft.status=.approved ∧ files.drafts draft.draftId≠none := by
  have here := sound.supports i
  cases mode : modes i with
  | outside seen =>
    rw [mode] at may here
    exact ⟨may.1,here draft.draftId may.2⟩
  | lost => rw [mode] at here; cases here
  | finished => rw [mode] at may; cases may
  | locked => rw [mode] at free; cases free
  | recorded => rw [mode] at free; cases free
  | vacant id => rw [mode] at free; cases free
  | approved found base => rw [mode] at free; cases free
  | replaced found config => rw [mode] at free; cases free

/-- What the holder of the lock writes: a new draft, or the commit of its draft. -/
theorem mayWrite_inside {draft : RegistrationDraft} (sound : Sound files modes)
    (may : (modes i).mayWrite authority draft) (holds : (modes i).owns=true) :
    files.drafts draft.draftId=none ∧ draft.status=.prepared ∧
        (modes i).applied=none ∨
      draft.status=.committed ∧ ∀id,(modes i).applied=some id → draft.draftId=id := by
  have here := sound.supports i
  cases mode : modes i with
  | outside seen => rw [mode] at holds; cases holds
  | lost => rw [mode] at holds; cases holds
  | finished => rw [mode] at holds; cases holds
  | locked => rw [mode] at may; cases may
  | recorded => rw [mode] at may; cases may
  | vacant id =>
    rw [mode] at may here
    exact .inl ⟨by rw [may.2]; exact here,may.1,rfl⟩
  | approved found base =>
    rw [mode] at may
    exact .inr ⟨may.1,fun _ => nofun⟩
  | replaced found config =>
    rw [mode] at may
    refine .inr ⟨may.1,fun id same => ?_⟩
    cases same
    exact may.2

/-- What the others rely on stays true when a process writes a draft. -/
theorem supports_storeDraft (sound : Sound files modes) {draft : RegistrationDraft}
    (may : (modes i).mayWrite authority draft) (j : Nat) (other : j≠i) :
    (files.storeDraft draft).Supports (modes j) := by
  have there := sound.supports j
  cases mode : modes j with
  | outside seen =>
    rw [mode] at there
    intro id mem
    by_cases same : id=draft.draftId
    · simp [storeDraft,same]
    · simpa [storeDraft,Function.update_of_ne same] using there id mem
  | locked => trivial
  | recorded => trivial
  | finished => trivial
  | lost => rw [mode] at there; cases there
  | vacant id =>
    obtain ⟨-,stored⟩ := sound.mayWrite_outside may
      (sound.others_outside other.symm (by rw [mode]; rfl))
    rw [mode] at there
    have apart : id≠draft.draftId := fun same => stored (same ▸ there)
    simpa [storeDraft,Supports,Function.update_of_ne apart] using there
  | approved found base =>
    obtain ⟨approval,-⟩ := sound.mayWrite_outside may
      (sound.others_outside other.symm (by rw [mode]; rfl))
    rw [mode] at there
    refine ⟨there.1,?_⟩
    rw [statusOf_storeDraft,approval]
    split_ifs
    · simp
    · exact there.2
  | replaced found config =>
    obtain ⟨approval,-⟩ := sound.mayWrite_outside may
      (sound.others_outside other.symm (by rw [mode]; rfl))
    rw [mode] at there
    refine ⟨there.1,?_⟩
    rw [statusOf_storeDraft,approval]
    split_ifs
    · simp
    · exact there.2

/-- A process writes a draft that it may write; an approval does not go over a committed draft. -/
theorem store (sound : Sound files modes) (draft : RegistrationDraft)
    (may : (modes i).mayWrite authority draft)
    (guarded : draft.status=.approved → files.statusOf draft.draftId≠some .committed) :
    Sound (files.storeDraft draft) (Function.update modes i (modes i).written) := by
  have here := sound.supports i
  have filed : (files.storeDraft draft).Filed := by
    intro id stored mem
    by_cases same : id=draft.draftId
    · simp only [storeDraft,same,Function.update_self,Option.some.injEq,
        FileContent.value.injEq] at mem
      rw [← mem,same,RegistrationDraft.reread_draftId]
    · simp only [storeDraft,Function.update_of_ne same] at mem
      exact sound.filed id stored mem
  refine of_update ?_ (fun j other => sound.supports_storeDraft may j other) (fun own => ?_)
    (fun j _ => sound.owned j) filed sound.once fun id mem => ?_
  · cases mode : modes i with
    | outside seen =>
      rw [mode] at here
      intro id mem
      by_cases same : id=draft.draftId
      · simp [storeDraft,same]
      · simpa [storeDraft,Function.update_of_ne same] using here id mem
    | lost => rw [mode] at here; cases here
    | locked => trivial
    | recorded => trivial
    | finished => trivial
    | vacant id => trivial
    | approved found base => trivial
    | replaced found config => trivial
  · refine sound.owned i ?_
    cases mode : modes i with
    | outside seen => rw [mode] at own; cases own
    | lost => rw [mode] at own; cases own
    | finished => rw [mode] at own; cases own
    | locked => rfl
    | recorded => rfl
    | vacant id => rfl
    | approved found base => rfl
    | replaced found config => rfl
  · rw [statusOf_storeDraft]
    cases holds : (modes i).owns with
    | false =>
      obtain ⟨approval,-⟩ := sound.mayWrite_outside may holds
      rcases sound.recorded_cases i mem with done|now|other
      · have apart : id≠draft.draftId := fun same => guarded approval (same ▸ done)
        rw [if_neg apart]
        exact .inl done
      · rw [RegistrationMode.owns_of_applied now] at holds
        cases holds
      · exact .inr (.inr other)
    | true =>
      rcases sound.mayWrite_inside may holds with ⟨new,-,idle⟩|⟨commit,mine⟩
      · rcases sound.recorded_cases i mem with done|now|other
        · have apart : id≠draft.draftId := by
            intro same
            rw [same] at done
            simp [statusOf,new] at done
          rw [if_neg apart]
          exact .inl done
        · rw [idle] at now
          cases now
        · exact .inr (.inr other)
      · rw [commit]
        rcases sound.recorded_cases i mem with done|now|other
        · refine .inl ?_
          split_ifs
          · rfl
          · exact done
        · rw [if_pos (mine id now).symm]
          exact .inl rfl
        · exact .inr (.inr other)

end Sound

end RegistrationFiles

open RegistrationFiles

/-- Whether the process is about to write an approval over a committed draft. -/
def overwritesCommitted (s : RegistrationState) (i : Nat) : Bool :=
  match s.calling i with
  | some (.replaceDraft draft) =>
    draft.status=.approved && s.shared.statusOf draft.draftId=some .committed
  | _ => false

/-- What the law of the drafts needs of a step: no approval goes over a committed draft, and no call
fails for the holder of the lock while a draft that has replaced the configuration is not recorded
as committed. -/
def Orderly (s : RegistrationState) : RegistrationMove → Prop
  | .advance i choice => overwritesCommitted s i=false ∧
      (s.shared.lock=some i → s.shared.unrecorded=true → choice.failure=none)
  | _ => True

instance (s : RegistrationState) (move : RegistrationMove) : Decidable (Orderly s move) := by
  unfold Orderly
  cases move <;> exact inferInstance

namespace Orderly

variable {s : RegistrationState} {modes : Nat → RegistrationMode} {i : Nat}
  {choice : RegistrationChoice} {draft : RegistrationDraft}

theorem approval (orderly : Orderly s (.advance i choice))
    (calling : s.calling i=some (.replaceDraft draft)) (approved : draft.status=.approved) :
    s.shared.statusOf draft.draftId≠some .committed := by
  have kept := orderly.1
  unfold overwritesCommitted at kept
  rw [calling] at kept
  simpa [approved] using kept

/-- A call that fails does not spoil the commit of a draft. -/
theorem spoiled_eq (orderly : Orderly s (.advance i choice)) (sound : Sound s.shared modes)
    {failure : IoFailure} (failed : choice.failure=some failure) :
    (modes i).spoiled=modes i := by
  cases mode : modes i with
  | replaced id =>
    have lock := sound.owned i (by rw [mode]; rfl)
    have worked := orderly.2 lock (sound.unrecorded_of_replaced mode)
    rw [worked] at failed
    cases failed
  | _ => rfl

/-- A call that either works or fails and changes nothing; `next` is the mode after it. -/
theorem attempt (orderly : Orderly s (.advance i choice)) (sound : Sound s.shared modes) {α : Type}
    (a : α) (files' : RegistrationFiles) (next : Except IoFailure α → RegistrationMode)
    (worked : Sound files' (Function.update modes i (next (.ok a))))
    (failing : ∀failure,next (.error failure)=(modes i).spoiled) :
    Sound (RegistrationFiles.attempt s.shared choice a files').2
      (Function.update modes i (next (RegistrationFiles.attempt s.shared choice a files').1)) := by
  unfold RegistrationFiles.attempt
  cases failed : choice.failure with
  | none => exact worked
  | some failure =>
    show Sound s.shared (Function.update modes i (next (.error failure)))
    rw [failing,orderly.spoiled_eq sound failed,Function.update_eq_self]
    exact sound

end Orderly

namespace RegistrationFiles.Sound

variable {files : RegistrationFiles} {modes : Nat → RegistrationMode} {i : Nat}

/-- A process stays in its mode. -/
theorem stay (sound : Sound files modes) {m : RegistrationMode} (same : m=modes i) :
    Sound files (Function.update modes i m) := by
  rw [same,Function.update_eq_self]
  exact sound

/-- A process reads a draft. One that holds the lock and finds the draft approved knows that it has
not replaced the configuration. -/
theorem read (sound : Sound files modes) {draftId : String} {draft : RegistrationDraft}
    (stored : files.drafts draftId=some (.value draft)) :
    Sound files (Function.update modes i ((modes i).reading draft)) := by
  have named := sound.filed draftId draft stored
  subst named
  have here := sound.supports i
  cases mode : modes i with
  | outside seen =>
    rw [mode] at here
    refine sound.remode _ (fun id mem => ?_) (fun own => nomatch own) fun id same => ?_
    · rcases List.mem_cons.mp mem with now|before
      · rw [now,stored]
        nofun
      · exact here id before
    · rw [mode] at same
      cases same
  | locked =>
    have status : files.statusOf draft.draftId=some draft.status := by simp [statusOf,stored]
    have kept (m : RegistrationMode) (supports : files.Supports m) :
        Sound files (Function.update modes i m) := by
      refine sound.remode m supports (fun _ => by rw [mode]; rfl) fun id same => ?_
      rw [mode] at same
      cases same
    unfold RegistrationMode.reading
    cases found : draft.status with
    | prepared => exact kept .locked trivial
    | committed => exact kept .recorded trivial
    | approved =>
      have fresh : files.statusOf draft.draftId≠some .committed := by
        rw [status,found]
        nofun
      refine kept (.approved draft none) ⟨fun mem => ?_,fresh⟩
      rcases sound.recorded draft.draftId mem with done|⟨j,replaced⟩
      · exact fresh done
      · have same : i=j := sound.sole (by rw [mode]; rfl)
          (RegistrationMode.owns_of_applied replaced)
        subst same
        rw [mode] at replaced
        cases replaced
  | _ => exact sound.stay mode.symm

/-- A process reads the configuration. -/
theorem base (sound : Sound files modes) (config : SupervisorConfig) :
    Sound files (Function.update modes i ((modes i).basing config)) := by
  have here := sound.supports i
  cases mode : modes i with
  | approved draft before =>
    rw [mode] at here
    refine sound.remode (.approved draft (some config)) here (fun _ => by rw [mode]; rfl)
      fun id same => ?_
    rw [mode] at same
    cases same
  | _ => exact sound.stay mode.symm

/-- A process looks whether a draft is stored. -/
theorem look (sound : Sound files modes) (draftId : String) :
    Sound files (Function.update modes i
      ((modes i).after (.draftExists draftId) (files.drafts draftId).isSome)) := by
  cases there : files.drafts draftId with
  | none =>
    cases mode : modes i with
    | locked =>
      refine sound.remode (.vacant draftId) there (fun _ => by rw [mode]; rfl) fun id same => ?_
      rw [mode] at same
      cases same
    | _ => exact sound.stay mode.symm
  | some content =>
    cases mode : modes i with
    | vacant id =>
      refine sound.remode .locked trivial (fun _ => by rw [mode]; rfl) fun id same => ?_
      rw [mode] at same
      cases same
    | _ => exact sound.stay mode.symm

/-- The files are sound after every orderly call that the discipline permits. -/
theorem respond {authority : RegistrationAuthority}
    {reads : RegistrationMode → String → Prop} {s : RegistrationState}
    (sound : Sound s.shared modes) {choice : RegistrationChoice} (call : RegistrationCall)
    (calling : s.calling i=some call) (may : (modes i).permits authority reads call)
    (orderly : Orderly s (.advance i choice)) :
    Sound (s.shared.respond i choice call).2
      (Function.update modes i ((modes i).after call (s.shared.respond i choice call).1)) := by
  have idle := sound.stay (i := i) (m := modes i) rfl
  cases call with
  | now =>
    exact orderly.attempt sound choice.clock s.shared ((modes i).after .now) idle fun _ => rfl
  | createDirectory =>
    exact orderly.attempt sound () s.shared ((modes i).after .createDirectory) idle fun _ => rfl
  | writeLock createdAt =>
    exact orderly.attempt sound () s.shared ((modes i).after (.writeLock createdAt)) idle
      fun _ => rfl
  | writeTemporary =>
    exact orderly.attempt sound () s.shared ((modes i).after .writeTemporary) idle fun _ => rfl
  | appendAudit record =>
    have audited : Sound { s.shared with audit := s.shared.audit++[record] }
        (Function.update modes i (modes i)) :=
      ⟨idle.supports,idle.owned,idle.filed,idle.once,idle.recorded⟩
    exact orderly.attempt sound () _ ((modes i).after (.appendAudit record)) audited fun _ => rfl
  | replaceDraft draft =>
    exact orderly.attempt sound () (s.shared.storeDraft draft)
      ((modes i).after (.replaceDraft draft)) (sound.store draft may (orderly.approval calling))
      fun _ => rfl
  | replaceConfig draftId config =>
    obtain ⟨draft,current,mode,named,-⟩ := may
    subst named
    have worked : Sound (s.shared.replaceConfig draft.draftId config) (Function.update modes i
        ((modes i).after (.replaceConfig draft.draftId config) (.ok ()))) := by
      have after : (modes i).after (.replaceConfig draft.draftId config) (.ok ())=
          .replaced draft config := by
        rw [mode]
        rfl
      rw [after]
      exact sound.apply mode config
    exact orderly.attempt sound () (s.shared.replaceConfig draft.draftId config)
      ((modes i).after (.replaceConfig draft.draftId config)) worked fun _ => rfl
  | createLock =>
    show Sound (s.shared.takeLock i choice).2
      (Function.update modes i ((modes i).after .createLock (s.shared.takeLock i choice).1))
    unfold RegistrationFiles.takeLock
    cases free : s.shared.lock with
    | some holder => exact idle
    | none =>
      cases choice.failure with
      | some failure => exact idle
      | none => exact sound.acquire (i := i) free
  | removeLock =>
    show Sound (s.shared.dropLock choice) (Function.update modes i (modes i).dropped)
    rw [RegistrationFiles.dropLock]
    by_cases worked : choice.failure=none
    · rw [if_pos worked]
      exact sound.release may none
    · rw [if_neg worked]
      exact sound.release may s.shared.lock
  | draftExists draftId => exact sound.look draftId
  | readDraft draftId =>
    show Sound s.shared (Function.update modes i
      ((modes i).after (.readDraft draftId) (s.shared.readDraft choice draftId)))
    cases result : s.shared.readDraft choice draftId with
    | error e => exact idle
    | ok draft => exact sound.read (RegistrationFiles.readDraft_ok result)
  | readConfig =>
    show Sound s.shared
      (Function.update modes i ((modes i).after .readConfig (s.shared.readConfig choice)))
    cases s.shared.readConfig choice with
    | error e => exact idle
    | ok config => exact sound.base config
  | pathState => exact idle
  | queryService control serviceId => exact idle
  | observeReconciliation config revision => exact idle
  | isTerminal => exact idle
  | review draft commitAfterApproval =>
    show Sound (RegistrationFiles.attempt s.shared choice choice.typed s.shared).2 _
    unfold RegistrationFiles.attempt
    cases choice.failure <;> exact idle

end RegistrationFiles.Sound

namespace RegistrationFiles

theorem forward_of_drafts {files files' : RegistrationFiles} (same : files'.drafts=files.drafts) :
    Forward files files' := by
  intro draftId status here
  refine ⟨status,?_,le_refl _⟩
  rw [← here]
  unfold statusOf
  rw [same]

/-- An orderly call that the discipline permits moves no draft backward. -/
theorem Sound.forward {authority : RegistrationAuthority}
    {reads : RegistrationMode → String → Prop} {s : RegistrationState}
    {modes : Nat → RegistrationMode} {i : Nat} (sound : Sound s.shared modes)
    {choice : RegistrationChoice} (call : RegistrationCall)
    (calling : s.calling i=some call) (may : (modes i).permits authority reads call)
    (orderly : Orderly s (.advance i choice)) :
    Forward s.shared (s.shared.respond i choice call).2 := by
  by_cases write : ∃draft,call=.replaceDraft draft
  · obtain ⟨draft,rfl⟩ := write
    show Forward s.shared (attempt s.shared choice () (s.shared.storeDraft draft)).2
    unfold attempt
    cases choice.failure with
    | some failure => exact .refl s.shared
    | none =>
      refine forward_storeDraft s.shared draft fun status here => ?_
      cases holds : (modes i).owns with
      | false =>
        have approved := (sound.mayWrite_outside may holds).1
        have open' := orderly.approval calling approved
        rw [here] at open'
        rw [approved]
        cases status with
        | prepared => decide
        | approved => decide
        | committed => exact absurd rfl open'
      | true =>
        rcases sound.mayWrite_inside may holds with ⟨new,-,-⟩|⟨commit,-⟩
        · simp [statusOf,new] at here
        · rw [commit]
          cases status <;> decide
  · exact forward_of_drafts (drafts_respond s.shared i choice call fun draft same =>
      write ⟨draft,same⟩)

end RegistrationFiles

namespace RegistrationAuthority

variable (authority : RegistrationAuthority)

/-- Every process may read every draft. -/
abbrev anyDraft : RegistrationMode → String → Prop := fun _ _ => True

theorem keeps_operation (request : RegistrationRequest) :
    RegistrationM.Keeps authority anyDraft (authority.operation request) (.outside [])
      (fun _ _ => True) fun _ _ => True := by
  cases request with
  | prepare request =>
    refine (Program.tries_bind _ _).mpr ((authority.keeps_prepare request [] trivial).mono ?_ ?_)
    · exact fun _ _ _ => trivial
    · exact fun _ _ _ => trivial
  | approve draftId =>
    refine (Program.tries_bind _ _).mpr
      ((authority.keeps_approveInteractiveMode draftId false [] trivial).mono ?_ ?_)
    · exact fun _ _ _ => trivial
    · exact fun _ _ _ => trivial
  | commit draftId auditActor =>
    refine (Program.tries_bind _ _).mpr
      ((authority.keeps_commitWithActor draftId auditActor [] trivial).mono ?_ ?_)
    · exact fun _ _ _ => trivial
    · exact fun _ _ _ => trivial
  | approveAndCommit draftId =>
    refine (Program.tries_bind _ _).mpr
      ((authority.keeps_approveAndCommitInteractive draftId [] fun _ => trivial).mono ?_ ?_)
    · exact fun _ _ _ => trivial
    · exact fun _ _ _ => trivial

theorem upholds : Upholds (registrationSystem authority) (registrationDiscipline authority anyDraft)
    (.outside []) id Orderly Sound where
  follows request := by
    refine Program.Follows.mono (authority.keeps_operation request) fun result m' _ => trivial
  advances s modes i choice call next sound here may orderly :=
    sound.respond call (State.calling_eq here) may orderly
  kills s modes i sound _ := sound.stay rfl
  disturbs s modes config sound _ :=
    ⟨sound.supports,sound.owned,sound.filed,sound.once,sound.recorded⟩

end RegistrationAuthority

/-- The files after a run of registration processes. -/
def registrationRun (authority : RegistrationAuthority) (files : RegistrationFiles)
    (moves : List RegistrationMove) : RegistrationFiles :=
  (Run.final (step (registrationSystem authority)) moves (.initial files)).shared

/-- Every step of the run is orderly. -/
def OrderlyRun (authority : RegistrationAuthority) (files : RegistrationFiles)
    (moves : List RegistrationMove) : Prop :=
  Run.Along (step (registrationSystem authority)) Orderly moves (.initial files)

instance (authority : RegistrationAuthority) (files : RegistrationFiles)
    (moves : List RegistrationMove) : Decidable (OrderlyRun authority files moves) :=
  inferInstanceAs (Decidable (Run.Along _ _ _ _))

/-- Registration drafts move forward only and replace the configuration once, in every run in which
no approval goes over a committed draft and no commit fails between its two replacements. -/
theorem registration_forward_once (authority : RegistrationAuthority) (files : RegistrationFiles)
    (filed : files.Filed) (unused : files.replacements=[]) (moves : List RegistrationMove)
    (orderly : OrderlyRun authority files moves) :
    (∀earlier later,moves=earlier++later →
      Forward (registrationRun authority files earlier) (registrationRun authority files moves)) ∧
    (registrationRun authority files moves).replacements.Nodup := by
  have keeps := authority.upholds.keeps
  have start : Disciplined (registrationDiscipline authority RegistrationAuthority.anyDraft)
      (.outside []) Sound
      (.initial files : RegistrationState) := by
    refine disciplined_initial files ⟨fun _ _ mem => (nomatch mem),fun _ own => (nomatch own),
      filed,?_,?_⟩
    · rw [unused]
      exact List.nodup_nil
    · rw [unused]
      exact fun _ mem => nomatch mem
  have each (s : RegistrationState) (move : RegistrationMove)
      (disciplined : Disciplined (registrationDiscipline authority RegistrationAuthority.anyDraft)
      (.outside []) Sound s)
      (allowed : Orderly s move) :
      Forward s.shared (step (registrationSystem authority) move s).shared :=
    disciplined.moves Orderly Forward Forward.refl
      (fun s modes i choice call next sound here may orderly =>
        sound.forward call (State.calling_eq here) may orderly)
      (fun _ files => .refl files) (fun _ _ => forward_of_drafts rfl) allowed
  constructor
  · intro earlier later split
    subst split
    obtain ⟨before,after⟩ := (Run.along_append Orderly earlier later _).mp orderly
    unfold registrationRun
    rw [Run.final_append]
    exact keeps.related (R := fun s t => Forward s.shared t.shared) (fun s => .refl s.shared)
      (fun _ _ _ => Forward.trans) each (keeps.final start before) after
  · obtain ⟨modes,sound,-⟩ := keeps.final start orderly
    exact sound.once

section Fixture

/-- A service that lives below `root` and is watched as a process only. -/
def fixtureService (label root : String) : ServiceConfig :=
  { label
    cwd := root
    command := root++"/server"
    args := []
    environment := ∅
    dependsOn := []
    startupPrerequisites := []
    health := .process
    ports := []
    restartPolicy := .manual
    shutdownGraceMs := 5000 }

def fixtureConfig (services : List (String × ServiceConfig)) : SupervisorConfig :=
  { version := 2
    control := ⟨"127.0.0.1",47820,".runtime/control.token",false,[]⟩
    observability := ⟨.lifecycle⟩
    cooperativeActions := ⟨none⟩
    services := .ofList services }

def fixtureBase : SupervisorConfig := fixtureConfig [("api",fixtureService "API" "/srv/api")]

def fixtureProposed : SupervisorConfig :=
  fixtureConfig [("api",fixtureService "API" "/srv/api"),
    ("worker",fixtureService "Worker" "/srv/worker")]

def fixtureDigest (request : String) : String :=
  if request="add-worker" then "8c83ffd4c6f3370307956fe0c507fdae5a4b856f0f641dd105ab0872ddd19238"
  else "0000000000000000000000000000000000000000000000000000000000000000"

def fixtureAuthority : RegistrationAuthority where
  configurationPath := "/srv/services.json"
  facts :=
    { isAbsolute := Cut.startsWith "/"
      components := fun path => (Cut.split '/' path).map .normal
      parseIpAddr := fun _ => none
      parseSocketAddr := fun _ => none }
  textDigest := fixtureDigest
  configDigest config :=
    if config.services.contains "worker" then
      "77da593e3419b15f404d2f950449905b3ef9126e5c269a71f197432bf476488b"
    else "cb3569705ddfdeb064469ed0c61ccb96e1a4ebd0d5e5def931b348ccdfaf70b2"
  proposalDigest _ := "c12eb74ef9a9b4c23ac239c808c7b0cfac85b33afcc0169e48108042bc7029d4"
  serviceJson service := .object [("label",.string service.label)]
  digestLength request := by
    unfold fixtureDigest
    split_ifs <;> decide +kernel
  digestHex request := by
    unfold fixtureDigest
    split_ifs <;> decide +kernel

/-- Everything works, and the terminal types the right phrase. -/
def fixtureChoice : RegistrationChoice :=
  { failure := none
    clock := 1000
    paths := ⟨fun _ => true,fun _ => true⟩
    response := .error (.token "absent")
    observation := ⟨.offline,none,none,some "absent"⟩
    terminal := true
    typed := "APPROVE worker 8042bc7029d4\n" }

def fixtureDraftId : String := "registration-8c83ffd4c6f337030795"

/-- The draft that registers the worker, prepared at the time 0. -/
def fixtureDraft : RegistrationDraft :=
  { schemaVersion := 1
    draftId := fixtureDraftId
    requestId := "add-worker"
    operation := .register
    serviceId := "worker"
    configurationPath := "/srv/services.json"
    baseRevision := "sha256:cb3569705ddfdeb064469ed0c61ccb96e1a4ebd0d5e5def931b348ccdfaf70b2"
    proposedRevision := "sha256:77da593e3419b15f404d2f950449905b3ef9126e5c269a71f197432bf476488b"
    proposalHash := "sha256:c12eb74ef9a9b4c23ac239c808c7b0cfac85b33afcc0169e48108042bc7029d4"
    createdAtUnixMs := 0
    expiresAtUnixMs := draftLifetimeMs
    status := .prepared
    approvedAtUnixMs := none
    committedAtUnixMs := none
    confirmationPhrase := "APPROVE worker 8042bc7029d4"
    warnings := []
    changeSummary := fixtureAuthority.changeSummary .register "worker" fixtureBase fixtureProposed
    beforeConfiguration := fixtureBase
    afterConfiguration := fixtureProposed }

def fixtureFiles : RegistrationFiles :=
  ⟨none,fun id => if id=fixtureDraftId then some (.value fixtureDraft) else none,
    .value fixtureBase,[],[],id⟩

def fixtureSteps (process calls : Nat) : List RegistrationMove :=
  List.replicate calls (.advance process fixtureChoice)

/-- One approval waits at its prompt while another one and the commit go through. -/
def fixtureOvertaken : List RegistrationMove :=
  .launch 1 (.approve fixtureDraftId)::fixtureSteps 1 2++
  .launch 2 (.approve fixtureDraftId)::fixtureSteps 2 12++
  .launch 3 (.commit fixtureDraftId "registration_mcp")::fixtureSteps 3 22

/-- The approval that waited is confirmed. -/
def fixtureLate : List RegistrationMove := fixtureSteps 1 10

/-- The configuration is put back, and the draft is committed again. -/
def fixtureAgain : List RegistrationMove :=
  .disturb (.value fixtureBase)::.launch 4 (.commit fixtureDraftId "registration_mcp")::
    fixtureSteps 4 22

theorem filed_fixtureFiles : fixtureFiles.Filed := by
  intro draftId draft stored
  simp only [fixtureFiles] at stored
  split_ifs at stored with same
  cases stored
  exact same.symm

/-- The race in its three parts. One evaluation serves them all. -/
theorem fixture_race :
    OrderlyRun fixtureAuthority fixtureFiles fixtureOvertaken ∧
    (registrationRun fixtureAuthority fixtureFiles fixtureOvertaken).statusOf fixtureDraftId=
      some .committed ∧
    (registrationRun fixtureAuthority fixtureFiles (fixtureOvertaken++fixtureLate)).statusOf
      fixtureDraftId=some .approved ∧
    (registrationRun fixtureAuthority fixtureFiles
      (fixtureOvertaken++fixtureLate++fixtureAgain)).replacements=
        [fixtureDraftId,fixtureDraftId] := by
  decide +kernel

/-- Two approvals and a commit, of which one approval is still waiting. -/
theorem registration_forward_once_overtaken :
    OrderlyRun fixtureAuthority fixtureFiles fixtureOvertaken ∧
    (∀earlier later,fixtureOvertaken=earlier++later →
      Forward (registrationRun fixtureAuthority fixtureFiles earlier)
        (registrationRun fixtureAuthority fixtureFiles fixtureOvertaken)) ∧
    (registrationRun fixtureAuthority fixtureFiles fixtureOvertaken).replacements.Nodup :=
  ⟨fixture_race.1,registration_forward_once fixtureAuthority fixtureFiles filed_fixtureFiles rfl
    fixtureOvertaken fixture_race.1⟩

/-- The approval that waited sets the committed draft back, and with the configuration at its base
revision again the draft replaces it a second time. -/
theorem registration_backward_twice :
    (¬∀(authority : RegistrationAuthority) (files : RegistrationFiles)
      (moves earlier later : List RegistrationMove),files.Filed → files.replacements=[] →
      moves=earlier++later →
      Forward (registrationRun authority files earlier) (registrationRun authority files moves)) ∧
    ¬∀(authority : RegistrationAuthority) (files : RegistrationFiles)
      (moves : List RegistrationMove),files.Filed → files.replacements=[] →
      (registrationRun authority files moves).replacements.Nodup := by
  obtain ⟨-,committed,approved,twice⟩ := fixture_race
  constructor
  · intro claim
    obtain ⟨status,late,forward⟩ := claim fixtureAuthority fixtureFiles
      (fixtureOvertaken++fixtureLate) fixtureOvertaken fixtureLate filed_fixtureFiles rfl rfl
      fixtureDraftId .committed committed
    rw [approved] at late
    cases late
    exact absurd forward (by decide)
  · intro claim
    have once := claim fixtureAuthority fixtureFiles (fixtureOvertaken++fixtureLate++fixtureAgain)
      filed_fixtureFiles rfl
    rw [twice] at once
    simp at once

end Fixture

end AkuSupervisor
