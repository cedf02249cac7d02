import AkuSupervisor.Platform.TreeOwnership

namespace AkuSupervisor

open Program Interleaving

/-- How far an owner is with its tree. -/
inductive TreeMode where
  | outside
  | made (killOnClose : Bool)
  | created
  | refused
  | live
  | drained
  | closed
  | orphaned
  deriving DecidableEq

namespace TreeMode

/-- The job handle of an owner in the mode. -/
def handle : TreeMode → JobHandle
  | .outside => .absent
  | .made killOnClose => .opened killOnClose
  | .created | .refused | .live | .drained => .opened true
  | .closed | .orphaned => .closed

/-- What the processes of a tree are in the mode of its owner. -/
def Allows (m : TreeMode) (root : Option Nat) (pid : Nat) (p : OsProcess) : Prop :=
  match m with
  | .outside | .made _ => False
  | .created => root=some pid ∧ p.job=none ∧ p.phase≠.running
  | .refused | .closed => p.phase=.dying ∨ p.phase=.exited
  | .live => p.job=p.tree
  | .drained => p.job=p.tree ∧ p.phase=.exited
  | .orphaned => p.phase=.dying ∨ p.phase=.exited ∨ (p.phase=.suspended ∧ p.job=none)

/-- A job is closed only when no process of the tree is outside it, and an empty tree is reported
only after the job was seen to be empty. -/
def permits (m : TreeMode) : TreeRequest → Prop
  | .createJob => m=.outside
  | .configureJob => m=.made false
  | .createProcess => m=.made true
  | .assignProcess => m=.created
  | .resumePrimaryThread => m=.live
  | .terminateRoot => m=.created ∨ m=.live
  | .queryJob _ | .terminateJob => m=.live ∨ m=.drained
  | .closeJob => (∃limit,m=.made limit) ∨ m=.refused ∨ m=.live ∨ m=.drained
  | .report report => report.ownedPidsAfter=[] → m=.drained
  | _ => True

def after (m : TreeMode) : (request : TreeRequest) → request.Answer → TreeMode
  | .createJob,.ok () => .made false
  | .configureJob,.ok () => .made true
  | .createProcess,.ok _ => .created
  | .assignProcess,.ok () => .live
  | .terminateRoot,_ => if m=.created then .refused else m
  | .queryJob _,.ok info => if info.assigned=0 then .drained else m
  | .closeJob,_ => .closed
  | _,_ => m

/-- The mode of an owner that died. -/
def dead : TreeMode → TreeMode
  | .outside => .outside
  | .created | .orphaned => .orphaned
  | _ => .closed

end TreeMode

/-- The way owners treat their trees. -/
def treeDiscipline : Discipline TreeRequest TreeRequest.Answer TreeMode :=
  ⟨TreeMode.permits,TreeMode.after⟩

/-- A process that is left as it is, or that runs no more. -/
structure OsProcess.Fades (p p' : OsProcess) : Prop where
  tree : p'.tree=p.tree
  job : p'.job=p.job
  phase : p'.phase=p.phase ∨ p'.phase=.dying ∨ p'.phase=.exited
  exited : p.phase=.exited → p'.phase=.exited

namespace OsProcess

theorem fades_same (p : OsProcess) : p.Fades p := ⟨rfl,rfl,.inl rfl,id⟩

theorem fades_terminated (p : OsProcess) : p.Fades p.terminated := by
  refine ⟨rfl,rfl,?_,fun gone => ?_⟩
  · unfold terminated
    by_cases gone : p.phase=.exited
    · exact .inl (by simp [gone])
    · exact .inr (.inl (by simp [gone]))
  · simp [terminated,gone]

theorem fades_exit (p : OsProcess) : p.Fades { p with phase := .exited } :=
  ⟨rfl,rfl,.inr (.inr rfl),fun _ => rfl⟩

theorem terminated_phase (p : OsProcess) :
    p.terminated.phase=.dying ∨ p.terminated.phase=.exited := by
  unfold terminated
  by_cases gone : p.phase=.exited
  · exact .inr (by simp [gone])
  · exact .inl (by simp [gone])

/-- What a mode allows of a process, it allows of one that runs no more. -/
theorem Fades.allows {p p' : OsProcess} (fades : p.Fades p') {m : TreeMode} {root : Option Nat}
    {pid : Nat} (allows : m.Allows root pid p) : m.Allows root pid p' := by
  obtain ⟨tree,job,phase,exited⟩ := fades
  cases m with
  | outside => exact allows
  | made limit => exact allows
  | created =>
    obtain ⟨isRoot,free,still⟩ := allows
    refine ⟨isRoot,job.trans free,fun runs => ?_⟩
    rcases phase with same|dying|gone
    · exact still (same ▸ runs)
    · rw [dying] at runs
      cases runs
    · rw [gone] at runs
      cases runs
  | refused =>
    rcases phase with same|past
    · rwa [TreeMode.Allows,same]
    · exact past
  | closed =>
    rcases phase with same|past
    · rwa [TreeMode.Allows,same]
    · exact past
  | live => exact job.trans (Eq.trans allows tree.symm)
  | drained => exact ⟨job.trans (allows.1.trans tree.symm),exited allows.2⟩
  | orphaned =>
    rcases phase with same|dying|gone
    · rwa [TreeMode.Allows,same,job]
    · exact .inl dying
    · exact .inr (.inl gone)

end OsProcess

namespace ProcessWorld

theorem change_processes (world : ProcessWorld) (which : Nat → OsProcess → Bool)
    (f : OsProcess → OsProcess) (pid : Nat) :
    (world.change which f).processes[pid]?=
      world.processes[pid]?.map fun p => if which pid p then f p else p := by
  simp [change]

/-- A process after a change was there before. -/
theorem change_some {world : ProcessWorld} {which : Nat → OsProcess → Bool}
    {f : OsProcess → OsProcess} {pid : Nat} {p' : OsProcess}
    (here : (world.change which f).processes[pid]?=some p') :
    ∃p,world.processes[pid]?=some p ∧ p'=if which pid p then f p else p := by
  rw [change_processes] at here
  obtain ⟨p,before,same⟩ := Option.map_eq_some_iff.mp here
  exact ⟨p,before,same.symm⟩

theorem append_some {processes : List OsProcess} {fresh p : OsProcess} {pid : Nat}
    (here : (processes++[fresh])[pid]?=some p) :
    processes[pid]?=some p ∨ pid=processes.length ∧ p=fresh := by
  rcases Nat.lt_or_ge pid processes.length with early|late
  · rw [List.getElem?_append_left early] at here
    exact .inl here
  · rw [List.getElem?_append_right late,List.getElem?_singleton] at here
    split_ifs at here with last
    exact .inr ⟨by omega,(Option.some.inj here).symm⟩

theorem fork_cases (world : ProcessWorld) (parent : Nat) :
    world.fork parent=world ∨ ∃p,world.processes[parent]?=some p ∧ p.phase=.running ∧
      world.fork parent={ world with processes := world.processes++[child p] } := by
  unfold fork
  cases there : world.processes[parent]? with
  | none => exact .inl rfl
  | some p =>
    by_cases runs : p.phase=.running
    · exact .inr ⟨p,rfl,runs,if_pos runs⟩
    · exact .inl (if_neg runs)

/-- The world as the modes of the owners tell it. -/
structure Fits (world : ProcessWorld) (modes : Nat → TreeMode) : Prop where
  handle : ∀i,world.job i=(modes i).handle
  allows : ∀i (pid : Nat) (p : OsProcess),world.processes[pid]?=some p → p.tree=some i →
    (modes i).Allows (world.root i) pid p
  own : ∀(pid : Nat) (p : OsProcess),world.processes[pid]?=some p → p.job=none ∨ p.job=p.tree
  rooted : ∀i pid,world.root i=some pid →
    ∃p : OsProcess,world.processes[pid]?=some p ∧ p.tree=some i
  reported : ∀i report,(i,report)∈world.reports → report.ownedPidsAfter=[] →
    (modes i=.drained ∨ modes i=.closed) ∧
      ∀(pid : Nat) (p : OsProcess),world.processes[pid]?=some p → p.tree=some i → p.phase=.exited

namespace Fits

variable {world : ProcessWorld} {modes : Nat → TreeMode} {i : Nat}

/-- Processes that run no more, and nothing else. -/
theorem fade (fits : Fits world modes) {which : Nat → OsProcess → Bool}
    {f : OsProcess → OsProcess} (fades : ∀p,OsProcess.Fades p (f p)) :
    Fits (world.change which f) modes := by
  have earlier {pid : Nat} {p' : OsProcess}
      (here : (world.change which f).processes[pid]?=some p') :
      ∃p,world.processes[pid]?=some p ∧ p.Fades p' := by
    obtain ⟨p,before,same⟩ := change_some here
    refine ⟨p,before,?_⟩
    rw [same]
    split_ifs
    · exact fades p
    · exact p.fades_same
  refine ⟨fits.handle,fun j pid p' here mine => ?_,fun pid p' here => ?_,fun j pid root => ?_,
    fun j report mem empty => ?_⟩
  · obtain ⟨p,before,fading⟩ := earlier here
    exact fading.allows (fits.allows j pid p before (fading.tree.symm.trans mine))
  · obtain ⟨p,before,fading⟩ := earlier here
    rw [fading.job,fading.tree]
    exact fits.own pid p before
  · obtain ⟨p,before,mine⟩ := fits.rooted j pid root
    refine ⟨if which pid p then f p else p,by rw [change_processes,before]; rfl,?_⟩
    split_ifs
    · exact (fades p).tree.trans mine
    · exact mine
  · obtain ⟨mode,gone⟩ := fits.reported j report mem empty
    refine ⟨mode,fun pid p' here mine => ?_⟩
    obtain ⟨p,before,fading⟩ := earlier here
    exact fading.exited (gone pid p before (fading.tree.symm.trans mine))

/-- A new process that belongs to no tree, or to one whose owner allows it. -/
theorem grow (fits : Fits world modes) {fresh : OsProcess}
    (allows : ∀j,fresh.tree=some j → (modes j).Allows (world.root j) world.processes.length fresh)
    (own : fresh.job=none ∨ fresh.job=fresh.tree)
    (silent : ∀j,fresh.tree=some j → modes j≠.drained ∧ modes j≠.closed) :
    Fits { world with processes := world.processes++[fresh] } modes := by
  refine ⟨fits.handle,fun j pid p here mine => ?_,fun pid p here => ?_,fun j pid root => ?_,
    fun j report mem empty => ?_⟩
  · rcases append_some here with before|⟨rfl,rfl⟩
    · exact fits.allows j pid p before mine
    · exact allows j mine
  · rcases append_some here with before|⟨rfl,rfl⟩
    · exact fits.own pid p before
    · exact own
  · obtain ⟨p,before,mine⟩ := fits.rooted j pid root
    refine ⟨p,?_,mine⟩
    rw [List.getElem?_append_left (List.getElem?_eq_some_iff.mp before).1]
    exact before
  · obtain ⟨mode,gone⟩ := fits.reported j report mem empty
    refine ⟨mode,fun pid p here mine => ?_⟩
    rcases append_some here with before|⟨rfl,rfl⟩
    · exact gone pid p before mine
    · rcases mode with drained|closed
      · exact absurd drained (silent j mine).1
      · exact absurd closed (silent j mine).2

/-- What happens outside all owners. -/
theorem disturb (fits : Fits world modes) (happening : OsChange) :
    Fits (world.disturb happening) modes := by
  cases happening with
  | exit pid => exact fits.fade OsProcess.fades_exit
  | terminate pid => exact fits.fade OsProcess.fades_terminated
  | foreign =>
    refine fits.grow (fun j mine => ?_) (.inl rfl) fun j mine => ?_
    · cases mine
    · cases mine
  | fork parent =>
    show Fits (world.fork parent) modes
    rcases world.fork_cases parent with same|⟨p,there,runs,grown⟩
    · rw [same]
      exact fits
    · have live (j : Nat) (mine : p.tree=some j) : modes j=.live ∧ p.job=p.tree := by
        have allows := fits.allows j parent p there mine
        cases mode : modes j with
        | live => exact ⟨rfl,by rw [mode] at allows; exact allows⟩
        | _ => simp [mode,TreeMode.Allows,runs] at allows
      rw [grown]
      refine fits.grow (fun j mine => ?_) (fits.own parent p there) fun j mine => ?_
      · rw [(live j mine).1]
        exact (live j mine).2
      · rw [(live j mine).1]
        exact ⟨by decide,by decide⟩

/-- The other owners' jobs are as before. -/
theorem handles (fits : Fits world modes) {m : TreeMode} {job : Nat → JobHandle}
    (handle : job i=m.handle) (others : ∀j,j≠i → job j=world.job j) :
    ∀j,job j=(Function.update modes i m j).handle := by
  apply (Function.forall_update_iff modes fun j m => job j=m.handle).mpr
  exact ⟨handle,fun j other => (others j other).trans (fits.handle j)⟩

/-- An owner gets further, and no process is changed. -/
theorem remode (fits : Fits world modes) {m : TreeMode} {job : Nat → JobHandle}
    (handle : job i=m.handle) (others : ∀j,j≠i → job j=world.job j)
    (allows : ∀(pid : Nat) (p : OsProcess),world.processes[pid]?=some p → p.tree=some i →
      m.Allows (world.root i) pid p)
    (reported : modes i=.drained ∨ modes i=.closed → m=.drained ∨ m=.closed) :
    Fits { world with job } (Function.update modes i m) := by
  refine ⟨fits.handles handle others,fun j pid p here mine => ?_,fits.own,fits.rooted,
    fun j report mem empty => ?_⟩
  · by_cases same : j=i
    · subst same
      rw [Function.update_self]
      exact allows pid p here mine
    · rw [Function.update_of_ne same]
      exact fits.allows j pid p here mine
  · obtain ⟨mode,gone⟩ := fits.reported j report mem empty
    refine ⟨?_,gone⟩
    by_cases same : j=i
    · subst same
      rw [Function.update_self]
      exact reported mode
    · rwa [Function.update_of_ne same]

/-- An owner gets further by changing processes of its own tree. -/
theorem rework (fits : Fits world modes) {m : TreeMode} {which : Nat → OsProcess → Bool}
    {f : OsProcess → OsProcess} (handle : world.job i=m.handle)
    (only : ∀(pid : Nat) (p : OsProcess),world.processes[pid]?=some p → which pid p=true →
      p.tree=some i ∧ (f p).tree=p.tree ∧ ((f p).job=none ∨ (f p).job=p.tree))
    (allows : ∀(pid : Nat) (p : OsProcess),world.processes[pid]?=some p → p.tree=some i →
      m.Allows (world.root i) pid (if which pid p then f p else p))
    (unreported : modes i≠.drained ∧ modes i≠.closed) :
    Fits (world.change which f) (Function.update modes i m) := by
  have tree {pid : Nat} {p : OsProcess} (here : world.processes[pid]?=some p) :
      (if which pid p then f p else p).tree=p.tree := by
    split_ifs with hit
    · exact (only pid p here hit).2.1
    · rfl
  have foreign {j pid : Nat} {p : OsProcess} (other : j≠i)
      (here : world.processes[pid]?=some p) (mine : p.tree=some j) :
      (if which pid p then f p else p)=p := by
    split_ifs with hit
    · have both := (only pid p here hit).1
      rw [mine] at both
      exact absurd (Option.some.inj both) other
    · rfl
  refine ⟨fits.handles handle fun j _ => rfl,fun j pid p' here mine => ?_,fun pid p' here => ?_,
    fun j pid root => ?_,fun j report mem empty => ?_⟩
  · obtain ⟨p,before,rfl⟩ := change_some here
    rw [tree before] at mine
    by_cases same : j=i
    · subst same
      rw [Function.update_self]
      exact allows pid p before mine
    · rw [Function.update_of_ne same,foreign same before mine]
      exact fits.allows j pid p before mine
  · obtain ⟨p,before,rfl⟩ := change_some here
    rw [tree before]
    split_ifs with hit
    · exact (only pid p before hit).2.2
    · exact fits.own pid p before
  · obtain ⟨p,before,mine⟩ := fits.rooted j pid root
    refine ⟨_,by rw [change_processes,before]; rfl,?_⟩
    exact (tree before).trans mine
  · obtain ⟨mode,gone⟩ := fits.reported j report mem empty
    have other : j≠i := by
      intro same
      rcases mode with drained|closed
      · exact unreported.1 (same ▸ drained)
      · exact unreported.2 (same ▸ closed)
    rw [Function.update_of_ne other]
    refine ⟨mode,fun pid p' here mine => ?_⟩
    obtain ⟨p,before,rfl⟩ := change_some here
    rw [tree before] at mine
    rw [foreign other before mine]
    exact gone pid p before mine

/-- Nothing changes. -/
theorem idle (fits : Fits world modes) : Fits world (Function.update modes i (modes i)) := by
  rw [Function.update_eq_self]
  exact fits

/-- The members of a job belong to its owner's tree. -/
theorem owned (fits : Fits world modes) {pid : Nat} {p : OsProcess}
    (here : world.processes[pid]?=some p) (member : p.job=some i) : p.tree=some i := by
  rcases fits.own pid p here with free|own
  · rw [free] at member
    cases member
  · exact own.symm.trans member

end Fits

theorem attempt_cases (world : ProcessWorld) {ε α : Type} (failure : Option ε) (a : α)
    (after : ProcessWorld) :
    (failure=none ∧ world.attempt failure a after=(.ok a,after)) ∨
      ∃e,world.attempt failure a after=(.error e,world) := by
  unfold attempt
  cases failure with
  | none => exact .inl ⟨rfl,rfl⟩
  | some e => exact .inr ⟨e,rfl⟩

/-- A job without members that are not gone. -/
theorem members_nil {world : ProcessWorld} {i : Nat} (none : (world.members i).length=0) {pid : Nat}
    {p : OsProcess} (here : world.processes[pid]?=some p) (member : p.job=some i) :
    p.phase=.exited := by
  by_contra alive
  have inside : (p,pid)∈world.processes.zipIdx := List.mk_mem_zipIdx_iff_getElem?.mpr here
  have listed : pid∈world.members i := by
    apply List.mem_map.mpr
    refine ⟨(p,pid),List.mem_filter.mpr ⟨inside,?_⟩,rfl⟩
    simp [isMember,member,alive]
  rw [List.length_eq_zero_iff.mp none] at listed
  cases listed

section Requests

variable {world : ProcessWorld} {modes : Nat → TreeMode} {i : Nat}

/-- What a request does to the world and to the mode of its owner. -/
def Upheld (world : ProcessWorld) (modes : Nat → TreeMode) (i : Nat) (choice : TreeChoice)
    (request : TreeRequest) : Prop :=
  Fits (world.respond i choice request).2
    (Function.update modes i ((modes i).after request (world.respond i choice request).1))

namespace Fits

theorem handle_of {m : TreeMode} (fits : Fits world modes) (mode : modes i=m) :
    world.job i=m.handle := mode ▸ fits.handle i

/-- The job of a tree that has no process yet is created, or gets its limit. -/
theorem makes (fits : Fits world modes) {limit : Bool}
    (mode : modes i=.outside ∨ modes i=.made false) :
    Fits { world with job := Function.update world.job i (.opened limit) }
      (Function.update modes i (.made limit)) := by
  apply fits.remode
  · exact Function.update_self i _ world.job
  · exact fun j other => Function.update_of_ne other _ _
  · intro pid p here mine
    have allows := fits.allows i pid p here mine
    rcases mode with outside|made
    · rwa [outside] at allows
    · rwa [made] at allows
  · rcases mode with mode|mode
    all_goals
      rw [mode]
      exact fun reported => by rcases reported with other|other <;> cases other

theorem createJob (fits : Fits world modes) (choice : TreeChoice) (mode : modes i=.outside) :
    Upheld world modes i choice .createJob := by
  rcases world.attempt_cases choice.failure ()
    { world with job := Function.update world.job i (.opened false) } with ⟨-,made⟩|⟨e,failed⟩
  · rw [Upheld,ProcessWorld.respond,made]
    exact fits.makes (.inl mode)
  · rw [Upheld,ProcessWorld.respond,failed]
    exact fits.idle

theorem configureJob (fits : Fits world modes) (choice : TreeChoice) (mode : modes i=.made false) :
    Upheld world modes i choice .configureJob := by
  rcases world.attempt_cases choice.failure ()
    { world with job := Function.update world.job i (.opened true) } with ⟨-,made⟩|⟨e,failed⟩
  · rw [Upheld,ProcessWorld.respond,made]
    exact fits.makes (.inr mode)
  · rw [Upheld,ProcessWorld.respond,failed]
    exact fits.idle

/-- The root is created outside the job, and suspended. -/
theorem createProcess (fits : Fits world modes) (choice : TreeChoice) (mode : modes i=.made true) :
    Upheld world modes i choice .createProcess := by
  rcases world.attempt_cases choice.failure world.processes.length (world.createProcess i) with
    ⟨-,made⟩|⟨e,failed⟩
  · rw [Upheld,ProcessWorld.respond,made]
    show Fits (world.createProcess i) (Function.update modes i .created)
    have nothing (pid : Nat) (p : OsProcess) (here : world.processes[pid]?=some p) :
        p.tree≠some i := by
      intro mine
      have allows := fits.allows i pid p here mine
      rw [mode] at allows
      exact allows
    have kept (pid : Nat) (p : OsProcess) (here : world.processes[pid]?=some p) :
        (world.createProcess i).processes[pid]?=some p := by
      show (world.processes++[_])[pid]?=some p
      rw [List.getElem?_append_left (List.getElem?_eq_some_iff.mp here).1]
      exact here
    have opened : world.job i=TreeMode.created.handle := (fits.handle_of mode).trans rfl
    refine ⟨fits.handles opened fun j _ => rfl,fun j pid p here mine => ?_,fun pid p here => ?_,
      fun j pid root => ?_,fun j report mem empty => ?_⟩
    · by_cases same : j=i
      · subst same
        rcases append_some here with before|⟨rfl,rfl⟩
        · exact absurd mine (nothing pid p before)
        · rw [Function.update_self]
          refine ⟨?_,rfl,fun runs => by cases runs⟩
          exact Function.update_self j _ world.root
      · have root : (world.createProcess i).root j=world.root j := Function.update_of_ne same _ _
        rw [Function.update_of_ne same,root]
        rcases append_some here with before|⟨rfl,rfl⟩
        · exact fits.allows j pid p before mine
        · exact absurd (Option.some.inj mine).symm same
    · rcases append_some here with before|⟨rfl,rfl⟩
      · exact fits.own pid p before
      · exact .inl rfl
    · by_cases same : j=i
      · subst same
        have last : world.processes.length=pid :=
          Option.some.inj ((Function.update_self j _ world.root).symm.trans root)
        subst last
        refine ⟨⟨some j,none,.suspended⟩,?_,rfl⟩
        show (world.processes++[_])[world.processes.length]?=_
        rw [List.getElem?_append_right (Nat.le_refl _),Nat.sub_self]
        rfl
      · obtain ⟨p,before,mine⟩ := fits.rooted j pid
          ((Function.update_of_ne same _ world.root).symm.trans root)
        exact ⟨p,kept pid p before,mine⟩
    · obtain ⟨past,gone⟩ := fits.reported j report mem empty
      have other : j≠i := by
        intro same
        rw [same,mode] at past
        rcases past with no|no <;> cases no
      rw [Function.update_of_ne other]
      refine ⟨past,fun pid p here mine => ?_⟩
      rcases append_some here with before|⟨rfl,rfl⟩
      · exact gone pid p before mine
      · exact absurd (Option.some.inj mine).symm other
  · rw [Upheld,ProcessWorld.respond,failed]
    exact fits.idle

/-- The root belongs to the tree. -/
theorem tree_of_root (fits : Fits world modes) {pid : Nat} {p : OsProcess}
    (here : world.processes[pid]?=some p) (root : world.isRoot i pid=true) : p.tree=some i := by
  obtain ⟨p',there,mine⟩ := fits.rooted i pid (by simpa [isRoot] using root)
  rw [here] at there
  cases there
  exact mine

/-- Once the root is in the job, so is the whole tree. -/
theorem assignProcess (fits : Fits world modes) (choice : TreeChoice) (mode : modes i=.created) :
    Upheld world modes i choice .assignProcess := by
  rcases world.attempt_cases
    (if world.rootExited i then some "access denied" else choice.failure) ()
    (world.assignProcess i) with ⟨works,made⟩|⟨e,failed⟩
  · rw [Upheld,ProcessWorld.respond,made]
    have alive : world.rootExited i=false := by
      by_contra exited
      rw [if_pos (by simpa using exited)] at works
      cases works
    apply fits.rework
    · exact (fits.handle_of mode).trans rfl
    · intro pid p here hit
      simp only [Bool.and_eq_true,decide_eq_true_eq] at hit
      have mine := fits.tree_of_root here hit.1
      exact ⟨mine,rfl,.inr mine.symm⟩
    · intro pid p here mine
      have allows := fits.allows i pid p here mine
      rw [mode] at allows
      have root : world.root i=some pid := allows.1
      have lives : p.phase≠.exited := by
        intro gone
        simp [rootExited,root,here,gone] at alive
      simp only [isRoot,root,lives,ne_eq,not_false_eq_true,decide_true,Bool.and_self,if_true]
      exact mine.symm
    · rw [mode]
      exact ⟨by decide,by decide⟩
  · rw [Upheld,ProcessWorld.respond,failed]
    exact fits.idle

theorem resumePrimaryThread (fits : Fits world modes) (choice : TreeChoice)
    (mode : modes i=.live) : Upheld world modes i choice .resumePrimaryThread := by
  rcases world.attempt_cases choice.treeFailure ()
    (if choice.resumes then world.resumeRoot i else world) with ⟨-,made⟩|⟨e,failed⟩
  · rw [Upheld,ProcessWorld.respond,made]
    show Fits (if choice.resumes then world.resumeRoot i else world)
      (Function.update modes i (modes i))
    split_ifs
    · apply fits.rework
      · exact fits.handle i
      · intro pid p here hit
        simp only [Bool.and_eq_true] at hit
        exact ⟨fits.tree_of_root here hit.1,rfl,fits.own pid p here⟩
      · intro pid p here mine
        have allows := fits.allows i pid p here mine
        rw [mode] at allows ⊢
        split_ifs
        · exact allows
        · exact allows
      · rw [mode]
        exact ⟨by decide,by decide⟩
    · exact fits.idle
  · rw [Upheld,ProcessWorld.respond,failed]
    exact fits.idle

/-- The owner terminates its root; one that was never in the job is refused. -/
theorem terminateRoot (fits : Fits world modes) (choice : TreeChoice)
    (mode : modes i=.created ∨ modes i=.live) : Upheld world modes i choice .terminateRoot := by
  have faded : Fits (world.terminateRoot i) modes := fits.fade OsProcess.fades_terminated
  rcases mode with created|live
  · show Fits (world.terminateRoot i) (Function.update modes i (if modes i=.created then .refused
      else modes i))
    rw [if_pos created]
    apply faded.remode
    · exact (fits.handle_of created).trans rfl
    · exact fun j _ => rfl
    · intro pid p' here mine
      obtain ⟨p,before,rfl⟩ := change_some here
      split_ifs with hit
      · exact p.terminated_phase
      · rw [if_neg hit] at mine
        have allows := fits.allows i pid p before mine
        rw [created] at allows
        exact absurd (by simpa [isRoot] using allows.1) hit
    · rw [created]
      exact fun reported => by rcases reported with other|other <;> cases other
  · show Fits (world.terminateRoot i) (Function.update modes i (if modes i=.created then .refused
      else modes i))
    rw [live,if_neg (by decide),← live]
    exact faded.idle

/-- A job that is seen to be empty has no process of the tree that is not gone. -/
theorem queryJob (fits : Fits world modes) (choice : TreeChoice) (capacity : Nat)
    (mode : modes i=.live ∨ modes i=.drained) :
    Upheld world modes i choice (.queryJob capacity) := by
  rcases world.attempt_cases choice.failure
    (⟨(world.members i).length,(world.members i).take capacity⟩ : JobProcessIds) world with
    ⟨-,made⟩|⟨e,failed⟩
  · rw [Upheld,ProcessWorld.respond,made]
    show Fits world (Function.update modes i (if (world.members i).length=0 then .drained
      else modes i))
    split_ifs with empty
    · apply fits.remode
      · rcases mode with live|drained
        · exact (fits.handle_of live).trans rfl
        · exact fits.handle_of drained
      · exact fun j _ => rfl
      · intro pid p here mine
        have allows := fits.allows i pid p here mine
        have member : p.job=p.tree := by
          rcases mode with live|drained
          · rw [live] at allows
            exact allows
          · rw [drained] at allows
            exact allows.1
        exact ⟨member,members_nil empty here (member.trans mine)⟩
      · exact fun _ => .inl rfl
    · exact fits.idle
  · rw [Upheld,ProcessWorld.respond,failed]
    exact fits.idle

theorem terminateJob (fits : Fits world modes) (choice : TreeChoice) :
    Upheld world modes i choice .terminateJob := by
  rcases world.attempt_cases choice.failure () (world.terminateMembers i) with
    ⟨-,made⟩|⟨e,failed⟩
  · rw [Upheld,ProcessWorld.respond,made]
    have faded : Fits (world.terminateMembers i) modes := fits.fade OsProcess.fades_terminated
    exact faded.idle
  · rw [Upheld,ProcessWorld.respond,failed]
    exact fits.idle

/-- The job handle is closed, and whatever is in the job is terminated. -/
theorem shut (fits : Fits world modes) {m : TreeMode} {limit : Bool}
    (opened : (modes i).handle=.opened limit) (closed : m.handle=.closed)
    (allows : ∀(pid : Nat) (p : OsProcess),(modes i).Allows (world.root i) pid p →
      p.tree=some i → (p.job=some i → p.phase=.dying ∨ p.phase=.exited) →
      m.Allows (world.root i) pid p)
    (reported : modes i=.drained ∨ modes i=.closed → m=.drained ∨ m=.closed) :
    Fits (world.closeJob i) (Function.update modes i m) := by
  have job : world.job i=.opened limit := (fits.handle i).trans opened
  have handle : Function.update world.job i .closed i=m.handle :=
    (Function.update_self i _ world.job).trans closed.symm
  have others (j : Nat) (other : j≠i) : Function.update world.job i .closed j=world.job j :=
    Function.update_of_ne other _ _
  unfold ProcessWorld.closeJob
  rw [job]
  cases limit with
  | false =>
    refine fits.remode handle others (fun pid p here mine => ?_) reported
    have none := fits.allows i pid p here mine
    cases mode : modes i with
    | made limit =>
      rw [mode] at none
      exact absurd none id
    | _ => simp [mode,TreeMode.handle] at opened
  | true =>
    have faded : Fits (world.terminateMembers i) modes := fits.fade OsProcess.fades_terminated
    refine faded.remode handle others (fun pid p' here mine => ?_) reported
    refine allows pid p' (faded.allows i pid p' here mine) mine fun member => ?_
    obtain ⟨p,before,rfl⟩ := change_some here
    split_ifs with hit
    · exact p.terminated_phase
    · rw [if_neg hit] at member
      exact absurd (by simpa using member) hit

/-- No process of the tree is left after the job of an owner that does not have its root outside. -/
theorem closes (fits : Fits world modes)
    (mode : (∃limit,modes i=.made limit) ∨ modes i=.refused ∨ modes i=.live ∨ modes i=.drained) :
    Fits (world.closeJob i) (Function.update modes i .closed) := by
  rcases mode with ⟨limit,made⟩|refused|live|drained
  · refine @shut _ _ _ fits .closed limit (by rw [made]; rfl) rfl (fun pid p none mine _ => ?_)
      fun _ => .inr rfl
    rw [made] at none
    exact absurd none id
  · refine @shut _ _ _ fits .closed true (by rw [refused]; rfl) rfl (fun pid p past mine _ => ?_)
      fun _ => .inr rfl
    rw [refused] at past
    exact past
  · refine @shut _ _ _ fits .closed true (by rw [live]; rfl) rfl (fun pid p member mine ends => ?_)
      fun _ => .inr rfl
    rw [live] at member
    exact ends (Eq.trans member mine)
  · refine @shut _ _ _ fits .closed true (by rw [drained]; rfl) rfl (fun pid p gone mine _ => ?_)
      fun _ => .inr rfl
    rw [drained] at gone
    exact .inr gone.2

/-- The death of an owner. -/
theorem dies (fits : Fits world modes) :
    Fits (world.closeJob i) (Function.update modes i (modes i).dead) := by
  have same (handle : world.job i=.absent ∨ world.job i=.closed) : world.closeJob i=world := by
    unfold ProcessWorld.closeJob
    rcases handle with absent|closed
    · rw [absent]
    · rw [closed]
  have still (handle : world.job i=.absent ∨ world.job i=.closed) (lasts : (modes i).dead=modes i) :
      Fits (world.closeJob i) (Function.update modes i (modes i).dead) := by
    rw [same handle,lasts]
    exact fits.idle
  cases mode : modes i with
  | outside => exact mode ▸ still (.inl (fits.handle_of mode)) (by rw [mode]; rfl)
  | closed => exact mode ▸ still (.inr (fits.handle_of mode)) (by rw [mode]; rfl)
  | orphaned => exact mode ▸ still (.inr (fits.handle_of mode)) (by rw [mode]; rfl)
  | made limit => exact fits.closes (.inl ⟨limit,mode⟩)
  | refused => exact fits.closes (.inr (.inl mode))
  | live => exact fits.closes (.inr (.inr (.inl mode)))
  | drained => exact fits.closes (.inr (.inr (.inr mode)))
  | created =>
    refine @shut _ _ _ fits .orphaned true (by rw [mode]; rfl) rfl
      (fun pid p outside mine _ => ?_) ?_
    · rw [mode] at outside
      obtain ⟨-,free,still⟩ := outside
      cases phase : p.phase with
      | suspended => exact .inr (.inr ⟨phase,free⟩)
      | running => exact absurd phase still
      | dying => exact .inl phase
      | exited => exact .inr (.inl phase)
    · rw [mode]
      exact fun reported => by rcases reported with other|other <;> cases other

/-- A tree is reported to be empty only when it is. -/
theorem report (fits : Fits world modes) (choice : TreeChoice) {report : TreeStopReport}
    (may : report.ownedPidsAfter=[] → modes i=.drained) :
    Upheld world modes i choice (.report report) := by
  show Fits { world with reports := (i,report)::world.reports } (Function.update modes i (modes i))
  rw [Function.update_eq_self]
  refine ⟨fits.handle,fits.allows,fits.own,fits.rooted,fun j report' mem empty => ?_⟩
  rcases List.mem_cons.mp mem with new|before
  · cases new
    refine ⟨.inl (may empty),fun pid p here mine => ?_⟩
    have allows := fits.allows i pid p here mine
    rw [may empty] at allows
    exact allows.2
  · exact fits.reported j report' before empty

/-- Every request of an owner that keeps to the discipline, whatever Windows makes of it. -/
theorem respond (fits : Fits world modes) (choice : TreeChoice) (request : TreeRequest)
    (may : (modes i).permits request) : Upheld world modes i choice request := by
  have same {α ε : Type} (failure : Option ε) (a : α) :
      Fits (world.attempt failure a world).2 (Function.update modes i (modes i)) := by
    rcases world.attempt_cases failure a world with ⟨-,given⟩|⟨e,given⟩
    · rw [given]
      exact fits.idle
    · rw [given]
      exact fits.idle
  cases request with
  | createJob => exact fits.createJob choice may
  | configureJob => exact fits.configureJob choice may
  | openLog path => exact same choice.failure ()
  | preparePipes => exact same choice.failure ()
  | createProcess => exact fits.createProcess choice may
  | assignProcess => exact fits.assignProcess choice may
  | startLogThread path => exact same choice.treeFailure ()
  | resumePrimaryThread => exact fits.resumePrimaryThread choice may
  | terminateRoot => exact fits.terminateRoot choice may
  | waitRoot => exact same choice.failure ()
  | tryWait => exact same choice.failure ()
  | queryJob capacity => exact fits.queryJob choice capacity may
  | ctrlBreak => exact same choice.failure ()
  | terminateJob => exact fits.terminateJob choice
  | sleep => exact fits.idle
  | finishLogThreads => exact same choice.treeFailure ()
  | closeJob => exact fits.closes may
  | report report => exact fits.report choice may

end Fits

end Requests

end ProcessWorld

end AkuSupervisor
