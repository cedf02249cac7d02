import AkuSupervisor.Platform.TreeContainment

namespace AkuSupervisor

open Program Interleaving

namespace TreeMode

/-- The tree has been launched, and its job is open. -/
def Held (m : TreeMode) : Prop := m=.live ∨ m=.drained

/-- The job may be closed. -/
def Closable (m : TreeMode) : Prop :=
  (∃limit,m=.made limit) ∨ m=.refused ∨ m=.live ∨ m=.drained

/-- Nothing of the tree is left, or there never was anything. -/
def Ended (m : TreeMode) : Prop := m=.outside ∨ m=.closed

end TreeMode

namespace TreeOwner

open Attempt (settle)
open TreeRequest (ask)
open TreeMode (Held Closable Ended)

variable {m : TreeMode}

/-- What the owner is told of the processes: that there are none only when there are none. -/
theorem tries_queryJobPids (fuel capacity : Nat) (held : Held m) :
    Tries treeDiscipline (queryJobPids fuel capacity) m
      (fun pids m' => Held m' ∧ (pids=[] → m'=.drained)) fun _ m' => Held m' := by
  induction fuel generalizing capacity m with
  | zero => exact held
  | succ fuel ih =>
    have after (x : TreeRequest.Answer (.queryJob capacity)) :
        Held (treeDiscipline.after m (.queryJob capacity) x) := by
      cases x with
      | error e => exact held
      | ok info =>
        show Held (if info.assigned=0 then .drained else m)
        split_ifs
        · exact .inr rfl
        · exact held
    refine tries_call_bind held (fun x info answered => ?_) fun x e _ => after x
    have seen := after x
    have drains : info.assigned=0 → treeDiscipline.after m (.queryJob capacity) x=.drained := by
      intro none
      rw [show x=.ok info from answered]
      exact if_pos none
    by_cases many : info.listed.length > capacity ∨ info.assigned > maxOwnedProcesses
    · rw [if_pos many]
      exact seen
    rw [if_neg many]
    by_cases cut : info.listed.length < info.assigned
    · rw [if_pos cut]
      cases expandedJobPidCapacity capacity info.assigned with
      | none => exact seen
      | some capacity => exact ih capacity seen
    · rw [if_neg cut]
      refine ⟨seen,fun empty => drains ?_⟩
      rw [empty,List.length_nil] at cut
      omega

theorem tries_ownedPids (held : Held m) :
    Tries treeDiscipline ownedPids m (fun pids m' => Held m' ∧ (pids=[] → m'=.drained))
      fun _ m' => Held m' :=
  tries_queryJobPids _ _ held

theorem tries_waitUntilEmpty (polls : Nat) (held : Held m) :
    Tries treeDiscipline (waitUntilEmpty polls) m (fun _ m' => Held m') fun _ m' => Held m' := by
  induction polls generalizing m with
  | zero =>
    apply (tries_bind _ _).mpr
    exact (tries_ownedPids held).mono (fun _ _ seen => seen.1) fun _ _ => id
  | succ polls ih =>
    apply (tries_bind _ _).mpr
    refine (tries_ownedPids held).mono (fun pids m' seen => ?_) fun _ _ => id
    by_cases empty : pids.isEmpty
    · rw [if_pos empty]
      exact seen.1
    · rw [if_neg empty]
      apply (tries_bind _ _).mpr
      exact (tries_ask _).mpr ⟨trivial,fun _ => ih seen.1⟩

theorem tries_force (grace confirmation : Nat) (held : Held m) :
    Tries treeDiscipline (force grace confirmation) m (fun _ m' => Held m')
      fun _ m' => Held m' := by
  apply (tries_bind _ _).mpr
  refine (tries_waitUntilEmpty grace held).mono (fun empty m' held' => ?_) fun _ _ => id
  cases empty with
  | true => exact held'
  | false =>
    refine tries_call_bind held' (fun x done answered => ?_) fun x e failed => ?_
    · apply (tries_bind _ _).mpr
      have stays : treeDiscipline.after m' .terminateJob x=m' := rfl
      rw [stays]
      exact (tries_waitUntilEmpty confirmation held').mono (fun _ _ => id) fun _ _ => id
    · exact held'

theorem tries_settled (pids : List Nat) :
    Tries treeDiscipline (settled pids) m (fun _ m' => m'=m) fun _ m' => m'=m := by
  unfold settled
  by_cases empty : pids.isEmpty
  · rw [if_pos empty]
    refine tries_call_bind trivial (fun x done _ => ?_) fun x e _ => rfl
    exact tries_call _ _ _ trivial (fun _ _ _ => rfl) fun _ _ _ => rfl
  · rw [if_neg empty]
    exact rfl

/-- A stop reports that nothing is left only when nothing is. -/
theorem tries_stop (grace confirmation : Nat) (held : Held m) :
    Tries treeDiscipline (stop grace confirmation) m
      (fun report m' => Held m' ∧ (report.ownedPidsAfter=[] → m'=.drained))
      fun _ m' => Held m' := by
  apply (tries_bind _ _).mpr
  refine (tries_ownedPids held).mono (fun before m₁ seen => ?_) fun _ _ => id
  by_cases empty : before.isEmpty
  · rw [if_pos empty]
    exact ⟨seen.1,fun _ => seen.2 (List.isEmpty_iff.mp empty)⟩
  rw [if_neg empty]
  apply (tries_bind _ _).mpr
  refine (tries_ask _).mpr ⟨trivial,fun signal => ?_⟩
  apply (tries_bind _ _).mpr
  refine (tries_force grace confirmation seen.1).mono (fun forced m₂ held₂ => ?_) fun _ _ => id
  apply (tries_bind _ _).mpr
  refine (tries_ownedPids held₂).mono (fun pids m₃ seen₃ => ?_) fun _ _ => id
  apply (tries_bind _ _).mpr
  refine (tries_settled pids).mono (fun _ m₄ same => ?_) fun _ m₄ same => ?_
  · rw [same]
    exact seen₃
  · rw [same]
    exact seen₃.1

theorem tries_stops (launches : List (Nat × Nat)) (held : Held m) :
    Tries treeDiscipline (stops launches) m (fun _ m' => Held m') fun _ _ => False := by
  induction launches generalizing m with
  | nil => exact held
  | cons first more ih =>
    obtain ⟨grace,confirmation⟩ := first
    refine tries_caught (tries_stop grace confirmation held) (fun report m' seen => ?_)
      fun e m' held' => ?_
    · apply (tries_bind _ _).mpr
      exact (tries_ask _).mpr ⟨seen.2,fun _ => ih seen.1⟩
    · exact ih held'

theorem tries_terminateLeft (found : Except ProcessTreeError (List Nat)) (held : Held m) :
    Tries treeDiscipline (terminateLeft found) m (fun _ m' => m'=m) fun _ _ => False := by
  unfold terminateLeft
  split_ifs
  · apply (tries_bind _ _).mpr
    refine (tries_ask _).mpr ⟨held,fun _ => ?_⟩
    apply (tries_bind _ _).mpr
    exact (tries_ask _).mpr ⟨trivial,fun _ => rfl⟩
  · exact rfl

/-- The drop of a tree ends with its job closed. -/
theorem tries_drop (held : Held m) :
    Tries treeDiscipline drop m (fun _ m' => m'=.closed) fun _ _ => False := by
  refine (tries_bind _ _).mpr ((tries_lift _).mpr ?_)
  refine Follows.mono (tries_ownedPids held) fun found m' seen => ?_
  have held' : Held m' := by
    cases found with
    | ok pids => exact seen.1
    | error e => exact seen
  apply (tries_bind _ _).mpr
  refine (tries_terminateLeft found held').mono (fun _ m₁ same => ?_) fun _ _ => id
  subst same
  apply (tries_bind _ _).mpr
  refine (tries_ask _).mpr ⟨trivial,fun _ => ?_⟩
  exact (tries_ask _).mpr ⟨.inr (.inr held'),fun _ => rfl⟩

/-- The job handle is dropped where a launch fails. -/
theorem tries_closing {α : Type} {x : TreeM α} {ok : α → TreeMode → Prop}
    (inner : Tries treeDiscipline x m ok fun _ m' => Closable m') :
    Tries treeDiscipline (closing x) m ok fun _ m' => m'=.closed := by
  refine tries_caught inner (fun a m' holds => holds) fun e m' closable => ?_
  apply (tries_bind _ _).mpr
  exact (tries_ask _).mpr ⟨closable,fun _ => rfl⟩

theorem tries_createKillOnCloseJob :
    Tries treeDiscipline createKillOnCloseJob .outside (fun _ m' => m'=.made true)
      fun _ m' => Ended m' := by
  refine tries_call_bind rfl (fun x done made => ?_) fun x e failed => ?_
  · rw [show x=.ok done from made]
    have limits : Tries treeDiscipline
        (do settle .configureJob (← ask TreeRequest.configureJob) : TreeM Unit) (.made false)
        (fun _ m' => m'=.made true) fun _ m' => Closable m' := by
      refine tries_call TreeRequest.configureJob _ _ rfl (fun x done limited => ?_)
        fun x e failed => ?_
      · rw [show x=.ok done from limited]
        exact rfl
      · rw [show x=.error e from failed]
        exact .inl ⟨false,rfl⟩
    exact (tries_closing limits).mono (fun _ _ => id) fun _ _ => .inr
  · rw [show x=.error e from failed]
    exact .inl rfl

theorem tries_openLogs (logs : List String) :
    Tries treeDiscipline (openLogs logs) m (fun _ m' => m'=m) fun _ m' => m'=m := by
  induction logs with
  | nil => exact rfl
  | cons path logs ih => exact tries_call_bind trivial (fun _ _ _ => ih) fun _ _ _ => rfl

theorem tries_startLogThreads (logs : List String) :
    Tries treeDiscipline (startLogThreads logs) m (fun _ m' => m'=m) fun _ m' => m'=m := by
  induction logs with
  | nil => exact rfl
  | cons path logs ih => exact tries_call_bind trivial (fun _ _ _ => ih) fun _ _ _ => rfl

theorem tries_preparePipes (native : Bool) :
    Tries treeDiscipline (preparePipes native) m (fun _ m' => m'=m) fun _ m' => m'=m := by
  unfold preparePipes
  split_ifs
  · exact tries_call _ _ _ trivial (fun _ _ _ => rfl) fun _ _ _ => rfl
  · exact rfl

/-- A root that is terminated leaves a job that may be closed. -/
theorem tries_terminateSuspended (error : ProcessTreeError) (mode : m=.created ∨ m=.live)
    {ok : Unit → TreeMode → Prop} :
    Tries treeDiscipline (terminateSuspended error) m ok fun _ m' => Closable m' := by
  apply (tries_bind _ _).mpr
  refine (tries_ask _).mpr ⟨mode,fun _ => ?_⟩
  apply (tries_bind _ _).mpr
  refine (tries_ask _).mpr ⟨trivial,fun _ => ?_⟩
  rcases mode with rfl|rfl
  · exact .inr (.inl rfl)
  · exact .inr (.inr (.inl rfl))

theorem tries_assignJob :
    Tries treeDiscipline assignJob .created (fun _ m' => m'=.live) fun _ m' => Closable m' := by
  apply (tries_bind _ _).mpr
  refine (tries_ask _).mpr ⟨rfl,fun assigned => ?_⟩
  cases assigned with
  | ok done => exact rfl
  | error e => exact tries_terminateSuspended _ (.inl rfl)

theorem tries_captureLogs (logs : List String) :
    Tries treeDiscipline (captureLogs logs) .live (fun _ m' => m'=.live)
      fun _ m' => Closable m' := by
  refine tries_caught (tries_startLogThreads logs) (fun done m' same => same) fun e m' same => ?_
  exact tries_terminateSuspended e (.inr same)

theorem tries_resume :
    Tries treeDiscipline resume .live (fun _ m' => m'=.live) fun _ m' => Closable m' := by
  apply (tries_bind _ _).mpr
  refine (tries_ask _).mpr ⟨rfl,fun resumed => ?_⟩
  cases resumed with
  | ok done => exact rfl
  | error e =>
    apply (tries_bind _ _).mpr
    refine (tries_ask _).mpr ⟨.inr rfl,fun _ => ?_⟩
    apply (tries_bind _ _).mpr
    refine (tries_ask _).mpr ⟨trivial,fun _ => ?_⟩
    apply (tries_bind _ _).mpr
    exact (tries_ask _).mpr ⟨trivial,fun _ => .inr (.inr (.inl rfl))⟩

/-- A launch gives a tree in its job, or leaves nothing. -/
theorem tries_spawnTree (native : Bool) (logs : List String) :
    Tries treeDiscipline (spawnTree native logs) .outside (fun _ m' => m'=.live)
      fun _ m' => Ended m' := by
  apply (tries_bind _ _).mpr
  refine tries_createKillOnCloseJob.mono (fun _ m' made => ?_) fun _ _ => id
  subst made
  refine (tries_closing ?_).mono (fun _ _ => id) fun _ _ => .inr
  apply (tries_bind _ _).mpr
  refine (tries_openLogs logs).mono (fun _ m' same => ?_) fun _ m' same => .inl ⟨true,same⟩
  subst same
  apply (tries_bind _ _).mpr
  refine (tries_preparePipes native).mono (fun _ m' same => ?_) fun _ m' same => .inl ⟨true,same⟩
  subst same
  refine tries_call_bind rfl (fun x pid created => ?_) fun x e failed => ?_
  · rw [show x=.ok pid from created]
    apply (tries_bind _ _).mpr
    refine tries_assignJob.mono (fun _ m' live => ?_) fun _ _ => id
    subst live
    apply (tries_bind _ _).mpr
    refine (tries_captureLogs logs).mono (fun _ m' live => ?_) fun _ _ => id
    subst live
    apply (tries_bind _ _).mpr
    exact tries_resume.mono (fun _ _ => id) fun _ _ => id
  · rw [show x=.error e from failed]
    exact .inl ⟨true,rfl⟩

theorem tries_spawnWithLogs (extension : Option String) (logs : List String) :
    Tries treeDiscipline (spawnWithLogs extension logs) .outside (fun _ m' => m'=.live)
      fun _ m' => Ended m' := by
  unfold spawnWithLogs
  split_ifs
  · exact tries_spawnTree false logs
  · exact tries_spawnTree true logs

/-- The owner of a tree ends with its job closed, or without a job. -/
theorem follows_life (launch : Launch) :
    (life launch).run.Follows treeDiscipline .outside fun _ m' => Ended m' := by
  have tries : Tries treeDiscipline (life launch) .outside (fun _ m' => Ended m')
      fun _ m' => Ended m' := by
    apply (tries_bind _ _).mpr
    refine (tries_spawnWithLogs _ _).mono (fun _ m' live => ?_) fun _ _ => id
    apply (tries_bind _ _).mpr
    refine (tries_stops _ (.inl live)).mono (fun _ m₁ held => ?_) fun _ _ => False.elim
    exact (tries_drop held).mono (fun _ _ => .inr) fun _ _ => False.elim
  refine Follows.mono tries fun result m' ended => ?_
  cases result with
  | ok done => exact ended
  | error e => exact ended

end TreeOwner

theorem treeSystem_upholds : Upholds treeSystem treeDiscipline .outside TreeMode.dead
    (fun _ _ => True) ProcessWorld.Fits where
  follows launch := Follows.mono (TreeOwner.follows_life launch) fun _ _ _ => trivial
  advances _ _ _ choice request _ fits _ may _ := fits.respond choice request may
  kills _ _ _ fits _ := fits.dies
  disturbs _ _ happening fits _ := fits.disturb happening

namespace ProcessWorld

variable {world : ProcessWorld} {i : Nat}

/-- A system in which no tree has been launched, with foreign processes. -/
def initial (foreign : Nat) : ProcessWorld :=
  ⟨List.replicate foreign ⟨none,none,.running⟩,fun _ => .absent,fun _ => none,[]⟩

theorem fits_initial (foreign : Nat) : Fits (initial foreign) fun _ => .outside := by
  have alien {pid : Nat} {p : OsProcess} (here : (initial foreign).processes[pid]?=some p) :
      p=⟨none,none,.running⟩ :=
    List.eq_of_mem_replicate (List.mem_of_getElem? here)
  refine ⟨fun _ => rfl,fun j pid p here mine => ?_,fun pid p here => ?_,fun j pid root => ?_,
    fun j report mem => ?_⟩
  · rw [alien here] at mine
    cases mine
  · rw [alien here]
    exact .inl rfl
  · cases root
  · cases mem

/-- Other owners' jobs are not touched. -/
theorem closeJob_job (world : ProcessWorld) (i : Nat) {j : Nat} (other : j≠i) :
    (world.closeJob i).job j=world.job j := by
  unfold closeJob
  cases world.job i with
  | absent => rfl
  | closed => rfl
  | opened limit => cases limit <;> exact Function.update_of_ne other _ _

theorem closeJob_gone (world : ProcessWorld) (i : Nat) :
    (world.closeJob i).job i=.absent ∨ (world.closeJob i).job i=.closed := by
  unfold closeJob
  cases job : world.job i with
  | absent => exact .inl job
  | closed => exact .inr job
  | opened limit => cases limit <;> exact .inr (Function.update_self i _ world.job)

theorem attempt_job {ε α : Type} (failure : Option ε) (a : α) {after : ProcessWorld} {j : Nat}
    (same : after.job j=world.job j) : (world.attempt failure a after).2.job j=world.job j := by
  rcases world.attempt_cases failure a after with ⟨-,given⟩|⟨e,given⟩
  · rw [given]
    exact same
  · rw [given]

theorem respond_job (choice : TreeChoice) (request : TreeRequest) {j : Nat} (other : j≠i) :
    (world.respond i choice request).2.job j=world.job j := by
  cases request with
  | createJob => exact attempt_job _ _ (Function.update_of_ne other _ _)
  | configureJob => exact attempt_job _ _ (Function.update_of_ne other _ _)
  | closeJob => exact world.closeJob_job i other
  | resumePrimaryThread =>
    apply attempt_job
    split_ifs <;> rfl
  | terminateRoot => rfl
  | sleep => rfl
  | report report => rfl
  | startLogThread path => exact attempt_job choice.treeFailure () rfl
  | finishLogThreads => exact attempt_job choice.treeFailure () rfl
  | createProcess => exact attempt_job choice.failure _ rfl
  | queryJob capacity => exact attempt_job choice.failure _ rfl
  | assignProcess => exact attempt_job _ () rfl
  | terminateJob => exact attempt_job choice.failure () rfl
  | openLog path => exact attempt_job choice.failure () rfl
  | preparePipes => exact attempt_job choice.failure () rfl
  | ctrlBreak => exact attempt_job choice.failure () rfl
  | waitRoot => exact attempt_job choice.failure () rfl
  | tryWait => exact attempt_job choice.failure () rfl

/-- A change that hits processes of one tree only. -/
theorem change_other {which : Nat → OsProcess → Bool} {f : OsProcess → OsProcess} {pid : Nat}
    {p : OsProcess} (here : world.processes[pid]?=some p) (missed : which pid p=false) :
    (world.change which f).processes[pid]?=some p := by
  rw [change_processes,here,Option.map_some,missed]
  rfl

theorem attempt_process {ε α : Type} (failure : Option ε) (a : α) {after : ProcessWorld} {pid : Nat}
    {p : OsProcess} (here : world.processes[pid]?=some p) (same : after.processes[pid]?=some p) :
    (world.attempt failure a after).2.processes[pid]?=some p := by
  rcases world.attempt_cases failure a after with ⟨-,given⟩|⟨e,given⟩
  · rw [given]
    exact same
  · rw [given]
    exact here

section Frame

variable {modes : Nat → TreeMode} {pid : Nat} {p : OsProcess}

theorem terminateMembers_other (fits : Fits world modes) (here : world.processes[pid]?=some p)
    (other : p.tree≠some i) : (world.terminateMembers i).processes[pid]?=some p := by
  apply change_other here
  by_contra hit
  exact other (fits.owned here (by simpa using hit))

theorem closeJob_other (fits : Fits world modes) (here : world.processes[pid]?=some p)
    (other : p.tree≠some i) : (world.closeJob i).processes[pid]?=some p := by
  unfold closeJob
  cases world.job i with
  | absent => exact here
  | closed => exact here
  | opened limit =>
    cases limit with
    | false => exact here
    | true => exact terminateMembers_other fits here other

theorem isRoot_other (fits : Fits world modes) (here : world.processes[pid]?=some p)
    (other : p.tree≠some i) : world.isRoot i pid=false := by
  by_contra root
  exact other (fits.tree_of_root here (by simpa using root))

/-- Whatever an owner asks for, processes outside its tree stay as they are. -/
theorem respond_other (fits : Fits world modes) (choice : TreeChoice) (request : TreeRequest)
    (here : world.processes[pid]?=some p) (other : p.tree≠some i) :
    (world.respond i choice request).2.processes[pid]?=some p := by
  have apart := isRoot_other fits here other
  cases request with
  | createProcess =>
    apply attempt_process _ _ here
    show (world.processes++[_])[pid]?=some p
    rw [List.getElem?_append_left (List.getElem?_eq_some_iff.mp here).1]
    exact here
  | assignProcess =>
    exact attempt_process _ () here (change_other here (by simp [apart]))
  | resumePrimaryThread =>
    apply attempt_process _ _ here
    split_ifs
    · exact change_other here (by simp [apart])
    · exact here
  | terminateRoot => exact change_other here apart
  | terminateJob =>
    exact attempt_process choice.failure () here (terminateMembers_other fits here other)
  | closeJob => exact closeJob_other fits here other
  | sleep => exact here
  | report report => exact here
  | createJob => exact attempt_process choice.failure () here here
  | configureJob => exact attempt_process choice.failure () here here
  | openLog path => exact attempt_process choice.failure () here here
  | preparePipes => exact attempt_process choice.failure () here here
  | startLogThread path => exact attempt_process choice.treeFailure () here here
  | finishLogThreads => exact attempt_process choice.treeFailure () here here
  | waitRoot => exact attempt_process choice.failure () here here
  | tryWait => exact attempt_process choice.failure () here here
  | queryJob capacity => exact attempt_process choice.failure _ here here
  | ctrlBreak => exact attempt_process choice.failure () here here

end Frame

end ProcessWorld

/-- A dead owner's job handle is gone. -/
def Buried (s : TreeState) : Prop :=
  ∀i,s.parties i=.killed → s.shared.job i=.absent ∨ s.shared.job i=.closed

theorem disturb_job (world : ProcessWorld) (happening : ProcessWorld.OsChange) (i : Nat) :
    (world.disturb happening).job i=world.job i := by
  cases happening with
  | fork parent =>
    show (world.fork parent).job i=world.job i
    rcases world.fork_cases parent with same|⟨p,-,-,grown⟩
    · rw [same]
    · rw [grown]
  | exit pid => rfl
  | terminate pid => rfl
  | foreign => rfl

theorem keeps_buried : Run.Keeps (step treeSystem) (fun _ _ => True) Buried := by
  intro s move buried _ i killed
  rcases step_cases treeSystem move s with same|⟨j,launch,-,born,after⟩|
    ⟨j,choice,request,next,-,here,after⟩|⟨j,p,-,here,after⟩|⟨happening,-,after⟩
  · rw [same] at killed ⊢
    exact buried i killed
  · rw [after] at killed ⊢
    by_cases same : i=j
    · subst same
      simp at killed
    · exact buried i ((Function.update_of_ne same _ _).symm.trans killed)
  · rw [after] at killed ⊢
    by_cases same : i=j
    · subst same
      simp at killed
    · have before := buried i ((Function.update_of_ne same _ _).symm.trans killed)
      rw [← ProcessWorld.respond_job choice request same] at before
      exact before
  · rw [after] at killed ⊢
    by_cases same : i=j
    · subst same
      exact s.shared.closeJob_gone i
    · have before := buried i ((Function.update_of_ne same _ _).symm.trans killed)
      rw [← s.shared.closeJob_job j same] at before
      exact before
  · rw [after] at killed ⊢
    have before := buried i killed
    rw [← disturb_job s.shared happening i] at before
    exact before

/-- What holds of process trees in a state, and of the next move. A process of a tree runs only
inside its owner's open job; once the launch has failed, or the drop is through, or a stop has
reported that nothing is left, no process of the tree runs ever after; a dead owner leaves at most
a root that has never run, in no job; and whatever an owner does, or its death, leaves all other
processes as they are. -/
structure TreesOwned (s : TreeState) (move : TreeMove) : Prop where
  contained : ∀i (pid : Nat) (p : OsProcess),s.shared.processes[pid]?=some p → p.tree=some i →
    p.phase=.running → p.job=some i ∧ s.shared.job i=.opened true
  ended : ∀i result,s.parties i=.working (.done result) → ∀(pid : Nat) (p : OsProcess),
    s.shared.processes[pid]?=some p → p.tree=some i → p.phase=.dying ∨ p.phase=.exited
  killed : ∀i,s.parties i=.killed → ∀(pid : Nat) (p : OsProcess),
    s.shared.processes[pid]?=some p → p.tree=some i →
      p.phase=.dying ∨ p.phase=.exited ∨ (p.phase=.suspended ∧ p.job=none)
  reported : ∀i report,(i,report)∈s.shared.reports → report.ownedPidsAfter=[] →
    ∀(pid : Nat) (p : OsProcess),s.shared.processes[pid]?=some p → p.tree=some i →
      p.phase=.exited
  others : ∀i choice,move=.advance i choice ∨ move=.kill i → ∀(pid : Nat) (p : OsProcess),
    s.shared.processes[pid]?=some p → p.tree≠some i →
      (step treeSystem move s).shared.processes[pid]?=some p

/-- An owner that has ended, or has no job, has nothing left. -/
theorem ended_allows {m : TreeMode} (ended : m.Ended) {root : Option Nat} {pid : Nat}
    {p : OsProcess} (allows : m.Allows root pid p) : p.phase=.dying ∨ p.phase=.exited := by
  rcases ended with rfl|rfl
  · exact absurd allows id
  · exact allows

theorem treesOwned_of_kept {s : TreeState} (move : TreeMove) (buried : Buried s)
    (kept : AllEnding treeDiscipline .outside ProcessWorld.Fits (fun _ m => m.Ended) s) :
    TreesOwned s move := by
  obtain ⟨⟨modes,fits,each⟩,ends⟩ := kept
  refine ⟨fun i pid p here mine runs => ?_,fun i result done pid p here mine => ?_,
    fun i killed pid p here mine => ?_,fun i report mem empty pid p here mine => ?_,
    fun i choice moves pid p here other => ?_⟩
  · have allows := fits.allows i pid p here mine
    have live : modes i=.live := by
      cases mode : modes i with
      | live => rfl
      | _ => simp [mode,TreeMode.Allows,runs] at allows
    rw [live] at allows
    exact ⟨Eq.trans allows mine,fits.handle_of live⟩
  · rcases ends i with unborn|ending
    · rw [unborn] at done
      cases done
    · obtain ⟨modes',fits',ended⟩ := ending.done done
      exact ended_allows ended (fits'.allows i pid p here mine)
  · have allows := fits.allows i pid p here mine
    have handle := fits.handle i
    cases mode : modes i with
    | closed =>
      rw [mode] at allows
      rcases allows with dying|exited
      · exact .inl dying
      · exact .inr (.inl exited)
    | orphaned =>
      rw [mode] at allows
      exact allows
    | outside =>
      rw [mode] at allows
      exact absurd allows id
    | _ =>
      rw [mode] at handle
      rcases buried i killed with absent|closed
      · rw [handle] at absent
        cases absent
      · rw [handle] at closed
        cases closed
  · exact (fits.reported i report mem empty).2 pid p here mine
  · rcases moves with rfl|rfl
    · rcases step_cases treeSystem (.advance i choice) s with same|⟨j,launch,same,-,-⟩|
        ⟨j,choice',request,next,same,-,after⟩|⟨j,p',same,-,-⟩|⟨happening,same,-⟩
      · rw [same]
        exact here
      · cases same
      · cases same
        rw [after]
        exact ProcessWorld.respond_other fits choice request here other
      · cases same
      · cases same
    · rcases step_cases treeSystem (.kill i) s with same|⟨j,launch,same,-,-⟩|
        ⟨j,choice',request,next,same,-,-⟩|⟨j,p',same,-,after⟩|⟨happening,same,-⟩
      · rw [same]
        exact here
      · cases same
      · cases same
      · cases same
        rw [after]
        exact ProcessWorld.closeJob_other fits here other
      · cases same

/-- In every run of owners that launch, stop and drop trees and may die at any moment, while
processes start others and exit as they like. -/
theorem process_trees_owned (foreign : Nat) (moves : List TreeMove) :
    Run.Along (step treeSystem) TreesOwned moves (.initial (.initial foreign)) := by
  have kept := (treeSystem_upholds.keeps_all TreeOwner.follows_life).and keeps_buried
  refine kept.along (fun s move holds _ => treesOwned_of_kept move holds.2 holds.1) ⟨⟨?_,?_⟩,?_⟩
    (Run.along_true moves _)
  · exact disciplined_initial _ (ProcessWorld.fits_initial foreign)
  · exact fun i => .inl rfl
  · intro i killed
    cases killed

end AkuSupervisor
