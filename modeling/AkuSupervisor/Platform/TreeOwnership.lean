import AkuSupervisor.Application.PlatformPorts
import AkuSupervisor.Lib.Interleaving

/-! Process trees bounded by Job Objects: what a supervisor asks of Windows from the launch of a
tree to its end, and what Windows does with processes, jobs and handles. -/

namespace AkuSupervisor

open Program Interleaving

def initialOwnedProcessCapacity : Nat := 256
def maxOwnedProcesses : Nat := 65536

inductive ProcessTreeError where
  | createJob (source : String)
  | configureJob (source : String)
  | spawn (source : String)
  | stdioPipe (source : String)
  | logSetup (path source : String)
  | logPump (path source : String)
  | logThreadPanicked (path : String)
  | assignJob (source : String)
  | threadSnapshot (source : String)
  | primaryThreadNotFound (pid : Nat)
  | openPrimaryThread (source : String)
  | queryPrimaryThreadTime (source : String)
  | resumePrimaryThread (source : String)
  | queryJob (source : String)
  | tooManyOwnedProcesses (assigned capacity : Nat)
  | terminateJob (source : String)
  | wait (source : String)
  deriving DecidableEq

/-- What one owner of a process tree asks of its environment; its Job Object, its root process and
its log threads are its own. `report` returns the outcome of a stop to the caller. -/
inductive TreeRequest where
  | createJob
  | configureJob
  | openLog (path : String)
  | preparePipes
  | createProcess
  | assignProcess
  | startLogThread (path : String)
  | resumePrimaryThread
  | terminateRoot
  | waitRoot
  | tryWait
  | queryJob (capacity : Nat)
  | ctrlBreak
  | terminateJob
  | sleep
  | finishLogThreads
  | closeJob
  | report (report : TreeStopReport)

/-- The processes assigned to a job and, of these, as many as there was room for. -/
structure JobProcessIds where
  assigned : Nat
  listed : List Nat

def TreeRequest.Answer : TreeRequest → Type
  | .createJob | .configureJob | .openLog _ | .preparePipes | .assignProcess | .ctrlBreak
  | .terminateJob | .waitRoot | .tryWait => Except String Unit
  | .createProcess => Except String Nat
  | .startLogThread _ | .resumePrimaryThread | .finishLogThreads => Except ProcessTreeError Unit
  | .queryJob _ => Except String JobProcessIds
  | .terminateRoot | .sleep | .closeJob | .report _ => Unit

def TreeRequest.ask {ε : Type} (request : TreeRequest) :
    Attempt ε TreeRequest TreeRequest.Answer request.Answer := Attempt.ask request

/-- A part of what an owner does, up to its requests. -/
abbrev TreeM := Attempt ProcessTreeError TreeRequest TreeRequest.Answer

open Attempt (settle)
open TreeRequest (ask)

def expandedJobPidCapacity (current assigned : Nat) : Option Nat :=
  if assigned > maxOwnedProcesses ∨ current≥maxOwnedProcesses then none
  else some (min (max assigned (current*2)) maxOwnedProcesses)

/-- Asks again with more room while the list is cut short; `fuel` is more than what the room can
grow by. -/
def queryJobPids : Nat → Nat → TreeM (List Nat)
  | 0,capacity => throw (.tooManyOwnedProcesses capacity maxOwnedProcesses)
  | fuel+1,capacity => do
    let info ← settle .queryJob (← ask (.queryJob capacity))
    if info.listed.length > capacity ∨ info.assigned > maxOwnedProcesses then
      throw (.tooManyOwnedProcesses info.assigned maxOwnedProcesses)
    else if info.listed.length < info.assigned then
      match expandedJobPidCapacity capacity info.assigned with
      | some capacity => queryJobPids fuel capacity
      | none => throw (.tooManyOwnedProcesses info.assigned maxOwnedProcesses)
    else pure info.listed

/-- There is more room at every further query. -/
theorem expandedJobPidCapacity_grows {current assigned capacity : Nat} (room : 0 < current)
    (expanded : expandedJobPidCapacity current assigned=some capacity) :
    current < maxOwnedProcesses ∧ current < capacity := by
  unfold expandedJobPidCapacity at expanded
  split_ifs at expanded with many
  have wider := Option.some.inj expanded
  omega

/-- With fuel for the room there is to the maximum, more fuel makes no difference. -/
theorem queryJobPids_enough (fuel capacity : Nat) (room : 0 < capacity)
    (enough : maxOwnedProcesses ≤ fuel+capacity) :
    queryJobPids (fuel+2) capacity=queryJobPids (fuel+1) capacity := by
  induction fuel generalizing capacity with
  | zero =>
    have full (assigned : Nat) : expandedJobPidCapacity capacity assigned=none :=
      if_pos (.inr (by omega))
    simp only [queryJobPids,full]
  | succ fuel ih =>
    rw [queryJobPids,queryJobPids]
    refine bind_congr fun answer => bind_congr fun info => ?_
    split_ifs
    · rfl
    · cases expanded : expandedJobPidCapacity capacity info.assigned with
      | none => rfl
      | some wider =>
        have grows := expandedJobPidCapacity_grows room expanded
        exact ih wider (by omega) (by omega)
    · rfl

namespace TreeOwner

def ownedPids : TreeM (List Nat) := queryJobPids (maxOwnedProcesses+1) initialOwnedProcessCapacity

/-- The job handle is dropped where a launch fails. -/
def closing {α : Type} (x : TreeM α) : TreeM α := do
  match ← (monadLift x.run : TreeM (Except ProcessTreeError α)) with
  | .ok a => pure a
  | .error error =>
    ask .closeJob
    throw error

def createKillOnCloseJob : TreeM Unit := do
  settle .createJob (← ask .createJob)
  closing do settle .configureJob (← ask .configureJob)

def openLogs : List String → TreeM Unit
  | [] => pure ()
  | path::paths => do
    settle (.logSetup path) (← ask (.openLog path))
    openLogs paths

def startLogThreads : List String → TreeM Unit
  | [] => pure ()
  | path::paths => do
    settle id (← ask (.startLogThread path))
    startLogThreads paths

/-- A child that cannot be owned or resumed is terminated, and waited for. -/
def terminateSuspended (error : ProcessTreeError) : TreeM Unit := do
  ask .terminateRoot
  let _ ← ask .waitRoot
  throw error

def preparePipes (native : Bool) : TreeM Unit :=
  if native then do settle .stdioPipe (← ask .preparePipes) else pure ()

def assignJob : TreeM Unit := do
  match ← ask .assignProcess with
  | .error error => terminateSuspended (.assignJob error)
  | .ok () => pure ()

def captureLogs (logs : List String) : TreeM Unit := do
  match ← (monadLift (startLogThreads logs).run : TreeM (Except ProcessTreeError Unit)) with
  | .error error => terminateSuspended error
  | .ok () => pure ()

/-- Resumes exactly the suspension that the launch added. -/
def resume : TreeM Unit := do
  match ← ask .resumePrimaryThread with
  | .error error =>
    ask .terminateRoot
    let _ ← ask .waitRoot
    let _ ← ask .finishLogThreads
    throw error
  | .ok () => pure ()

/-- `spawn_batch_with_logs` and `spawn_native_with_logs`, of which the second prepares the pipes
itself: the paths are those of the streams that are captured. -/
def spawnTree (native : Bool) (logs : List String) : TreeM Nat := do
  createKillOnCloseJob
  closing do
    openLogs logs
    preparePipes native
    let rootPid ← settle .spawn (← ask .createProcess)
    assignJob
    captureLogs logs
    resume
    pure rootPid

def spawnBatchWithLogs (logs : List String) : TreeM Nat := spawnTree false logs

def spawnNativeWithLogs (logs : List String) : TreeM Nat := spawnTree true logs

/-- The extension of a batch program. -/
def isBatchProgram (extension : Option String) : Bool :=
  extension.any fun extension => extension.toLower="bat" || extension.toLower="cmd"

def spawnWithLogs (extension : Option String) (logs : List String) : TreeM Nat :=
  if isBatchProgram extension then spawnBatchWithLogs logs else spawnNativeWithLogs logs

/-- Looks until the tree is empty, `polls` times before the deadline. -/
def waitUntilEmpty : Nat → TreeM Bool
  | 0 => do
    let pids ← ownedPids
    pure pids.isEmpty
  | polls+1 => do
    let pids ← ownedPids
    if pids.isEmpty then pure true
    else
      ask .sleep
      waitUntilEmpty polls

/-- What is left of the processes after a deadline; then the whole job is terminated. -/
def force (grace confirmation : Nat) : TreeM Bool := do
  if ← waitUntilEmpty grace then pure false
  else
    settle .terminateJob (← ask .terminateJob)
    let _ ← waitUntilEmpty confirmation
    pure true

/-- An empty tree's launcher is waited for, and its logs are finished. -/
def settled (pids : List Nat) : TreeM Unit :=
  if pids.isEmpty then do
    settle .wait (← ask .tryWait)
    settle id (← ask .finishLogThreads)
  else pure ()

def stop (grace confirmation : Nat) : TreeM TreeStopReport := do
  let ownedPidsBefore ← ownedPids
  if ownedPidsBefore.isEmpty then pure ⟨ownedPidsBefore,[],false,none,false⟩
  else
    let signal ← ask .ctrlBreak
    let forced ← force grace confirmation
    let ownedPidsAfter ← ownedPids
    settled ownedPidsAfter
    pure ⟨ownedPidsBefore,ownedPidsAfter,signal.toBool,
      match signal with
      | .ok _ => none
      | .error message => some s!"send Ctrl+Break failed: {message}",forced⟩

/-- Failing to look at the job is no reason not to terminate it. -/
def terminateLeft (found : Except ProcessTreeError (List Nat)) : TreeM Unit :=
  if found.toOption.all (fun pids => !pids.isEmpty) then do
    let _ ← ask .terminateJob
    let _ ← ask .waitRoot
    pure ()
  else pure ()

def drop : TreeM Unit := do
  let found ← (monadLift ownedPids.run : TreeM (Except ProcessTreeError (List Nat)))
  terminateLeft found
  let _ ← ask .finishLogThreads
  ask .closeJob

/-- Stops of a tree, one after another; what each reports is told to the caller. -/
def stops : List (Nat × Nat) → TreeM Unit
  | [] => pure ()
  | (grace,confirmation)::more => do
    match ← (monadLift (stop grace confirmation).run :
        TreeM (Except ProcessTreeError TreeStopReport)) with
    | .ok report => ask (.report report)
    | .error _ => pure ()
    stops more

/-- The life of a tree: a launch, any stops, and the drop. -/
structure Launch where
  extension : Option String
  logs : List String
  stops : List (Nat × Nat)

def life (launch : Launch) : TreeM Unit := do
  let _ ← spawnWithLogs launch.extension launch.logs
  stops launch.stops
  drop

end TreeOwner

/-- How a process is: it runs only after its primary thread was resumed, and one that was terminated
runs no more code before it is gone. -/
inductive Phase where
  | suspended
  | running
  | dying
  | exited
  deriving DecidableEq

/-- A process, the tree that it belongs to by descent and the job it is assigned to. Trees and jobs
have their owner's number; a process that descends from no tree's root is foreign. -/
structure OsProcess where
  tree : Option Nat
  job : Option Nat
  phase : Phase
  deriving DecidableEq

/-- A job handle; `killOnClose` after the limit was set. -/
inductive JobHandle where
  | absent
  | opened (killOnClose : Bool)
  | closed
  deriving DecidableEq

/-- The processes by their numbers, the job and root handles of each owner, and the reports that
owners were given. -/
structure ProcessWorld where
  processes : List OsProcess
  job : Nat → JobHandle
  root : Nat → Option Nat
  reports : List (Nat × TreeStopReport)

def OsProcess.terminated (p : OsProcess) : OsProcess :=
  { p with phase := if p.phase=.exited then .exited else .dying }

/-- What the environment contributes to a request: that it fails, and whether a resumed thread is
the primary one. -/
structure TreeChoice where
  failure : Option String
  treeFailure : Option ProcessTreeError
  resumes : Bool

namespace ProcessWorld

variable (world : ProcessWorld)

/-- Every process that meets a condition is changed in a way. -/
def change (which : Nat → OsProcess → Bool) (f : OsProcess → OsProcess) : ProcessWorld :=
  { world with processes :=
      world.processes.mapIdx fun pid p => if which pid p then f p else p }

def isMember (owner : Nat) (p : OsProcess) : Bool := p.job=some owner && p.phase≠.exited

/-- The processes of a job that are not gone. -/
def members (owner : Nat) : List Nat :=
  (world.processes.zipIdx.filter fun p => isMember owner p.1).map Prod.snd

def terminateMembers (owner : Nat) : ProcessWorld :=
  world.change (fun _ p => p.job=some owner) OsProcess.terminated

/-- The last handle of a job is closed, which terminates its processes if the limit is set. -/
def closeJob (owner : Nat) : ProcessWorld :=
  match world.job owner with
  | .opened true =>
    { world.terminateMembers owner with job := Function.update world.job owner .closed }
  | .opened false => { world with job := Function.update world.job owner .closed }
  | .absent | .closed => world

def createProcess (owner : Nat) : ProcessWorld :=
  { world with
    processes := world.processes++[⟨some owner,none,.suspended⟩]
    root := Function.update world.root owner (some world.processes.length) }

def isRoot (owner pid : Nat) : Bool := world.root owner=some pid

def assignProcess (owner : Nat) : ProcessWorld :=
  world.change (fun pid p => world.isRoot owner pid && p.phase≠.exited)
    fun p => { p with job := some owner }

def resumeRoot (owner : Nat) : ProcessWorld :=
  world.change (fun pid p => world.isRoot owner pid && p.phase=.suspended)
    fun p => { p with phase := .running }

def terminateRoot (owner : Nat) : ProcessWorld :=
  world.change (fun pid _ => world.isRoot owner pid) OsProcess.terminated

def rootExited (owner : Nat) : Bool :=
  (world.root owner).any fun pid => world.processes[pid]?.any fun p => p.phase=.exited

def attempt {ε α : Type} (failure : Option ε) (a : α) (after : ProcessWorld) :
    Except ε α × ProcessWorld :=
  match failure with
  | some e => (.error e,world)
  | none => (.ok a,after)

/-- An exited process is not assigned to a job; a failed call changes nothing. An owner may always
terminate its own root. -/
def respond (owner : Nat) (choice : TreeChoice) (request : TreeRequest) (world : ProcessWorld) :
    request.Answer × ProcessWorld :=
  match request with
  | .createJob =>
    world.attempt choice.failure ()
      { world with job := Function.update world.job owner (.opened false) }
  | .configureJob =>
    world.attempt choice.failure ()
      { world with job := Function.update world.job owner (.opened true) }
  | .openLog _ | .preparePipes | .ctrlBreak | .waitRoot | .tryWait =>
    world.attempt choice.failure () world
  | .createProcess =>
    world.attempt choice.failure world.processes.length (world.createProcess owner)
  | .assignProcess =>
    world.attempt
      (if world.rootExited owner then some "access denied" else choice.failure) ()
      (world.assignProcess owner)
  | .startLogThread _ | .finishLogThreads => world.attempt choice.treeFailure () world
  | .resumePrimaryThread =>
    world.attempt choice.treeFailure () (if choice.resumes then world.resumeRoot owner else world)
  | .terminateRoot => ((),world.terminateRoot owner)
  | .queryJob capacity =>
    world.attempt choice.failure
      ⟨(world.members owner).length,(world.members owner).take capacity⟩ world
  | .terminateJob => world.attempt choice.failure () (world.terminateMembers owner)
  | .closeJob => ((),world.closeJob owner)
  | .sleep => ((),world)
  | .report report => ((),{ world with reports := (owner,report)::world.reports })

/-- What happens outside all owners: a running process starts another one, which inherits its job;
any process exits or is terminated; a foreign process starts. -/
inductive OsChange where
  | fork (parent : Nat)
  | exit (pid : Nat)
  | terminate (pid : Nat)
  | foreign

def child (p : OsProcess) : OsProcess := ⟨p.tree,p.job,.running⟩

/-- A running process starts another one. -/
def fork (parent : Nat) : ProcessWorld :=
  match world.processes[parent]? with
  | some p =>
    if p.phase=.running then { world with processes := world.processes++[child p] } else world
  | none => world

def disturb (happening : OsChange) (world : ProcessWorld) : ProcessWorld :=
  match happening with
  | .fork parent => world.fork parent
  | .exit pid => world.change (fun pid' _ => pid'=pid) fun p => { p with phase := .exited }
  | .terminate pid => world.change (fun pid' _ => pid'=pid) OsProcess.terminated
  | .foreign => { world with processes := world.processes++[⟨none,none,.running⟩] }

end ProcessWorld

/-- The owners of process trees over one system. The death of an owner closes its job handle. -/
def treeSystem : Interleaving ProcessWorld TreeRequest TreeRequest.Answer TreeChoice
    TreeOwner.Launch ProcessWorld.OsChange (Except ProcessTreeError Unit) where
  respond := ProcessWorld.respond
  program launch := (TreeOwner.life launch).run
  abandon owner world := world.closeJob owner
  disturb := ProcessWorld.disturb

abbrev TreeState := State ProcessWorld TreeRequest TreeRequest.Answer (Except ProcessTreeError Unit)

abbrev TreeMove := Move TreeChoice TreeOwner.Launch ProcessWorld.OsChange

end AkuSupervisor
