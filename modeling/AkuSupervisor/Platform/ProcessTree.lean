import AkuSupervisor.Application.RefreshPasses

/-! How the exit of a Windows process tree is seen, and what a refresh pass makes of it. -/

namespace AkuSupervisor

open ServiceRegistry ServiceEntry ServiceRuntime WatchOp

/-- A process as the operating system knows it, for as long as there is a handle to it. -/
inductive ProcessState where
  | running
  | terminated (exitCode : UInt32)
  deriving DecidableEq

/-- The exit code that a process without one is said to have. -/
def stillActive : UInt32 := 259

/-- The answers of the operating system, by handle: `GetExitCodeProcess`, whether the process is
signaled when `WaitForSingleObject` does not wait, and the processes of a Job Object. -/
structure SystemQueries (E : Type) where
  exitCode : Nat → Except E UInt32
  signaled : Nat → Except E Bool
  jobPids : Nat → Except E (List Nat)

/-- The processes and the Job Objects behind the handles. -/
structure WindowsSystem where
  process : Nat → ProcessState
  members : Nat → List Nat

def ProcessState.exitCode : ProcessState → UInt32
  | .running => stillActive
  | .terminated exitCode => exitCode

/-- The answers when no query fails. -/
def WindowsSystem.queries {E : Type} (system : WindowsSystem) : SystemQueries E where
  exitCode := fun handle => .ok (system.process handle).exitCode
  signaled := fun handle => .ok (decide (system.process handle≠.running))
  jobPids := fun handle => .ok (system.members handle)

/-- A status from a code of 32 bits, which is read as a signed number. -/
def ExitStatus.fromRaw (exitCode : UInt32) : ExitStatus := ⟨some exitCode.toInt32.toInt⟩

/-- The handle of a launcher, which `std::process` holds or the tree itself. -/
inductive RootProcess where
  | standard (process : Nat)
  | native (process : Nat)
  deriving DecidableEq

def RootProcess.handle : RootProcess → Nat
  | .standard process | .native process => process

def RootProcess.isNative : RootProcess → Bool
  | .standard _ => false
  | .native _ => true

/-- A process tree bounded by a Job Object. -/
structure OwnedProcessTree where
  job : Nat
  child : RootProcess
  rootPid : Nat
  deriving DecidableEq

section Tree

variable {E : Type} (queries : SystemQueries E)

/-- `std::process::Child::try_wait`. -/
def standardTryWait (process : Nat) : Except E (Option ExitStatus) := do
  if ← queries.signaled process then return some (.fromRaw (← queries.exitCode process))
  return none

def nativeTryWait (process : Nat) : Except E (Option ExitStatus) := do
  let exitCode ← queries.exitCode process
  if exitCode=stillActive then return none
  return some (.fromRaw exitCode)

def RootProcess.tryWait : RootProcess → Except E (Option ExitStatus)
  | .standard process => standardTryWait queries process
  | .native process => nativeTryWait queries process

def OwnedProcessTree.tryWait (tree : OwnedProcessTree) : Except E (Option ExitStatus) :=
  tree.child.tryWait queries

def OwnedProcessTree.ownedPids (tree : OwnedProcessTree) : Except E (List Nat) :=
  queries.jobPids tree.job

end Tree

namespace OwnedProcessTree

variable {E Q : Type} (tree : OwnedProcessTree)

/-- A platform whose trees are Windows trees. The state of the system may change between the calls of
one operation: before a look at the members, before the wait, and before the next look. -/
def platform (base : Platform OwnedProcessTree E Q) (system : Nat → WindowsSystem) :
    Platform OwnedProcessTree E Q :=
  { base with
    rootPid := OwnedProcessTree.rootPid
    ownedPids := fun attempt tree => tree.ownedPids (system (2*attempt)).queries
    tryWait := fun tree => tree.tryWait (system 1).queries }

def state (system : Nat → WindowsSystem) : ProcessState := (system 1).process tree.child.handle

/-- The Job Object is empty when its members are looked at. -/
def Empty (system : Nat → WindowsSystem) : Prop := (system 0).members tree.job=[]

/-- The launcher has terminated with the code that stands for a running one, and the tree holds its
handle itself. -/
def Collides (system : Nat → WindowsSystem) : Prop :=
  tree.child.isNative=true ∧ tree.state system=.terminated stillActive

variable {tree} {base : Platform OwnedProcessTree E Q} {system : Nat → WindowsSystem}

theorem tryWait_running (runs : tree.state system=.running) :
    (platform base system).tryWait tree=.ok none := by
  unfold state at runs
  show tree.child.tryWait (system 1).queries=.ok none
  cases child : tree.child <;> rw [child] at runs <;>
    simp_all [RootProcess.tryWait,standardTryWait,nativeTryWait,WindowsSystem.queries,
      RootProcess.handle,ProcessState.exitCode,bind,Except.bind,pure,Except.pure]

theorem tryWait_terminated {exitCode : UInt32} (ended : tree.state system=.terminated exitCode)
    (clear : ¬tree.Collides system) :
    (platform base system).tryWait tree=.ok (some (.fromRaw exitCode)) := by
  unfold Collides at clear
  rw [ended] at clear
  unfold state at ended
  show tree.child.tryWait (system 1).queries=_
  cases child : tree.child <;> rw [child] at ended clear <;>
    simp_all [RootProcess.tryWait,standardTryWait,nativeTryWait,WindowsSystem.queries,
      RootProcess.handle,ProcessState.exitCode,RootProcess.isNative,bind,Except.bind,pure,
      Except.pure]

theorem tryWait_collides (collides : tree.Collides system) :
    (platform base system).tryWait tree=.ok none := by
  obtain ⟨native,ended⟩ := collides
  unfold state at ended
  show tree.child.tryWait (system 1).queries=_
  cases child : tree.child <;> rw [child] at ended native <;>
    simp_all [RootProcess.tryWait,nativeTryWait,WindowsSystem.queries,
      RootProcess.handle,ProcessState.exitCode,RootProcess.isNative,bind,Except.bind,pure,
      Except.pure]

/-- The wait answers, one way or the other. -/
theorem tryWait_answers : ∃answer,(platform base system).tryWait tree=.ok answer := by
  by_cases collides : tree.Collides system
  · exact ⟨none,tryWait_collides collides⟩
  · cases state : tree.state system with
    | running => exact ⟨none,tryWait_running state⟩
    | terminated exitCode => exact ⟨_,tryWait_terminated state collides⟩

/-- A refresh sees the exit of a tree that is empty, as the wait tells it. -/
theorem sighting_tree {e : ServiceEntry OwnedProcessTree} (owner : e.runtime.process=some tree)
    {answer : Option ExitStatus} (wait : (platform base system).tryWait tree=.ok answer) :
    e.sighting (platform base system)=
      .ok (if (system 0).members tree.job=[] then answer else none) := by
  have first : (platform base system).ownedPids 0 tree=.ok ((system 0).members tree.job) := rfl
  have second : (platform base system).ownedPids 1 tree=.ok ((system 2).members tree.job) := rfl
  rw [sighting,owner]
  simp only [first,second,bind,Except.bind]
  by_cases empty : (system 0).members tree.job=[]
  · rw [if_pos empty,if_pos empty,wait]
    cases answer <;> rfl
  · rw [if_neg empty,if_neg empty]
    rfl

section Pass

variable (bases : String → Platform OwnedProcessTree E Q)
  (systems : String → Nat → WindowsSystem) (r : ServiceRegistry OwnedProcessTree)

def platforms (serviceId : String) : Platform OwnedProcessTree E Q :=
  platform (bases serviceId) (systems serviceId)

/-- What a pass is to make of a tree, told by the exits that it reports for the service and the entry
that it leaves: an empty tree whose launcher has terminated is released, and its exit code reported;
a tree that is not empty, or whose launcher runs, is retained. -/
structure Judged (system : Nat → WindowsSystem) (e : ServiceEntry OwnedProcessTree)
    (exits : List ProcessExitEvent) (left : Option (ServiceEntry OwnedProcessTree)) : Prop where
  released : tree.Empty system → ∀exitCode,tree.state system=.terminated exitCode →
    left.map (·.runtime)=
      some ⟨if e.runtime.lifecycle=.terminationPending then .stopped else .failed,none⟩ ∧
    exits.map (·.exitCode)=[some exitCode.toInt32.toInt]
  retained : ¬tree.Empty system ∨ tree.state system=.running →
    left.map (·.runtime.process)=some (some tree) ∧ exits=[]

variable {bases systems r}

/-- What a turn that sees this reports and leaves of an entry. -/
structure Follows (e : ServiceEntry OwnedProcessTree) (seen : Option ExitStatus)
    (refresh : ServiceRefresh) (e' : ServiceEntry OwnedProcessTree) : Prop where
  unseen : seen=none → refresh.processExit=none ∧ e'.runtime.process=e.runtime.process
  exited : ∀status,seen=some status →
    (∃event,refresh.processExit=some event ∧ event.exitCode=status.code) ∧
      e'.runtime=⟨if e.runtime.lifecycle=.terminationPending then .stopped else .failed,none⟩

/-- No turn of a pass fails, and what each does follows from what it sees. -/
theorem turn_sees {serviceId : String} {e : ServiceEntry OwnedProcessTree}
    (rest : Consistent e.runtime) {seen : Option ExitStatus}
    (sighting : e.sighting (platforms bases systems serviceId)=.ok seen) (window : Nat) :
    ∃refresh e' calls,(ServiceEntry.refresh (platforms bases systems serviceId) window).run
        ⟨e,[]⟩=.ok refresh ⟨e',calls⟩ ∧ Follows e seen refresh e' := by
  have cases := refresh_cases (platforms bases systems serviceId) window e rest
  generalize (ServiceEntry.refresh (platforms bases systems serviceId) window).run ⟨e,[]⟩=result
    at cases ⊢
  cases cases with
  | failed error e' calls seen' =>
    rw [sighting] at seen'
    cases seen'
  | live health e' calls seen' quiet =>
    rw [sighting] at seen'
    cases seen'
    exact ⟨_,e',calls,rfl,fun _ => ⟨rfl,quiet.process⟩,fun _ other => by cases other⟩
  | exited process status seen' owned =>
    rw [sighting] at seen'
    cases seen'
    refine ⟨_,_,_,rfl,fun other => (by cases other),fun status' same => ?_⟩
    cases same
    exact ⟨⟨_,rfl,rfl⟩,rfl⟩

theorem sighting_answers {serviceId : String} (e : ServiceEntry OwnedProcessTree) :
    ∃seen,e.sighting (platforms bases systems serviceId)=.ok seen := by
  cases owner : e.runtime.process with
  | none => exact ⟨none,by rw [sighting,owner]⟩
  | some tree =>
    obtain ⟨answer,wait⟩ : ∃answer,(platforms bases systems serviceId).tryWait tree=.ok answer :=
      tryWait_answers
    exact ⟨_,sighting_tree owner wait⟩

end Pass

/-- What the next pass makes of the tree of a service. -/
def DetectsExit (bases : String → Platform OwnedProcessTree E Q)
    (systems : String → Nat → WindowsSystem) (r : ServiceRegistry OwnedProcessTree)
    (serviceId : String) (e : ServiceEntry OwnedProcessTree) (tree : OwnedProcessTree) : Prop :=
  ∃refreshes t,(refreshServices (platforms bases systems)).run ⟨r,[]⟩=.ok refreshes t ∧
    tree.Judged (systems serviceId) e
      ((refreshes.filterMap (·.processExit)).filter (·.serviceId=serviceId))
      t.registry.services[serviceId]?

section Verdict

variable {bases : String → Platform OwnedProcessTree E Q} {systems : String → Nat → WindowsSystem}
  {r : ServiceRegistry OwnedProcessTree} {serviceId : String} {e : ServiceEntry OwnedProcessTree}

/-- A pass does not fail, and what it reports and leaves of a tree follows from what it sees. -/
theorem pass_verdict (sound : r.Sound) (here : r.services[serviceId]?=some e) {seen : Option ExitStatus}
    (sees : e.sighting (platforms bases systems serviceId)=.ok seen) :
    ∃refreshes t refresh e',(refreshServices (platforms bases systems)).run ⟨r,[]⟩=
        .ok refreshes t ∧
      (refreshes.filterMap (·.processExit)).filter (·.serviceId=serviceId)=
        refresh.processExit.toList ∧
      t.registry.services[serviceId]?=some e' ∧ Follows e seen refresh e' := by
  have gives : ∀id∈r.services,∃refresh left,
      TurnGives (platforms bases systems) r id refresh left := by
    intro id mem
    obtain ⟨e,found⟩ := (ServiceMap.mem_iff _ _).mp mem
    obtain ⟨seen,sees⟩ : ∃seen,e.sighting (platforms bases systems id)=.ok seen :=
      sighting_answers e
    obtain ⟨refresh,e',calls,run,-⟩ :=
      turn_sees (sound.consistent id e found) sees r.restartStabilityWindow
    exact ⟨refresh,some e',e,e',calls,found,rfl,run⟩
  have named (left : String → Option (ServiceEntry OwnedProcessTree)) (id : String)
      (refresh : ServiceRefresh)
      (gives : TurnGives (platforms bases systems) r id refresh (left id))
      (event : ProcessExitEvent) (exit : refresh.processExit=some event) :
      event.serviceId=id := by
    obtain ⟨e,e',calls,found,-,turn⟩ := gives
    refine RegistryOp.exit_serviceId (platforms bases systems id) id r (sound.keyed id)
      (sound.consistent id) event ?_
    rw [RegistryOp.exit,run_refreshEntry,run_withEntry]
    simp only [found,turn]
    exact exit
  have listed : serviceId∈r.serviceIds :=
    Std.ExtTreeMap.mem_keys.mpr ((ServiceMap.mem_iff _ _).mpr ⟨e,here⟩)
  obtain ⟨refreshes,t,run,turns⟩ := refreshServices_turns (platforms bases systems) r gives
  obtain ⟨refresh,turn,exits⟩ :=
    exits_of_turn turns (named (t.registry.services[·]?)) Std.ExtTreeMap.nodup_keys listed
  obtain ⟨e₀,e',calls,found,left,turn⟩ := turn
  rw [here] at found
  cases found
  obtain ⟨refresh',e'',calls',turn',what⟩ :=
    turn_sees (sound.consistent serviceId e here) sees r.restartStabilityWindow
  rw [turn] at turn'
  cases turn'
  exact ⟨refreshes,t,refresh,e',run,exits,left,what⟩

theorem not_detectsExit (sound : r.Sound) (here : r.services[serviceId]?=some e)
    (owner : e.runtime.process=some tree) (collides : tree.Collides (systems serviceId))
    (empty : tree.Empty (systems serviceId)) :
    ¬DetectsExit bases systems r serviceId e tree := by
  intro detects
  obtain ⟨refreshes',t',run',verdict⟩ := detects
  have wait : (platforms bases systems serviceId).tryWait tree=.ok none := tryWait_collides collides
  have sees := sighting_tree owner wait
  rw [ite_self] at sees
  obtain ⟨refreshes,t,refresh,e',run,-,left,follows⟩ := pass_verdict sound here sees
  obtain ⟨-,kept⟩ := follows.unseen rfl
  rw [run] at run'
  cases run'
  obtain ⟨released,-⟩ := verdict.released empty stillActive collides.2
  rw [left,Option.map_some] at released
  have freed := congrArg RuntimeState.process (Option.some.inj released)
  rw [kept,owner] at freed
  cases freed

end Verdict

/-- The next pass detects the exit of a tree, unless it is empty and its launcher has left with the
code that stands for a running process. -/
theorem detectsExit_iff (bases : String → Platform OwnedProcessTree E Q)
    (systems : String → Nat → WindowsSystem) (r : ServiceRegistry OwnedProcessTree)
    (reachable : RegistryOp.Reachable E Q r) (serviceId : String)
    (e : ServiceEntry OwnedProcessTree) (here : r.services[serviceId]?=some e)
    (owner : e.runtime.process=some tree) :
    DetectsExit bases systems r serviceId e tree ↔
      ¬(tree.Collides (systems serviceId) ∧ tree.Empty (systems serviceId)) := by
  have sound := reachable.sound
  obtain ⟨answer,wait⟩ : ∃answer,(platforms bases systems serviceId).tryWait tree=.ok answer :=
    tryWait_answers
  have sees := sighting_tree owner wait
  obtain ⟨refreshes,t,refresh,e',run,exits,left,follows⟩ := pass_verdict sound here sees
  constructor
  · intro detects missed
    exact not_detectsExit sound here owner missed.1 missed.2 detects
  · intro clear
    refine ⟨refreshes,t,run,?_,?_⟩
    · intro empty exitCode ended
      have told : (platforms bases systems serviceId).tryWait tree=
          .ok (some (.fromRaw exitCode)) :=
        tryWait_terminated ended fun collides => clear ⟨collides,empty⟩
      rw [wait] at told
      cases told
      obtain ⟨⟨event,exit,code⟩,released⟩ := follows.exited _ (if_pos empty)
      rw [exits,exit,left]
      exact ⟨congrArg some released,congrArg (fun code => [code]) code⟩
    · intro kept
      have unseen : (if (systems serviceId 0).members tree.job=[] then answer else none)=none := by
        rcases kept with filled|runs
        · exact if_neg filled
        · have silent : (platforms bases systems serviceId).tryWait tree=.ok none :=
            tryWait_running runs
          rw [silent] at wait
          cases wait
          exact ite_self none
      obtain ⟨exit,retained⟩ := follows.unseen unseen
      rw [owner] at retained
      rw [exits,exit,left]
      exact ⟨congrArg some retained,rfl⟩

section Samples

def sampleTree : OwnedProcessTree := ⟨1,.native 2,1000⟩

/-- A platform on which everything works, and a tree with one launcher comes up. -/
def samplePlatform : Platform OwnedProcessTree Unit Unit where
  preflightLaunch := fun _ _ => .ok ()
  spawn := fun _ _ => .ok sampleTree
  rootPid := OwnedProcessTree.rootPid
  ownedPids := fun _ tree => .ok [tree.rootPid]
  ownedProcesses := fun tree => .ok [⟨tree.rootPid,none⟩]
  tryWait := fun _ => .ok none
  stop := fun tree _ => .ok ⟨[tree.rootPid],[],true,none,false⟩
  inspectTcpPort := fun _ port => .ok ⟨port,[]⟩
  probe := fun _ _ _ _ => ⟨true,true,"",[]⟩
  lag := fun _ _ => (0,0)
  now := 0
  unixMilliseconds := 0

def idleRegistry : ServiceRegistry OwnedProcessTree :=
  match ServiceRegistry.new [fixture "api" "API"] (fromMillis 60000) with
  | .ok r => r
  | .error _ => ⟨∅,0⟩

def startedRegistry : ServiceRegistry OwnedProcessTree :=
  (RegistryOp.request samplePlatform .start "api" .userCli fixtureReason).step idleRegistry

theorem startedRegistry_reachable : RegistryOp.Reachable Unit Unit startedRegistry :=
  .step _ _ (.new [fixture "api" "API"] _ _ rfl)

theorem startedRegistry_owner : ∃e,startedRegistry.services["api"]?=some e ∧
    e.runtime.process=some sampleTree :=
  Option.map_eq_some_iff.mp (show startedRegistry.services["api"]?.map (·.runtime.process)=
    some (some sampleTree) by decide +kernel)

/-- The launcher has left with this code, and the Job Object is empty. -/
def departed (exitCode : UInt32) : String → Nat → WindowsSystem :=
  fun _ _ => ⟨fun _ => .terminated exitCode,fun _ => []⟩

theorem ordinary_exit_detected : ∃e,startedRegistry.services["api"]?=some e ∧
    DetectsExit (fun _ => samplePlatform) (departed 3) startedRegistry "api" e sampleTree := by
  obtain ⟨e,here,owner⟩ := startedRegistry_owner
  refine ⟨e,here,(detectsExit_iff _ (departed 3) _ startedRegistry_reachable "api" e here
    owner).mpr ?_⟩
  intro missed
  exact absurd missed.1.2 (by decide)

/-- The tree of a launcher that leaves with code 259 is retained although nothing is left of it. -/
theorem exit_259_missed : ¬∀(systems : String → Nat → WindowsSystem)
    (r : ServiceRegistry OwnedProcessTree) (serviceId : String)
    (e : ServiceEntry OwnedProcessTree) (tree : OwnedProcessTree),
    RegistryOp.Reachable Unit Unit r → r.services[serviceId]?=some e →
    e.runtime.process=some tree →
    DetectsExit (fun _ => samplePlatform) systems r serviceId e tree := by
  intro claim
  obtain ⟨e,here,owner⟩ := startedRegistry_owner
  have collides : sampleTree.Collides (departed 259 "api") := ⟨rfl,rfl⟩
  have empty : sampleTree.Empty (departed 259 "api") := rfl
  exact not_detectsExit startedRegistry_reachable.sound here owner collides empty
    (claim (departed 259) startedRegistry "api" e sampleTree startedRegistry_reachable here owner)

end Samples

end OwnedProcessTree

end AkuSupervisor
