import Mathlib.Data.List.Chain
import AkuSupervisor.Adapters.Config
import AkuSupervisor.Application.ControlCalls
import AkuSupervisor.Application.ShutdownOrder

namespace AkuSupervisor

namespace SupervisorConfig

variable {services : ServiceMap ServiceConfig}

/-- One service names the other among its dependencies. -/
def Names (services : ServiceMap ServiceConfig) (id dependency : String) : Prop :=
  ∃service,services[id]?=some service ∧ dependency∈service.dependsOn

/-- A way through the dependencies from a service back to itself. -/
def IsCycle (services : ServiceMap ServiceConfig) (cycle : List String) : Prop :=
  ∃id between,cycle=id::between++[id] ∧ cycle.IsChain (Names services)

/-- The services with their dependencies on other ones that are registered. -/
def dependencyGraph (services : ServiceMap ServiceConfig) : DependencyGraph String where
  registered := services.keys
  dependencies := fun id => services[id]?.map fun service => service.dependsOn.filter (·∈services)
  closed := by
    intro id deps here
    obtain ⟨service,found,-⟩ := Option.map_eq_some_iff.mp here
    rw [Std.ExtTreeMap.mem_keys,Std.ExtTreeMap.mem_iff_isSome_getElem?,found]
    rfl

theorem edge_dependencyGraph (id dependency : String) :
    (dependencyGraph services).Edge id dependency ↔
      Names services id dependency ∧ dependency∈services := by
  constructor
  · intro edge
    obtain ⟨deps,here,mem⟩ := edge
    obtain ⟨service,found,rfl⟩ := Option.map_eq_some_iff.mp here
    obtain ⟨named,registered⟩ := List.mem_filter.mp mem
    exact ⟨⟨service,found,named⟩,of_decide_eq_true registered⟩
  · intro both
    obtain ⟨⟨service,found,named⟩,registered⟩ := both
    exact ⟨_,Option.map_eq_some_iff.mpr ⟨service,found,rfl⟩,
      List.mem_filter.mpr ⟨named,decide_eq_true registered⟩⟩

/-- The marks of a search that is below the services of the path, and has left those of the order. -/
structure Marked (states : ServiceMap Nat) (path order : List String) : Prop where
  entered : ∀id,states[id]?.getD 0=1 ↔ id∈path
  left : ∀id,states[id]?.getD 0=2 ↔ id∈order

/-- The search for a cycle ends as the planning of a start order does. -/
def Agrees (services : ServiceMap ServiceConfig) (path : List String) :
    Except (DependencyGraph.Failure String) (List String) →
    Except (List String) (ServiceMap Nat) → Prop
  | .ok order,.ok states => Marked states path order
  | .error _,.error cycle => IsCycle services cycle
  | _,_ => False

theorem Marked.insert_entered {states : ServiceMap Nat} {path order : List String}
    (marked : Marked states path order) {id : String} (new : id∉order) :
    Marked (states.insert id 1) (id::path) order := by
  have lookup (other : String) : (states.insert id 1)[other]?.getD 0=
      if id=other then 1 else states[other]?.getD 0 := by
    rw [ServiceMap.lookup_insert]
    split_ifs <;> rfl
  refine ⟨fun other => ?_,fun other => ?_⟩
  · rw [lookup,List.mem_cons,← marked.entered]
    split_ifs with same
    · simp [same]
    · simp [Ne.symm same]
  · rw [lookup,← marked.left]
    split_ifs with same
    · subst same
      rw [marked.left]
      simp [new]
    · rfl

theorem Marked.insert_left {states : ServiceMap Nat} {path order : List String} {id : String}
    (marked : Marked states (id::path) order) (new : id∉path) :
    Marked (states.insert id 2) path (order++[id]) := by
  have lookup (other : String) : (states.insert id 2)[other]?.getD 0=
      if id=other then 2 else states[other]?.getD 0 := by
    rw [ServiceMap.lookup_insert]
    split_ifs <;> rfl
  refine ⟨fun other => ?_,fun other => ?_⟩
  · rw [lookup]
    split_ifs with same
    · subst same
      simp [new]
    · rw [marked.entered,List.mem_cons]
      simp [Ne.symm same]
  · rw [lookup,List.mem_append,← marked.left]
    split_ifs with same
    · simp [same]
    · simp [Ne.symm same]

theorem foldlM_agrees (path deps order : List String) (states : ServiceMap Nat)
    (visit : ServiceMap Nat → String → Except (List String) (ServiceMap Nat))
    (marked : Marked states path order)
    (each : ∀id∈deps,∀order states,Marked states path order →
      Agrees services path ((dependencyGraph services).visit path order id) (visit states id)) :
    Agrees services path (deps.foldlM ((dependencyGraph services).visit path) order)
      (deps.foldlM visit states) := by
  induction deps generalizing order states with
  | nil => exact marked
  | cons id deps ih =>
    have head := each id List.mem_cons_self order states marked
    rw [List.foldlM_cons,List.foldlM_cons]
    cases planned : (dependencyGraph services).visit path order id with
    | error failure =>
      cases searched : visit states id with
      | error cycle =>
        rw [planned,searched] at head
        exact head
      | ok states => simp [planned,searched,Agrees] at head
    | ok order =>
      cases searched : visit states id with
      | error cycle => simp [planned,searched,Agrees] at head
      | ok states =>
        rw [planned,searched] at head
        exact ih order states head fun other mem => each other (List.mem_cons_of_mem id mem)

theorem idxOf?_first {before : List String} (after : List String) {id : String}
    (first : id∉before) : (before++id::after).idxOf? id=some before.length := by
  induction before with
  | nil => simp [List.idxOf?_cons]
  | cons other before ih =>
    rw [List.mem_cons,not_or] at first
    rw [List.cons_append,List.idxOf?_cons,ih first.2]
    simp [Ne.symm first.1]

/-- Meeting a service of the stack again closes a way back to it. -/
theorem isCycle_of_entered {stack : List String} {id : String} (mem : id∈stack)
    (chain : (stack++[id]).IsChain (Names services)) :
    IsCycle services (stack.drop ((stack.idxOf? id).getD 0)++[id]) := by
  obtain ⟨before,after,rfl,first⟩ := List.eq_append_cons_of_mem mem
  rw [idxOf?_first after first,Option.getD_some,List.drop_left]
  refine ⟨id,after,rfl,?_⟩
  rw [List.append_assoc] at chain
  exact chain.suffix (List.suffix_append before _)

/-- The search below a service that has not been met. -/
theorem visit_fresh (fuel : Nat) (stack : List String) {states : ServiceMap Nat} {id : String}
    {service : ServiceConfig} (found : services[id]?=some service)
    (unentered : states[id]?.getD 0≠1) (unleft : states[id]?.getD 0≠2) :
    visit services (fuel+1) stack states id=(do
      let states ← (service.dependsOn.filter (·∈services)).foldlM
        (visit services fuel (stack++[id])) (states.insert id 1)
      return states.insert id 2) := by
  rw [visit,List.foldlM_filter,found]
  split
  · rename_i two
    exact absurd two unleft
  · rename_i one
    exact absurd one unentered
  · simp only [decide_eq_true_eq]
    rfl

theorem visit_agrees (fuel : Nat) (stack order : List String) (states : ServiceMap Nat)
    (id : String) (registered : id∈services) (marked : Marked states stack.reverse order)
    (chain : (stack++[id]).IsChain (Names services))
    (enough : (dependencyGraph services).ahead stack.reverse < fuel) :
    Agrees services stack.reverse ((dependencyGraph services).visit stack.reverse order id)
      (visit services fuel stack states id) := by
  induction fuel generalizing stack order states id with
  | zero => omega
  | succ fuel ih =>
    obtain ⟨service,found⟩ := (ServiceMap.mem_iff services id).mp registered
    rw [DependencyGraph.visit]
    by_cases done : id∈order
    · rw [if_pos done,visit,(marked.left id).mpr done]
      exact marked
    · rw [if_neg done]
      split
      · rename_i absent
        simp [dependencyGraph,found] at absent
      · rename_i deps here
        by_cases onPath : id∈stack.reverse
        · rw [dif_pos onPath,visit,(marked.entered id).mpr onPath]
          exact isCycle_of_entered (List.mem_reverse.mp onPath) chain
        · have deps_eq : service.dependsOn.filter (·∈services)=deps := by
            simpa [dependencyGraph,found] using here
          have unentered : states[id]?.getD 0≠1 := fun one => onPath ((marked.entered id).mp one)
          have unleft : states[id]?.getD 0≠2 := fun two => done ((marked.left id).mp two)
          have closer := (dependencyGraph services).ahead_lt stack.reverse id
            (Std.ExtTreeMap.mem_keys.mpr registered) onPath
          have path : (stack++[id]).reverse=id::stack.reverse := by simp
          have each : ∀other∈deps,∀order states,Marked states (id::stack.reverse) order →
              Agrees services (id::stack.reverse)
                ((dependencyGraph services).visit (id::stack.reverse) order other)
                (visit services fuel (stack++[id]) states other) := by
            intro other mem order states marked
            rw [← deps_eq] at mem
            obtain ⟨named,known⟩ := List.mem_filter.mp mem
            have longer : (stack++[id]++[other]).IsChain (Names services) := by
              refine List.isChain_append.mpr ⟨chain,.singleton other,?_⟩
              have edge : Names services id other := ⟨service,found,named⟩
              simpa using edge
            have agrees := ih (stack++[id]) order states other (of_decide_eq_true known)
              (path ▸ marked) longer (by rw [path]; omega)
            rwa [path] at agrees
          have below := foldlM_agrees (id::stack.reverse) deps order (states.insert id 1)
            (visit services fuel (stack++[id])) (marked.insert_entered done) each
          rw [dif_neg onPath,visit_fresh fuel stack found unentered unleft,deps_eq]
          cases planned : deps.foldlM ((dependencyGraph services).visit (id::stack.reverse)) order with
          | error failure =>
            cases searched : deps.foldlM (visit services fuel (stack++[id])) (states.insert id 1) with
            | error cycle =>
              rw [planned,searched] at below
              exact below
            | ok states => simp [planned,searched,Agrees] at below
          | ok order =>
            cases searched : deps.foldlM (visit services fuel (stack++[id])) (states.insert id 1) with
            | error cycle => simp [planned,searched,Agrees] at below
            | ok states =>
              rw [planned,searched] at below
              exact Marked.insert_left below onPath

/-- The whole search and the planning of a start order for all services. -/
theorem search_agrees (services : ServiceMap ServiceConfig) :
    Agrees services [] ((dependencyGraph services).order services.keys)
      (services.keys.foldlM (visit services (services.size+1) []) ∅) := by
  have unmarked : Marked ∅ [] [] := ⟨fun id => by simp,fun id => by simp⟩
  have all : (dependencyGraph services).ahead [] < services.size+1 := by
    have length := List.length_filter_le (·∉([] : List String)) services.keys
    rw [Std.ExtTreeMap.length_keys] at length
    exact Nat.lt_succ_of_le length
  exact foldlM_agrees [] services.keys [] ∅ (visit services (services.size+1) []) unmarked
    fun id mem order states marked => visit_agrees (services.size+1) [] order states id
      (Std.ExtTreeMap.mem_keys.mp mem) marked (.singleton id) all

theorem Names.registered {id dependency : String} (names : Names services id dependency) :
    id∈services := by
  obtain ⟨service,found,-⟩ := names
  exact (ServiceMap.mem_iff services id).mpr ⟨service,found⟩

theorem mem_of_transGen {id dependency : String}
    (path : Relation.TransGen (Names services) id dependency) : id∈services := by
  obtain ⟨next,first,-⟩ := Relation.TransGen.head'_iff.mp path
  exact first.registered

/-- A way back to a service passes through registered services only. -/
theorem transGen_names_iff (id : String) :
    Relation.TransGen (dependencyGraph services).Edge id id ↔
      Relation.TransGen (Names services) id id := by
  constructor
  · exact fun path => path.lift (fun a => a) fun a b edge => ((edge_dependencyGraph a b).mp edge).1
  · intro path
    have lifted (a b : String) (path : Relation.TransGen (Names services) a b) (here : b∈services) :
        Relation.TransGen (dependencyGraph services).Edge a b := by
      induction path with
      | single names => exact .single ((edge_dependencyGraph _ _).mpr ⟨names,here⟩)
      | tail _ names ih =>
        exact .tail (ih names.registered) ((edge_dependencyGraph _ _).mpr ⟨names,here⟩)
    exact lifted id id path (mem_of_transGen path)

theorem isCycle_of_dependencyCycle {cycle : List String}
    (found : dependencyCycle services=some cycle) : IsCycle services cycle := by
  have agrees := search_agrees services
  unfold dependencyCycle at found
  cases searched : services.keys.foldlM (visit services (services.size+1) []) ∅ with
  | ok states => simp [searched] at found
  | error path =>
    rw [searched] at found agrees
    cases found
    cases planned : (dependencyGraph services).order services.keys with
    | ok order => simp [planned,Agrees] at agrees
    | error failure =>
      rw [planned] at agrees
      exact agrees

theorem dependencyCycle_eq_none_iff :
    dependencyCycle services=none ↔ ∀id,¬Relation.TransGen (Names services) id id := by
  have agrees := search_agrees services
  have planned : dependencyCycle services=none ↔
      ∃order,(dependencyGraph services).order services.keys=.ok order := by
    unfold dependencyCycle
    cases searched : services.keys.foldlM (visit services (services.size+1) []) ∅ with
    | ok states =>
      cases ordered : (dependencyGraph services).order services.keys with
      | ok order => simp
      | error failure => simp [searched,ordered,Agrees] at agrees
    | error path =>
      cases ordered : (dependencyGraph services).order services.keys with
      | ok order => simp [searched,ordered,Agrees] at agrees
      | error failure => simp
  rw [planned,DependencyGraph.order_isOk_iff]
  constructor
  · intro sound id path
    have needed : (dependencyGraph services).Needs services.keys id :=
      ⟨id,Std.ExtTreeMap.mem_keys.mpr (mem_of_transGen path),.refl⟩
    exact (sound id needed).2 ((transGen_names_iff id).mpr path)
  · intro acyclic id needed
    obtain ⟨source,mem,path⟩ := needed
    have registered : id∈services := by
      obtain rfl | ⟨before,-,edge⟩ := Relation.ReflTransGen.cases_tail_iff _ source id |>.mp path
      · exact Std.ExtTreeMap.mem_keys.mp mem
      · exact ((edge_dependencyGraph before id).mp edge).2
    obtain ⟨service,found⟩ := (ServiceMap.mem_iff services id).mp registered
    refine ⟨?_,fun cycle => acyclic id ((transGen_names_iff id).mp cycle)⟩
    simp [dependencyGraph,found]

theorem registered_of_dependencyIssues {id : String} {unique deps : List String}
    (clean : dependencyIssues services id unique deps=[]) : ∀dependency∈deps,dependency∈services := by
  induction deps generalizing unique with
  | nil => simp
  | cons dependency deps ih =>
    intro other mem
    simp only [dependencyIssues,List.append_eq_nil_iff] at clean
    obtain ⟨⟨first,-⟩,later⟩ := clean
    obtain rfl | mem := List.mem_cons.mp mem
    · split_ifs at first with own
      simpa [issueIf] using first
    · exact ih later other mem

/-- Without issues, all dependencies are registered and none of them lead back. -/
theorem validateServiceDependencies_eq_nil (valid : validateServiceDependencies services=[]) :
    (∀id dependency,Names services id dependency → dependency∈services) ∧
      ∀id,¬Relation.TransGen (Names services) id id := by
  unfold validateServiceDependencies at valid
  obtain ⟨declared,searched⟩ := List.append_eq_nil_iff.mp valid
  constructor
  · intro id dependency names
    obtain ⟨service,found,mem⟩ := names
    have clean := List.flatMap_eq_nil_iff.mp declared (id,service)
      (Std.ExtTreeMap.mem_toList_iff_getElem?_eq_some.mpr found)
    exact registered_of_dependencyIssues clean dependency mem
  · apply dependencyCycle_eq_none_iff.mp
    cases found : dependencyCycle services with
    | none => rfl
    | some cycle => simp [found] at searched

end SupervisorConfig

/-- Snapshots of all the services, each of them once. -/
structure SnapshotsOf (services : ServiceMap ServiceConfig) (snapshots : List ServiceSnapshot) :
    Prop where
  unique : (snapshots.map (·.id)).Nodup
  each : ∀snapshot∈snapshots,∃service,services[snapshot.id]?=some service ∧
    snapshot.dependsOn=service.dependsOn
  all : ∀id∈services,id∈snapshots.map (·.id)

namespace SnapshotsOf

variable {services : ServiceMap ServiceConfig} {snapshots : List ServiceSnapshot}

theorem mem_iff (of : SnapshotsOf services snapshots) (id : String) :
    id∈snapshots.map (·.id) ↔ id∈services := by
  refine ⟨fun mem => ?_,of.all id⟩
  obtain ⟨snapshot,here,rfl⟩ := List.mem_map.mp mem
  obtain ⟨service,found,-⟩ := of.each snapshot here
  exact (ServiceMap.mem_iff services snapshot.id).mpr ⟨service,found⟩

theorem dependsOn (of : SnapshotsOf services snapshots) :
    DependsOn snapshots=SupervisorConfig.Names services := by
  funext id dependency
  refine propext ⟨?_,?_⟩
  · intro depends
    obtain ⟨snapshot,mem,rfl,named⟩ := depends
    obtain ⟨service,found,same⟩ := of.each snapshot mem
    exact ⟨service,found,same ▸ named⟩
  · intro names
    obtain ⟨service,found,named⟩ := names
    have registered := (ServiceMap.mem_iff services id).mpr ⟨service,found⟩
    obtain ⟨snapshot,mem,rfl⟩ := List.mem_map.mp (of.all id registered)
    obtain ⟨other,found',same⟩ := of.each snapshot mem
    rw [found] at found'
    cases found'
    exact ⟨snapshot,mem,rfl,same ▸ named⟩

/-- Without issues, every start of registered services can be planned. -/
theorem stableStartOrder_total (of : SnapshotsOf services snapshots)
    (valid : SupervisorConfig.validateServiceDependencies services=[]) (requested : List String)
    (known : ∀id∈requested,id∈services) :
    ∃order,stableStartOrder snapshots requested=.ok order := by
  obtain ⟨registered,acyclic⟩ := SupervisorConfig.validateServiceDependencies_eq_nil valid
  rw [stableStartOrder_isOk snapshots of.unique,of.dependsOn]
  intro id needed
  obtain ⟨source,mem,path⟩ := needed
  rw [of.dependsOn] at path
  have here : id∈services := by
    obtain rfl | ⟨before,-,names⟩ := Relation.ReflTransGen.cases_tail_iff _ source id |>.mp path
    · exact known id mem
    · exact registered before id names
  exact ⟨List.mem_map.mp (of.all id here),acyclic id⟩

end SnapshotsOf

/-- The validation of the dependencies reports a cycle just if there is one, and the one it reports
is real. Without issues, both orders can be planned: that to start any of the services, and that to
stop all of them. -/
theorem dependencyCycle_makes_planning_total (services : ServiceMap ServiceConfig) :
    ((∃cycle,SupervisorConfig.dependencyCycle services=some cycle) ↔
      ∃id,Relation.TransGen (SupervisorConfig.Names services) id id) ∧
    (∀cycle,SupervisorConfig.dependencyCycle services=some cycle →
      SupervisorConfig.IsCycle services cycle) ∧
    (SupervisorConfig.validateServiceDependencies services=[] →
      ∀snapshots,SnapshotsOf services snapshots →
        (∀requested,(∀id∈requested,id∈services) →
          ∃order,stableStartOrder snapshots requested=.ok order) ∧
        ∃order,stableShutdownOrder snapshots=.ok order) := by
  refine ⟨?_,fun cycle => SupervisorConfig.isCycle_of_dependencyCycle,?_⟩
  · rw [← Option.ne_none_iff_exists',ne_eq,SupervisorConfig.dependencyCycle_eq_none_iff]
    push Not
    rfl
  intro valid snapshots of
  obtain ⟨registered,acyclic⟩ := SupervisorConfig.validateServiceDependencies_eq_nil valid
  constructor
  · exact of.stableStartOrder_total valid
  · have shutdownEdges := (edge_dependencyEdges snapshots).trans of.dependsOn
    have closed : ReadyOrder.Closed (snapshots.map (·.id)) (dependencyEdges snapshots) := by
      intro edge mem
      have names : SupervisorConfig.Names services edge.1 edge.2 := by
        rw [← shutdownEdges]
        exact mem
      exact ⟨(of.mem_iff edge.1).mpr names.registered,
        (of.mem_iff edge.2).mpr (registered edge.1 edge.2 names)⟩
    obtain ⟨ids,ordered⟩ := ReadyOrder.order_isOk
      (fun id => (positions snapshots)[id]?.getD (UInt64.size-1)) of.unique closed
      (by rw [shutdownEdges]; exact acyclic)
    exact ⟨ids,by rw [stableShutdownOrder,shutdownPlan,ordered]; rfl⟩

section Fixture

open DependencyAwareControl (fixtureSnapshot)

def fixtureDependent (dependencies : List String) : ServiceConfig :=
  { label := "service"
    cwd := "/srv"
    command := "/srv/server"
    args := []
    environment := ∅
    dependsOn := dependencies
    startupPrerequisites := []
    health := .process
    ports := []
    restartPolicy := .manual
    shutdownGraceMs := 5000 }

/-- Two services that both need a third one, and one of them the other. -/
def fixtureDependents : ServiceMap ServiceConfig :=
  .ofList [("api",fixtureDependent ["db"]),("db",fixtureDependent []),
    ("web",fixtureDependent ["api","db"])]

def fixtureDependentSnapshots : List ServiceSnapshot :=
  [fixtureSnapshot "web" ["api","db"],fixtureSnapshot "db" [],fixtureSnapshot "api" ["db"]]

theorem snapshotsOf_fixtureDependents :
    SnapshotsOf fixtureDependents fixtureDependentSnapshots := by
  have valid : (fixtureDependentSnapshots.map (·.id)).Nodup ∧
      (∀snapshot∈fixtureDependentSnapshots,
        (fixtureDependents[snapshot.id]?.map (·.dependsOn))=some snapshot.dependsOn) ∧
      ∀id∈fixtureDependents.keys,id∈fixtureDependentSnapshots.map (·.id) := by
    decide +kernel
  obtain ⟨unique,each,all⟩ := valid
  refine ⟨unique,fun snapshot mem => ?_,fun id mem => all id (Std.ExtTreeMap.mem_keys.mpr mem)⟩
  obtain ⟨service,found,same⟩ := Option.map_eq_some_iff.mp (each snapshot mem)
  exact ⟨service,found,same.symm⟩

theorem dependencyCycle_makes_planning_total_web :
    (∃order,stableStartOrder fixtureDependentSnapshots ["web","db"]=.ok order) ∧
      ∃order,stableShutdownOrder fixtureDependentSnapshots=.ok order := by
  have valid : SupervisorConfig.validateServiceDependencies fixtureDependents=[] ∧
      ∀id∈["web","db"],id∈fixtureDependents := by
    decide +kernel
  obtain ⟨clean,known⟩ := valid
  obtain ⟨start,shutdown⟩ := (dependencyCycle_makes_planning_total fixtureDependents).2.2 clean
    fixtureDependentSnapshots snapshotsOf_fixtureDependents
  exact ⟨start ["web","db"] known,shutdown⟩

end Fixture

end AkuSupervisor
