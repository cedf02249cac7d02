import AkuSupervisor.Lib.ReadyOrder
import AkuSupervisor.Application.ControlCalls
import AkuSupervisor.Application.LaunchOrder

namespace AkuSupervisor

/-- Where each service stands among the snapshots. -/
def positions (snapshots : List ServiceSnapshot) : ServiceMap Nat :=
  snapshots.zipIdx.foldl (fun positions entry => positions.insert entry.1.id entry.2) ∅

/-- Every service with each of its dependencies. -/
def dependencyEdges (snapshots : List ServiceSnapshot) : List (String × String) :=
  snapshots.flatMap fun snapshot => snapshot.dependsOn.map (snapshot.id,·)

def shutdownPlanError : ReadyOrder.Failure String → ControlError
  | .missing serviceId => .serviceNotFound serviceId
  | .cycle => .internal "service dependency cycle reached while planning shutdown"
  | .underflow => .internal "attempt to subtract with overflow"

def shutdownPlan (snapshots : List ServiceSnapshot) :
    Except (ReadyOrder.Failure String) (List String) :=
  ReadyOrder.order (fun id => (positions snapshots)[id]?.getD (UInt64.size-1))
    (snapshots.map (·.id)) (dependencyEdges snapshots)

/-- A stable dependent-before-dependency order for graceful cleanup. Services without an ordering
relationship keep the order of their snapshots. -/
def stableShutdownOrder (snapshots : List ServiceSnapshot) : Except ControlError (List String) :=
  (shutdownPlan snapshots).mapError shutdownPlanError

theorem edge_dependencyEdges (snapshots : List ServiceSnapshot) :
    ReadyOrder.Edge (dependencyEdges snapshots)=DependsOn snapshots := by
  funext id dependency
  simp only [ReadyOrder.Edge,dependencyEdges,DependsOn,List.mem_flatMap,List.mem_map,
    Prod.mk.injEq,eq_iff_iff]
  constructor
  · intro h
    obtain ⟨snapshot,mem,dependency,depends,rfl,rfl⟩ := h
    exact ⟨snapshot,mem,rfl,depends⟩
  · intro h
    obtain ⟨snapshot,mem,rfl,depends⟩ := h
    exact ⟨snapshot,mem,dependency,depends,rfl,rfl⟩

/-- The position of a service is where its snapshot stands. -/
theorem positions_idxOf (snapshots : List ServiceSnapshot)
    (unique : (snapshots.map (·.id)).Nodup) (id : String) (here : id∈snapshots.map (·.id)) :
    (positions snapshots)[id]?=some ((snapshots.map (·.id)).idxOf id) := by
  induction snapshots using List.reverseRecOn with
  | nil => simp at here
  | append_singleton snapshots last ih =>
    have next : positions (snapshots++[last])=
        (positions snapshots).insert last.id snapshots.length := by
      simp [positions,List.zipIdx_append,List.foldl_append]
    rw [next,ServiceMap.lookup_insert,List.map_append,List.map_singleton]
    rw [List.map_append,List.map_singleton,List.nodup_append] at unique
    by_cases same : last.id=id
    · subst same
      have new : last.id∉snapshots.map (·.id) := fun old =>
        unique.2.2 last.id old last.id (by simp) rfl
      rw [if_pos rfl,List.idxOf_append_of_notMem new]
      simp
    · have earlier : id∈snapshots.map (·.id) := by
        simpa [Ne.symm same] using here
      rw [if_neg same,ih unique.1 earlier,List.idxOf_append_of_mem earlier]

/-- An order of all the services in which each comes after those that depend on it. -/
structure ShutsDown (snapshots : List ServiceSnapshot) (ids : List String) : Prop where
  perm : ids.Perm (snapshots.map (·.id))
  dependents : ∀before id after,ids=before++id::after →
    ∀dependent,DependsOn snapshots dependent id → dependent∈before

/-- Where the services of an order stand among the snapshots. -/
def standing (snapshots : List ServiceSnapshot) (ids : List String) : List Nat :=
  ids.map ((snapshots.map (·.id)).idxOf ·)

theorem closed_dependencyEdges (snapshots : List ServiceSnapshot) :
    ReadyOrder.Closed (snapshots.map (·.id)) (dependencyEdges snapshots) ↔
      ∀snapshot∈snapshots,∀dependency∈snapshot.dependsOn,dependency∈snapshots.map (·.id) := by
  simp only [ReadyOrder.Closed,dependencyEdges,List.mem_flatMap,List.mem_map]
  constructor
  · intro closed snapshot mem dependency depends
    exact (closed (snapshot.id,dependency) ⟨snapshot,mem,dependency,depends,rfl⟩).2
  · intro all edge mem
    obtain ⟨snapshot,mem,dependency,depends,rfl⟩ := mem
    exact ⟨⟨snapshot,mem,rfl⟩,all snapshot mem dependency depends⟩

theorem stableShutdownOrder_ok (snapshots : List ServiceSnapshot) (ids : List String) :
    stableShutdownOrder snapshots=.ok ids ↔ shutdownPlan snapshots=.ok ids := by
  unfold stableShutdownOrder
  cases shutdownPlan snapshots <;> simp [Except.mapError]

/-- Shutdown can be ordered unless a dependency is not registered or the dependencies run in a
cycle. The order is the least one, by the places of the snapshots, in which dependents come
first, and no count of dependents is taken below zero. -/
theorem stableShutdownOrder_specified (snapshots : List ServiceSnapshot)
    (unique : (snapshots.map (·.id)).Nodup) :
    ((∃error,stableShutdownOrder snapshots=.error error) ↔
      (∃snapshot∈snapshots,∃dependency∈snapshot.dependsOn,dependency∉snapshots.map (·.id)) ∨
        ∃id,Relation.TransGen (DependsOn snapshots) id id) ∧
    (∀ids,stableShutdownOrder snapshots=.ok ids → ShutsDown snapshots ids ∧
      ∀other,ShutsDown snapshots other →
        other=ids ∨ standing snapshots ids < standing snapshots other) ∧
    shutdownPlan snapshots≠.error .underflow := by
  have sources : ∀edge∈dependencyEdges snapshots,edge.1∈snapshots.map (·.id) := by
    intro edge mem
    obtain ⟨snapshot,known,listed⟩ := List.mem_flatMap.mp mem
    obtain ⟨dependency,-,rfl⟩ := List.mem_map.mp listed
    exact List.mem_map_of_mem known
  have exact := ReadyOrder.order_exact
    (fun id => (positions snapshots)[id]?.getD (UInt64.size-1)) unique sources
  have edges := edge_dependencyEdges snapshots
  refine ⟨?_,?_,exact.2⟩
  · have failed : (∃error,stableShutdownOrder snapshots=.error error) ↔
        ∃failure,shutdownPlan snapshots=.error failure := by
      unfold stableShutdownOrder
      cases shutdownPlan snapshots <;> simp [Except.mapError]
    rw [failed]
    refine exact.1.trans ?_
    rw [edges,closed_dependencyEdges]
    push Not
    rfl
  · intro ids ordered
    have planned := (stableShutdownOrder_ok snapshots ids).mp ordered
    have closed : ReadyOrder.Closed (snapshots.map (·.id)) (dependencyEdges snapshots) := by
      by_contra dangling
      obtain ⟨failure,failed⟩ := exact.1.mpr (.inl dangling)
      cases planned.symm.trans failed
    have place (id : String) (here : id∈snapshots.map (·.id)) :
        (positions snapshots)[id]?.getD (UInt64.size-1)=(snapshots.map (·.id)).idxOf id := by
      rw [positions_idxOf snapshots unique id here,Option.getD_some]
    have respects (ids : List String) : ReadyOrder.Sources (dependencyEdges snapshots) ids ↔
        ∀before id after,ids=before++id::after →
          ∀dependent,DependsOn snapshots dependent id → dependent∈before := by
      rw [← edges]
      rfl
    obtain ⟨perm,first⟩ := ReadyOrder.order_ok _ unique closed ids planned
    refine ⟨⟨perm,(respects ids).mp first⟩,?_⟩
    intro other shuts
    have least := ReadyOrder.order_least _ unique closed ?_ ids planned other shuts.perm
      ((respects other).mpr shuts.dependents)
    · have standing_eq (ids : List String) (perm : ids.Perm (snapshots.map (·.id))) :
          ids.map (fun id => (positions snapshots)[id]?.getD (UInt64.size-1))=
            standing snapshots ids := by
        refine List.map_congr_left fun id mem => ?_
        exact place id (perm.mem_iff.mp mem)
      rwa [standing_eq ids perm,standing_eq other shuts.perm] at least
    · intro a known b target same
      rw [place a known,place b target] at same
      exact (List.idxOf_inj target).mp same

open DependencyAwareControl (fixtureSnapshot)

def fixtureTwiceNamed : List ServiceSnapshot :=
  [fixtureSnapshot "database" [],fixtureSnapshot "api" ["database","database"]]

theorem stableShutdownOrder_twice :
    stableShutdownOrder fixtureTwiceNamed=.ok ["api","database"] ∧
      ShutsDown fixtureTwiceNamed ["api","database"] ∧
      shutdownPlan fixtureTwiceNamed≠.error .underflow := by
  have ordered : stableShutdownOrder fixtureTwiceNamed=.ok ["api","database"] := by
    decide +kernel
  have specified := stableShutdownOrder_specified fixtureTwiceNamed (by decide)
  exact ⟨ordered,(specified.2.1 _ ordered).1,specified.2.2⟩

/-- Every service once, after all that depend on it. -/
structure IsShutdownOrder {P : Type} (r : ServiceRegistry P) (ids : List String) : Prop where
  nodup : ids.Nodup
  all : ∀id,id∈ids ↔ id∈r.services
  sorted : ids.Pairwise fun id later => ¬Relation.TransGen r.DependsOn later id

section Registry

variable {P E Q : Type}

/-- What a valid registry's snapshots tell can be put in order. -/
theorem stableShutdownOrder_valid (r : ServiceRegistry P) (sound : r.Sound) (valid : r.Valid)
    (platforms : String → Platform P E Q) (snapshots : List ServiceSnapshot)
    (seen : ServiceRegistry.snapshots platforms r=.ok snapshots) :
    ∃ids,stableShutdownOrder snapshots=.ok ids ∧ IsShutdownOrder r ids := by
  obtain ⟨nodup,same⟩ := ServiceRegistry.dependsOn_snapshots r sound snapshots platforms seen
  have edges := (edge_dependencyEdges snapshots).trans same
  have listed (id : String) : id∈snapshots.map (·.id) ↔ id∈r.services := by
    rw [(r.snapshots_ok platforms sound snapshots seen).1,Std.ExtTreeMap.mem_keys]
  have closed : ReadyOrder.Closed (snapshots.map (·.id)) (dependencyEdges snapshots) := by
    intro edge mem
    have depends : r.DependsOn edge.1 edge.2 := by
      rw [← edges]
      exact mem
    have target := valid.registered edge.1 edge.2 depends
    obtain ⟨e,here,-⟩ := depends
    have source := (ServiceMap.mem_iff r.services edge.1).mpr ⟨e,here⟩
    exact ⟨(listed edge.1).mpr source,(listed edge.2).mpr target⟩
  obtain ⟨ids,ordered⟩ := ReadyOrder.order_isOk
    (fun id => (positions snapshots)[id]?.getD (UInt64.size-1)) nodup closed
    (by rw [edges]; exact valid.acyclic)
  obtain ⟨perm,sources⟩ := ReadyOrder.order_ok _ nodup closed ids ordered
  have unique := perm.nodup_iff.mpr nodup
  refine ⟨ids,by rw [stableShutdownOrder,shutdownPlan,ordered]; rfl,unique,?_,?_⟩
  · intro id
    rw [perm.mem_iff,listed]
  · rw [← edges]
    exact sources.pairwise unique

end Registry

end AkuSupervisor
