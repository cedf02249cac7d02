import AkuSupervisor.Adapters.ConfigDependencies

namespace AkuSupervisor

/-- The requested services, each of them once. -/
def uniqueRequested (services : ServiceMap ServiceConfig) (requested : List String) :
    Except String (List String) :=
  requested.foldlM (fun unique serviceId =>
    if serviceId∉services then .error s!"service not found in configuration: {serviceId}"
    else .ok (if serviceId∈unique then unique else unique++[serviceId])) []

/-- The services with their dependencies on requested ones, which alone are followed. -/
def requestedGraph (services : ServiceMap ServiceConfig) (requested : List String) :
    DependencyGraph String where
  registered := services.keys
  dependencies := fun id => services[id]?.map fun service => service.dependsOn.filter (·∈requested)
  closed := by
    intro id deps here
    obtain ⟨service,found,-⟩ := Option.map_eq_some_iff.mp here
    exact Std.ExtTreeMap.mem_keys.mpr ((ServiceMap.mem_iff services id).mpr ⟨service,found⟩)

/-- Each requested service with its dependencies on requested ones. -/
def requestedEdges (services : ServiceMap ServiceConfig) (requested : List String) :
    List (String × String) :=
  requested.flatMap fun id =>
    (((services[id]?.map ServiceConfig.dependsOn).getD []).filter (·∈requested)).map (id,·)

def batchStartError : DependencyGraph.Failure String → String
  | .missing _ => "service IDs were validated above"
  | .cycle serviceId => s!"service dependency cycle reached at {serviceId}"

def batchStopError : ReadyOrder.Failure String → String
  | .missing _ => "requested dependency should have a position"
  | .cycle => "service dependency cycle reached while ordering batch mutation"
  | .underflow => "attempt to subtract with overflow"

/-- The order in which the services of one command are mutated. -/
def orderMutationServiceIds (services : ServiceMap ServiceConfig) (requested : List String)
    (action : ControlAction) : Except String (List String) := do
  let unique ← uniqueRequested services requested
  if unique=[] then throw "at least one service ID is required"
  if action≠.stop then
    ((requestedGraph services unique).order unique).mapError batchStartError
  else
    (ReadyOrder.order (fun id => (unique.idxOf? id).getD (UInt64.size-1)) unique
      (requestedEdges services unique)).mapError batchStopError

/-- One requested service names another one among its dependencies. -/
def NamesAmong (services : ServiceMap ServiceConfig) (requested : List String)
    (id dependency : String) : Prop :=
  SupervisorConfig.Names services id dependency ∧ id∈requested ∧ dependency∈requested

section Order

variable {services : ServiceMap ServiceConfig} {requested unique order : List String}

theorem uniqueRequested_ok (registered : ∀id∈requested,id∈services) :
    ∃unique,uniqueRequested services requested=.ok unique ∧ unique.Nodup ∧
      ∀id,id∈unique ↔ id∈requested := by
  have folded (requested unique : List String) (registered : ∀id∈requested,id∈services)
      (nodup : unique.Nodup) :
      ∃all,requested.foldlM (fun unique serviceId =>
          if serviceId∉services then
            Except.error s!"service not found in configuration: {serviceId}"
          else .ok (if serviceId∈unique then unique else unique++[serviceId])) unique=.ok all ∧
        all.Nodup ∧ ∀id,id∈all ↔ id∈unique ∨ id∈requested := by
    induction requested generalizing unique with
    | nil => exact ⟨unique,rfl,nodup,by simp⟩
    | cons id requested ih =>
      have here := registered id List.mem_cons_self
      have later := fun other mem => registered other (List.mem_cons_of_mem id mem)
      rw [List.foldlM_cons,if_neg (not_not.mpr here)]
      by_cases known : id∈unique
      · rw [if_pos known]
        obtain ⟨all,run,distinct,mem⟩ := ih unique later nodup
        refine ⟨all,run,distinct,fun other => ?_⟩
        rw [mem,List.mem_cons]
        constructor
        · tauto
        · intro either
          obtain old | rfl | new := either
          · exact .inl old
          · exact .inl known
          · exact .inr new
      · rw [if_neg known]
        obtain ⟨all,run,distinct,mem⟩ := ih (unique++[id]) later
          (by simp [List.nodup_append,nodup]; exact fun other mem same => known (same ▸ mem))
        refine ⟨all,run,distinct,fun other => ?_⟩
        rw [mem,List.mem_append,List.mem_singleton,List.mem_cons]
        tauto
  obtain ⟨unique,run,nodup,mem⟩ := folded requested [] registered List.nodup_nil
  exact ⟨unique,run,nodup,fun id => by simp [mem]⟩

theorem edge_requestedGraph (id dependency : String) :
    (requestedGraph services requested).Edge id dependency ↔
      SupervisorConfig.Names services id dependency ∧ dependency∈requested := by
  constructor
  · intro edge
    obtain ⟨deps,here,mem⟩ := edge
    obtain ⟨service,found,rfl⟩ := Option.map_eq_some_iff.mp here
    obtain ⟨named,asked⟩ := List.mem_filter.mp mem
    exact ⟨⟨service,found,named⟩,of_decide_eq_true asked⟩
  · intro both
    obtain ⟨⟨service,found,named⟩,asked⟩ := both
    exact ⟨_,Option.map_eq_some_iff.mpr ⟨service,found,rfl⟩,
      List.mem_filter.mpr ⟨named,decide_eq_true asked⟩⟩

theorem edge_requestedEdges :
    ReadyOrder.Edge (requestedEdges services requested)=NamesAmong services requested := by
  funext id dependency
  refine propext ⟨?_,?_⟩
  · intro edge
    obtain ⟨source,asked,mem⟩ := List.mem_flatMap.mp edge
    obtain ⟨target,here,same⟩ := List.mem_map.mp mem
    cases same
    obtain ⟨named,asked'⟩ := List.mem_filter.mp here
    cases found : services[id]? with
    | none => simp [found] at named
    | some service =>
      rw [found] at named
      exact ⟨⟨service,found,named⟩,asked,of_decide_eq_true asked'⟩
  · intro names
    obtain ⟨⟨service,found,named⟩,asked,asked'⟩ := names
    refine List.mem_flatMap.mpr ⟨id,asked,List.mem_map.mpr ⟨dependency,?_,rfl⟩⟩
    rw [found]
    exact List.mem_filter.mpr ⟨named,decide_eq_true asked'⟩

theorem pair_sublist {α : Type} {a b : α} {before : List α} (after : List α) (mem : a∈before) :
    [a,b].Sublist (before++b::after) :=
  (List.singleton_sublist.mpr mem).append
    (List.cons_sublist_cons.mpr (List.nil_sublist after))

theorem NamesAmong.transGen {id dependency : String}
    (path : Relation.TransGen (NamesAmong services requested) id dependency) :
    Relation.TransGen (SupervisorConfig.Names services) id dependency ∧ id∈requested ∧
      dependency∈requested := by
  induction path with
  | single names => exact ⟨.single names.1,names.2⟩
  | tail _ names ih => exact ⟨ih.1.tail names.1,ih.2.1,names.2.2⟩

/-- The services that are visited are the requested ones, each after its dependencies. -/
theorem start_order (registered : ∀id∈unique,id∈services)
    (acyclic : ∀id,¬Relation.TransGen (SupervisorConfig.Names services) id id) :
    ∃order,(requestedGraph services unique).order unique=.ok order ∧ order.Nodup ∧
      (∀id,id∈order ↔ id∈unique) ∧ ∀id dependency,
        Relation.TransGen (NamesAmong services unique) id dependency →
        [dependency,id].Sublist order := by
  have needs (id : String) : (requestedGraph services unique).Needs unique id ↔ id∈unique := by
    constructor
    · intro needed
      obtain ⟨source,mem,path⟩ := needed
      obtain rfl | ⟨before,-,edge⟩ := Relation.ReflTransGen.cases_tail_iff _ source id |>.mp path
      · exact mem
      · exact ((edge_requestedGraph before id).mp edge).2
    · exact fun mem => ⟨id,mem,.refl⟩
  have sound : ∃order,(requestedGraph services unique).order unique=.ok order := by
    rw [DependencyGraph.order_isOk_iff]
    intro id needed
    obtain ⟨service,found⟩ := (ServiceMap.mem_iff services id).mp
      (registered id ((needs id).mp needed))
    refine ⟨by simp [requestedGraph,found],fun cycle => acyclic id ?_⟩
    exact cycle.lift (fun a => a) fun a b edge => ((edge_requestedGraph a b).mp edge).1
  obtain ⟨order,planned⟩ := sound
  obtain ⟨nodup,closed,mem⟩ := DependencyGraph.order_ok unique order planned
  refine ⟨order,planned,nodup,fun id => (mem id).trans (needs id),fun id dependency path => ?_⟩
  have here : id∈order := (mem id).mpr ((needs id).mpr (NamesAmong.transGen path).2.1)
  obtain ⟨before,after,split⟩ := List.append_of_mem here
  have edges : Relation.TransGen (requestedGraph services unique).Edge id dependency :=
    path.lift (fun a => a) fun a b names => (edge_requestedGraph a b).mpr ⟨names.1,names.2.2⟩
  rw [split]
  exact pair_sublist after (closed.transGen split edges)

/-- The services are stopped each before its dependencies. -/
theorem stop_order (position : String → Nat) (nodup : unique.Nodup)
    (acyclic : ∀id,¬Relation.TransGen (SupervisorConfig.Names services) id id) :
    ∃order,ReadyOrder.order position unique (requestedEdges services unique)=.ok order ∧
      order.Nodup ∧ (∀id,id∈order ↔ id∈unique) ∧ ∀id dependency,
        Relation.TransGen (NamesAmong services unique) id dependency →
        [id,dependency].Sublist order := by
  have closed : ReadyOrder.Closed unique (requestedEdges services unique) := by
    intro edge mem
    have names : NamesAmong services unique edge.1 edge.2 := by
      rw [← edge_requestedEdges]
      exact mem
    exact names.2
  obtain ⟨order,planned⟩ := ReadyOrder.order_isOk position nodup closed (by
    intro id cycle
    rw [edge_requestedEdges] at cycle
    exact acyclic id (NamesAmong.transGen cycle).1)
  obtain ⟨perm,sources⟩ := ReadyOrder.order_ok position nodup closed order planned
  refine ⟨order,planned,perm.nodup_iff.mpr nodup,fun id => perm.mem_iff,fun id dependency path => ?_⟩
  have here : dependency∈order := perm.mem_iff.mpr (NamesAmong.transGen path).2.2
  obtain ⟨before,after,split⟩ := List.append_of_mem here
  rw [← edge_requestedEdges] at path
  have earlier := sources.transGen split path
  rw [split]
  exact pair_sublist after earlier

end Order

/-- A batch of registered services is ordered, whatever the action: each of them comes once, stopped
before and started after those it depends on through the services of the batch. -/
theorem orderMutationServiceIds_respects (services : ServiceMap ServiceConfig)
    (acyclic : ∀id,¬Relation.TransGen (SupervisorConfig.Names services) id id)
    (requested : List String) (nonempty : requested≠[])
    (registered : ∀id∈requested,id∈services) (action : ControlAction) :
    ∃order,orderMutationServiceIds services requested action=.ok order ∧ order.Nodup ∧
      (∀id,id∈order ↔ id∈requested) ∧
      ∀id dependency,Relation.TransGen (NamesAmong services requested) id dependency →
        (if action=.stop then [id,dependency] else [dependency,id]).Sublist order := by
  obtain ⟨unique,run,nodup,mem⟩ := uniqueRequested_ok registered
  have some : unique≠[] := by
    obtain ⟨id,here⟩ := List.exists_mem_of_ne_nil requested nonempty
    exact List.ne_nil_of_mem ((mem id).mpr here)
  have among : NamesAmong services requested=NamesAmong services unique := by
    funext id dependency
    simp only [NamesAmong,mem]
  rw [among]
  unfold orderMutationServiceIds
  simp only [run,bind,Except.bind,if_neg some]
  by_cases stops : action=.stop
  · obtain ⟨order,planned,distinct,all,sorted⟩ :=
      stop_order (fun id => (unique.idxOf? id).getD (UInt64.size-1)) nodup acyclic
    refine ⟨order,?_,distinct,fun id => (all id).trans (mem id),fun id dependency path => ?_⟩
    · rw [if_neg (not_not.mpr stops),planned]
      rfl
    · rw [if_pos stops]
      exact sorted id dependency path
  · obtain ⟨order,planned,distinct,all,sorted⟩ :=
      start_order (fun id here => registered id ((mem id).mp here)) acyclic
    refine ⟨order,?_,distinct,fun id => (all id).trans (mem id),fun id dependency path => ?_⟩
    · rw [if_pos stops,planned]
      rfl
    · rw [if_neg stops]
      exact sorted id dependency path

section Fixture

/-- Services in a chain. -/
def fixtureChain : ServiceMap ServiceConfig :=
  .ofList [("api",fixtureDependent ["cache"]),("cache",fixtureDependent ["db"]),
    ("db",fixtureDependent [])]

theorem fixtureChain_acyclic (id : String) :
    ¬Relation.TransGen (SupervisorConfig.Names fixtureChain) id id :=
  SupervisorConfig.dependencyCycle_eq_none_iff.mp (by decide +kernel) id

theorem fixtureChain_names : SupervisorConfig.Names fixtureChain "api" "cache" ∧
    SupervisorConfig.Names fixtureChain "cache" "db" := by
  have named : fixtureChain["api"]?=some (fixtureDependent ["cache"]) ∧
      fixtureChain["cache"]?=some (fixtureDependent ["db"]) := by
    decide +kernel
  exact ⟨⟨_,named.1,List.mem_singleton_self "cache"⟩,⟨_,named.2,List.mem_singleton_self "db"⟩⟩

theorem fixtureChain_mem : ∀id∈["db","cache","api"],id∈fixtureChain := by
  decide +kernel

theorem orderMutationServiceIds_respects_chain :
    ∃order,orderMutationServiceIds fixtureChain ["db","cache","api"] .restart=.ok order ∧
      ["db","api"].Sublist order := by
  obtain ⟨order,planned,-,-,sorted⟩ := orderMutationServiceIds_respects fixtureChain
    fixtureChain_acyclic ["db","cache","api"] (List.cons_ne_nil _ _) fixtureChain_mem .restart
  have api : NamesAmong fixtureChain ["db","cache","api"] "api" "cache" :=
    ⟨fixtureChain_names.1,by decide⟩
  have cache : NamesAmong fixtureChain ["db","cache","api"] "cache" "db" :=
    ⟨fixtureChain_names.2,by decide⟩
  exact ⟨order,planned,sorted "api" "db" (.tail (.single api) cache)⟩

/-- The order of a batch would respect dependencies through services outside of it. -/
def RespectsTransitive (action : ControlAction) : Prop :=
  ∀(services : ServiceMap ServiceConfig) (requested order : List String),
    (∀id,¬Relation.TransGen (SupervisorConfig.Names services) id id) → requested≠[] →
    requested.Nodup → (∀id∈requested,id∈services) →
    orderMutationServiceIds services requested action=.ok order →
    ∀id∈requested,∀dependency∈requested,
      Relation.TransGen (SupervisorConfig.Names services) id dependency →
      (if action=.stop then [id,dependency] else [dependency,id]).Sublist order

/-- A dependency through a service outside the batch does not count, whatever the action. -/
theorem orderMutationServiceIds_gap :
    ¬RespectsTransitive .start ∧ ¬RespectsTransitive .stop ∧ ¬RespectsTransitive .restart := by
  have orders : orderMutationServiceIds fixtureChain ["api","db"] .start=.ok ["api","db"] ∧
      orderMutationServiceIds fixtureChain ["db","api"] .stop=.ok ["db","api"] ∧
      orderMutationServiceIds fixtureChain ["api","db"] .restart=.ok ["api","db"] := by
    decide +kernel
  have path : Relation.TransGen (SupervisorConfig.Names fixtureChain) "api" "db" :=
    .tail (.single fixtureChain_names.1) fixtureChain_names.2
  have known (requested : List String) (fewer : requested⊆["db","cache","api"]) :
      ∀id∈requested,id∈fixtureChain := fun id mem => fixtureChain_mem id (fewer mem)
  -- the batch without the service in the middle keeps the order it was asked in
  refine ⟨fun claim => ?_,fun claim => ?_,fun claim => ?_⟩
  · have sorted := claim fixtureChain ["api","db"] ["api","db"] fixtureChain_acyclic
      (List.cons_ne_nil _ _) (by decide) (known _ (by decide)) orders.1 "api" (by decide) "db"
      (by decide) path
    exact absurd sorted (by decide)
  · have sorted := claim fixtureChain ["db","api"] ["db","api"] fixtureChain_acyclic
      (List.cons_ne_nil _ _) (by decide) (known _ (by decide)) orders.2.1 "api" (by decide) "db"
      (by decide) path
    exact absurd sorted (by decide)
  · have sorted := claim fixtureChain ["api","db"] ["api","db"] fixtureChain_acyclic
      (List.cons_ne_nil _ _) (by decide) (known _ (by decide)) orders.2.2 "api" (by decide) "db"
      (by decide) path
    exact absurd sorted (by decide)

end Fixture

end AkuSupervisor
