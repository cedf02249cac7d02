import Mathlib.Logic.Relation
import Mathlib.Tactic.Common

/-! Depth-first dependency orders of a finite graph, and what makes them succeed. -/

/-- Registered nodes and what each of them depends on. -/
structure DependencyGraph (α : Type) where
  registered : List α
  dependencies : α → Option (List α)
  closed : ∀a deps,dependencies a=some deps → a∈registered

namespace DependencyGraph

/-- Why a graph has no order: an unregistered node, or a node that is met again on its own path. -/
inductive Failure (α : Type) where
  | missing (a : α)
  | cycle (a : α)
  deriving DecidableEq

variable {α : Type} [DecidableEq α] (g : DependencyGraph α)

/-- How many registered nodes a path has not entered. -/
def ahead (path : List α) : Nat := (g.registered.filter (·∉path)).length

theorem ahead_lt (path : List α) (a : α) (here : a∈g.registered) (new : a∉path) :
    g.ahead (a::path) < g.ahead path := by
  have split : g.registered.filter (·∉a::path)=
      (g.registered.filter (·∉path)).filter (·≠a) := by
    rw [List.filter_filter]
    refine List.filter_congr fun b _ => ?_
    simp
  unfold ahead
  rw [split]
  refine List.length_filter_lt_length_iff_exists.mpr ⟨a,?_,by simp⟩
  simpa using ⟨here,new⟩

/-- Appends `a` and everything it depends on to an order, dependencies first. A node that is in the
order already is left where it is; `path` holds the nodes whose dependencies are being visited. -/
def visit (path : List α) (order : List α) (a : α) : Except (Failure α) (List α) :=
  if a∈order then .ok order
  else
    match _ : g.dependencies a with
    | none => .error (.missing a)
    | some deps =>
      if _ : a∈path then .error (.cycle a)
      else do
        let order ← deps.foldlM (fun order dependency => visit (a::path) order dependency) order
        return order++[a]
termination_by g.ahead path
decreasing_by exact g.ahead_lt path a (g.closed a deps (by assumption)) (by assumption)

/-- The order of the requested nodes and all they depend on. -/
def order (requested : List α) : Except (Failure α) (List α) :=
  requested.foldlM (g.visit []) []

/-- `b` is a direct dependency of `a`. -/
def Edge (a b : α) : Prop := ∃deps,g.dependencies a=some deps ∧ b∈deps

/-- Every node of the order is registered, and its dependencies come before it. -/
def Closed (order : List α) : Prop :=
  ∀before a after,order=before++a::after →
    ∃deps,g.dependencies a=some deps ∧ ∀b∈deps,b∈before

variable {g}

omit [DecidableEq α] in
theorem Closed.snoc {order deps : List α} {a : α} (closed : g.Closed order)
    (registered : g.dependencies a=some deps) (first : ∀b∈deps,b∈order) :
    g.Closed (order++[a]) := by
  intro before x after eq
  rcases List.eq_nil_or_concat after with rfl|⟨after',last,rfl⟩
  · obtain ⟨rfl,last⟩ := List.append_inj' eq rfl
    cases last
    exact ⟨deps,registered,first⟩
  · rw [List.concat_eq_append,← List.cons_append,← List.append_assoc] at eq
    obtain ⟨rfl,-⟩ := List.append_inj' eq rfl
    exact closed before x after' rfl

omit [DecidableEq α] in
/-- All a node of a closed order depends on, directly or not, comes before it. -/
theorem Closed.transGen {order before after : List α} {a b : α} (closed : g.Closed order)
    (eq : order=before++a::after) (path : Relation.TransGen g.Edge a b) : b∈before := by
  induction path using Relation.TransGen.head_induction_on generalizing before after with
  | single edge =>
    obtain ⟨deps,registered,mem⟩ := edge
    obtain ⟨deps',registered',first⟩ := closed _ _ _ eq
    cases registered.symm.trans registered'
    exact first b mem
  | head edge _ ih =>
    obtain ⟨deps,registered,mem⟩ := edge
    obtain ⟨deps',registered',first⟩ := closed _ _ _ eq
    cases registered.symm.trans registered'
    obtain ⟨before',after',split⟩ := List.append_of_mem (first _ mem)
    have earlier := ih (by rw [eq,split,List.append_assoc,List.cons_append])
    rw [split]
    exact List.mem_append_left _ earlier

omit [DecidableEq α] in
theorem Closed.acyclic {order : List α} {a : α} (closed : g.Closed order) (nodup : order.Nodup)
    (mem : a∈order) : ¬Relation.TransGen g.Edge a a := by
  intro cycle
  obtain ⟨before,after,eq⟩ := List.append_of_mem mem
  have earlier := closed.transGen eq cycle
  rw [eq] at nodup
  exact (List.nodup_append.mp nodup).2.2 a earlier a List.mem_cons_self rfl

/-- The nodes that one of the sources is or depends on. -/
def Needs (g : DependencyGraph α) (sources : List α) (x : α) : Prop :=
  ∃a∈sources,Relation.ReflTransGen g.Edge a x

/-- How `order` grows into `order'` when the sources are appended to it: by nodes they need that
are not on the path, so that it stays free of repetitions and closed. -/
structure Covers (g : DependencyGraph α) (path sources order order' : List α) : Prop where
  kept : ∀x∈order,x∈order'
  fresh : ∀x∈order',x∈order ∨ x∉path ∧ g.Needs sources x
  covered : ∀a∈sources,a∈order'
  nodup : order.Nodup → order'.Nodup
  closed : g.Closed order → g.Closed order'

/-- What a failure says about the nodes that the sources need. -/
def Blames (g : DependencyGraph α) (sources : List α) : Failure α → Prop
  | .missing x => g.Needs sources x ∧ g.dependencies x=none
  | .cycle x => g.Needs sources x ∧ Relation.TransGen g.Edge x x

/-- How a visit of the sources may end. -/
def Visited (g : DependencyGraph α) (path sources order : List α) :
    Except (Failure α) (List α) → Prop
  | .ok order' => g.Covers path sources order order'
  | .error failure => g.Blames sources failure

omit [DecidableEq α] in
theorem Needs.mono {sources sources' : List α} {x : α} (h : g.Needs sources x)
    (fewer : ∀a∈sources,a∈sources') : g.Needs sources' x := by
  obtain ⟨a,mem,path⟩ := h
  exact ⟨a,fewer a mem,path⟩

omit [DecidableEq α] in
theorem Blames.mono {sources sources' : List α} {failure : Failure α}
    (h : g.Blames sources failure)
    (fewer : ∀x,g.Needs sources x → g.Needs sources' x) : g.Blames sources' failure := by
  cases failure with
  | missing x => exact ⟨fewer x h.1,h.2⟩
  | cycle x => exact ⟨fewer x h.1,h.2⟩

omit [DecidableEq α] in
theorem Covers.refl (path order : List α) : g.Covers path [] order order :=
  ⟨fun _ h => h,fun _ h => .inl h,by simp,id,id⟩

omit [DecidableEq α] in
theorem Covers.cons {path sources order order' order'' : List α} {a : α}
    (head : g.Covers path [a] order order') (tail : g.Covers path sources order' order'') :
    g.Covers path (a::sources) order order'' := by
  refine ⟨fun x h => tail.kept x (head.kept x h),fun x h => ?_,fun x h => ?_,
    fun h => tail.nodup (head.nodup h),fun h => tail.closed (head.closed h)⟩
  · rcases tail.fresh x h with earlier|⟨off,needed⟩
    · rcases head.fresh x earlier with old|⟨off,needed⟩
      · exact .inl old
      · exact .inr ⟨off,needed.mono (by simp)⟩
    · exact .inr ⟨off,needed.mono (by simp +contextual)⟩
  · rcases List.mem_cons.mp h with rfl|later
    · exact tail.kept x (head.covered x (by simp))
    · exact tail.covered x later

/-- A fold of visits, when each of them is known to end well or with a true complaint. -/
theorem foldlM_visited (path sources order : List α)
    (each : ∀a∈sources,∀order,g.Visited path [a] order (g.visit path order a)) :
    g.Visited path sources order (sources.foldlM (g.visit path) order) := by
  induction sources generalizing order with
  | nil => exact .refl path order
  | cons a sources ih =>
    have head := each a (by simp) order
    rw [List.foldlM_cons]
    cases visited : g.visit path order a with
    | error failure =>
      rw [visited] at head
      exact Blames.mono head fun x needed => needed.mono (by simp)
    | ok order' =>
      rw [visited] at head
      have tail := ih order' fun b mem => each b (List.mem_cons_of_mem a mem)
      change g.Visited path (a::sources) order (sources.foldlM (g.visit path) order')
      cases rest : sources.foldlM (g.visit path) order' with
      | error failure =>
        rw [rest] at tail
        exact Blames.mono tail fun x needed => needed.mono (by simp +contextual)
      | ok order'' =>
        rw [rest] at tail
        exact Covers.cons head tail

omit [DecidableEq α] in
theorem needs_of_dependency {deps : List α} {a x : α} (registered : g.dependencies a=some deps)
    (needed : g.Needs deps x) : g.Needs [a] x := by
  obtain ⟨b,mem,path⟩ := needed
  exact ⟨a,by simp,.head ⟨deps,registered,mem⟩ path⟩

omit [DecidableEq α] in
/-- Once its dependencies are covered below it, a node can be appended. -/
theorem Covers.snoc {path deps order order' : List α} {a : α}
    (h : g.Covers (a::path) deps order order') (registered : g.dependencies a=some deps)
    (new : a∉order) (off : a∉path) : g.Covers path [a] order (order'++[a]) := by
  have absent : a∉order' := by
    intro mem
    rcases h.fresh a mem with old|⟨off,-⟩
    · exact new old
    · exact off List.mem_cons_self
  refine ⟨fun x mem => List.mem_append_left _ (h.kept x mem),fun x mem => ?_,by simp,
    fun nodup => ?_,fun closed => (h.closed closed).snoc registered h.covered⟩
  · rcases List.mem_append.mp mem with earlier|last
    · rcases h.fresh x earlier with old|⟨off,needed⟩
      · exact .inl old
      · exact .inr ⟨fun mem => off (List.mem_cons_of_mem a mem),
          needs_of_dependency registered needed⟩
    · have same := List.mem_singleton.mp last
      exact .inr ⟨by rwa [same],a,by simp,by rw [same]⟩
  · refine List.nodup_append.mpr ⟨h.nodup nodup,by simp,?_⟩
    intro x mem y last
    cases List.mem_singleton.mp last
    intro same
    exact absent (same ▸ mem)

/-- A visit covers its node, or blames a node it needs. The nodes on the path all depend on it, so
that meeting one of them again closes a cycle. -/
theorem visit_visited (path order : List α) (a : α)
    (leads : ∀p∈path,Relation.TransGen g.Edge p a) :
    g.Visited path [a] order (g.visit path order a) := by
  induction left : g.ahead path using Nat.strongRecOn generalizing path order a with
  | ind n ih =>
    rw [visit]
    by_cases done : a∈order
    · rw [if_pos done]
      exact ⟨fun _ h => h,fun _ h => .inl h,by simpa using done,id,id⟩
    · rw [if_neg done]
      split
      · rename_i absent
        exact ⟨⟨a,by simp,.refl⟩,absent⟩
      · rename_i deps registered
        by_cases onPath : a∈path
        · rw [dif_pos onPath]
          exact ⟨⟨a,by simp,.refl⟩,leads a onPath⟩
        · rw [dif_neg onPath]
          have closer := g.ahead_lt path a (g.closed a deps registered) onPath
          have below : g.Visited (a::path) deps order (deps.foldlM (g.visit (a::path)) order) := by
            apply foldlM_visited
            intro b mem order
            refine ih _ (left ▸ closer) (a::path) order b ?_ rfl
            have edge : g.Edge a b := ⟨deps,registered,mem⟩
            intro p on
            rcases List.mem_cons.mp on with rfl|later
            · exact .single edge
            · exact (leads p later).tail edge
          cases visited : deps.foldlM (g.visit (a::path)) order with
          | error failure =>
            rw [visited] at below
            exact Blames.mono below fun x => needs_of_dependency registered
          | ok order' =>
            rw [visited] at below
            exact Covers.snoc below registered done onPath

theorem order_visited (requested : List α) :
    g.Visited [] requested [] (g.order requested) :=
  foldlM_visited [] requested [] fun a _ order => visit_visited [] order a (by simp)

/-- A successful order is closed, repeats nothing and holds exactly what the requested nodes need. -/
theorem order_ok (requested order : List α) (h : g.order requested=.ok order) :
    order.Nodup ∧ g.Closed order ∧ ∀x,x∈order ↔ g.Needs requested x := by
  have visited := order_visited (g := g) requested
  rw [h] at visited
  have closed := Covers.closed visited (by simp [Closed])
  refine ⟨Covers.nodup visited List.nodup_nil,closed,fun x => ⟨fun mem => ?_,fun needed => ?_⟩⟩
  · rcases Covers.fresh visited x mem with old|⟨-,needed⟩
    · simp at old
    · exact needed
  · obtain ⟨a,mem,path⟩ := needed
    have here := Covers.covered visited a mem
    rcases Relation.reflTransGen_iff_eq_or_transGen.mp path with rfl|path
    · exact here
    · obtain ⟨before,after,split⟩ := List.append_of_mem here
      rw [split]
      exact List.mem_append_left _ (closed.transGen split path)

theorem order_error (requested : List α) (failure : Failure α)
    (h : g.order requested=.error failure) : g.Blames requested failure := by
  have visited := order_visited (g := g) requested
  rwa [h] at visited

/-- There is an order exactly when all the requested nodes need is registered and acyclic. -/
theorem order_isOk_iff (requested : List α) :
    (∃order,g.order requested=.ok order) ↔
      ∀x,g.Needs requested x → g.dependencies x≠none ∧ ¬Relation.TransGen g.Edge x x := by
  constructor
  · intro h
    obtain ⟨order,h⟩ := h
    intro x needed
    obtain ⟨nodup,closed,mem⟩ := order_ok requested order h
    have here := (mem x).mpr needed
    refine ⟨?_,closed.acyclic nodup here⟩
    obtain ⟨before,after,split⟩ := List.append_of_mem here
    obtain ⟨deps,registered,-⟩ := closed _ _ _ split
    simp [registered]
  · intro sound
    cases h : g.order requested with
    | ok order => exact ⟨order,rfl⟩
    | error failure =>
      have blames := order_error requested failure h
      cases failure with
      | missing x => exact absurd blames.2 (sound x blames.1).1
      | cycle x => exact absurd blames.2 (sound x blames.1).2

/-- Visits that only append to the order do so one after the other. -/
theorem foldlM_extends (path sources order order' : List α)
    (each : ∀a∈sources,∀order order',g.visit path order a=.ok order' → order <+: order')
    (h : sources.foldlM (g.visit path) order=.ok order') : order <+: order' := by
  induction sources generalizing order with
  | nil =>
    cases h
    exact List.prefix_rfl
  | cons a sources ih =>
    rw [List.foldlM_cons] at h
    cases visited : g.visit path order a with
    | error failure => simp [visited,bind,Except.bind] at h
    | ok middle =>
      rw [visited] at h
      have first := each a List.mem_cons_self order middle visited
      exact first.trans (ih middle (fun b mem => each b (List.mem_cons_of_mem a mem)) h)

/-- A visit only appends to the order. -/
theorem visit_extends (path order order' : List α) (a : α) (h : g.visit path order a=.ok order') :
    order <+: order' := by
  induction left : g.ahead path using Nat.strongRecOn generalizing path order order' a with
  | ind n ih =>
    rw [visit] at h
    by_cases done : a∈order
    · rw [if_pos done] at h
      cases h
      exact List.prefix_rfl
    · rw [if_neg done] at h
      split at h
      · cases h
      · rename_i deps registered
        by_cases onPath : a∈path
        · rw [dif_pos onPath] at h
          cases h
        · rw [dif_neg onPath] at h
          have closer := g.ahead_lt path a (g.closed a deps registered) onPath
          cases below : deps.foldlM (g.visit (a::path)) order with
          | error failure => simp [below,bind,Except.bind] at h
          | ok middle =>
            simp only [below,bind,Except.bind,pure,Except.pure,Except.ok.injEq] at h
            have lower := foldlM_extends (a::path) deps order middle
              (fun b _ order order' visited =>
                ih _ (left ▸ closer) (a::path) order order' b visited rfl) below
            rw [← h]
            exact lower.trans (List.prefix_append middle [a])

/-- The order of the first requests is how the order of all of them starts. -/
theorem order_append (first later order : List α) (h : g.order (first++later)=.ok order) :
    ∃start,g.order first=.ok start ∧ start <+: order := by
  rw [DependencyGraph.order,List.foldlM_append] at h
  cases started : g.order first with
  | error failure =>
    rw [DependencyGraph.order] at started
    simp [started,bind,Except.bind] at h
  | ok start =>
    rw [DependencyGraph.order] at started
    rw [started] at h
    exact ⟨start,rfl,foldlM_extends [] later start order
      (fun a _ order order' visited => visit_extends [] order order' a visited) h⟩

/-- The order of a single node ends with it, after exactly what it depends on. -/
theorem order_singleton (a : α) (order : List α) (h : g.order [a]=.ok order) :
    ∃before,order=before++[a] ∧ ∀x,x∈before ↔ Relation.TransGen g.Edge a x := by
  obtain ⟨nodup,closed,mem⟩ := order_ok [a] order h
  have ends : ∃before,order=before++[a] := by
    rw [DependencyGraph.order,List.foldlM_cons,visit,if_neg (by simp)] at h
    split at h
    · cases h
    · rename_i deps registered
      rw [dif_neg (by simp)] at h
      cases below : deps.foldlM (g.visit [a]) [] with
      | error failure => simp [below,bind,Except.bind] at h
      | ok before =>
        simp only [below,bind,Except.bind,pure,Except.pure,List.foldlM_nil,Except.ok.injEq] at h
        exact ⟨before,h.symm⟩
  obtain ⟨before,rfl⟩ := ends
  refine ⟨before,rfl,fun x => ⟨fun earlier => ?_,fun path => ?_⟩⟩
  · obtain ⟨b,source,path⟩ := (mem x).mp (List.mem_append_left _ earlier)
    cases List.mem_singleton.mp source
    rcases Relation.reflTransGen_iff_eq_or_transGen.mp path with rfl|path
    · exact absurd rfl ((List.nodup_append.mp nodup).2.2 x earlier x (by simp))
    · exact path
  · exact closed.transGen rfl path

end DependencyGraph
