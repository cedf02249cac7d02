import Mathlib.Data.Fintype.Card
import Mathlib.Data.List.Sort
import Mathlib.Data.Set.Finite.List
import Mathlib.Logic.Relation
import Mathlib.Order.WellFounded
import Mathlib.Tactic.Common

/-! Orders of a finite graph in which a node comes as soon as nothing before it is left: an edge
`(a,b)` puts `a` before `b`, and among the nodes that are ready the lowest position comes first. -/

namespace ReadyOrder

variable {α : Type} [DecidableEq α]

inductive Failure (α : Type) where
  | missing (a : α)
  | cycle
  | underflow
  deriving DecidableEq

/-- For every node how many edges into it are left, and the nodes its own edges lead to. -/
structure Tables (α : Type) where
  remaining : α → Option Nat
  targets : α → Option (List α)

/-- The nodes that are ready, and those in the order, beside the counts. -/
structure State (α : Type) where
  remaining : α → Option Nat
  ready : List α
  ordered : List α

def put {β : Type} (table : α → Option β) (a : α) (value : β) : α → Option β :=
  fun b => if b=a then some value else table b

/-- Counts one edge. -/
def count (tables : Tables α) (edge : α × α) : Except (Failure α) (Tables α) :=
  match tables.remaining edge.2 with
  | none => .error (.missing edge.2)
  | some n =>
    match tables.targets edge.1 with
    | none => .error (.missing edge.1)
    | some targets =>
      .ok ⟨put tables.remaining edge.2 (n+1),put tables.targets edge.1 (targets++[edge.2])⟩

def emptyTables (nodes : List α) : Tables α :=
  ⟨fun a => if a∈nodes then some 0 else none,fun a => if a∈nodes then some [] else none⟩

/-- Takes back one edge into `b`, if one is left; the last one makes it ready. -/
def release (table : (α → Option Nat) × List α) (b : α) :
    Except (Failure α) ((α → Option Nat) × List α) :=
  match table.1 b with
  | none => .error (.missing b)
  | some 0 => .error .underflow
  | some (n+1) => .ok (put table.1 b n,if n=0 then table.2++[b] else table.2)

/-- Each round takes the first of the ready nodes, at most `rounds` times. -/
def drain (position : α → Nat) (targets : α → Option (List α)) :
    Nat → State α → Except (Failure α) (List α)
  | 0,s => .ok s.ordered
  | rounds+1,s =>
    match s.ready.insertionSort (position · ≤ position ·) with
    | [] => .ok s.ordered
    | a::ready =>
      match targets a with
      | none => .error (.missing a)
      | some successors =>
        match successors.foldlM release (s.remaining,ready) with
        | .error failure => .error failure
        | .ok (remaining,ready) =>
          drain position targets rounds ⟨remaining,ready,s.ordered++[a]⟩

/-- The nodes in order, unless an edge leads to no node or the edges run in a cycle. -/
def order (position : α → Nat) (nodes : List α) (edges : List (α × α)) :
    Except (Failure α) (List α) :=
  match edges.foldlM count (emptyTables nodes) with
  | .error failure => .error failure
  | .ok tables =>
    let ready := nodes.filter (tables.remaining ·=some 0)
    match drain position tables.targets (nodes.length+1) ⟨tables.remaining,ready,[]⟩ with
    | .error failure => .error failure
    | .ok ordered => if ordered.length≠nodes.length then .error .cycle else .ok ordered

/-- How many edges lead to `b` from nodes that are not in the order. -/
def waiting (edges : List (α × α)) (ordered : List α) (b : α) : Nat :=
  edges.countP fun edge => edge.2=b ∧ edge.1∉ordered

/-- The nodes that edges from `a` lead to. -/
def successors (edges : List (α × α)) (a : α) : List α :=
  (edges.filter (·.1=a)).map Prod.snd

/-- Every edge joins nodes. -/
def Closed (nodes : List α) (edges : List (α × α)) : Prop :=
  ∀edge∈edges,edge.1∈nodes ∧ edge.2∈nodes

def Edge (edges : List (α × α)) (a b : α) : Prop := (a,b)∈edges

/-- No node is preceded by one that it has an edge to. -/
def Sources (edges : List (α × α)) (ordered : List α) : Prop :=
  ∀before b after,ordered=before++b::after → ∀a,(a,b)∈edges → a∈before

theorem put_same {β : Type} (table : α → Option β) (a : α) (value : β) :
    put table a value a=some value := if_pos rfl

theorem put_other {β : Type} (table : α → Option β) (a b : α) (value : β) (ne : b≠a) :
    put table a value b=table b := if_neg ne

/-- The tables once the edges are counted. -/
def tablesOf (nodes : List α) (edges : List (α × α)) : Tables α :=
  ⟨fun b => if b∈nodes then some (waiting edges [] b) else none,
    fun a => if a∈nodes then some (successors edges a) else none⟩

theorem waiting_concat (edges : List (α × α)) (edge : α × α) (b : α) :
    waiting (edges++[edge]) [] b=waiting edges [] b+if b=edge.2 then 1 else 0 := by
  unfold waiting
  rw [List.countP_append,List.countP_singleton]
  by_cases same : b=edge.2
  · simp [same]
  · simp [same,Ne.symm same]

theorem successors_concat (edges : List (α × α)) (edge : α × α) (a : α) :
    successors (edges++[edge]) a=successors edges a++if a=edge.1 then [edge.2] else [] := by
  unfold successors
  rw [List.filter_append,List.map_append,List.filter_singleton]
  by_cases same : a=edge.1
  · simp [same]
  · simp [same,Ne.symm same]

theorem count_tablesOf (nodes : List α) (edges : List (α × α)) (edge : α × α)
    (source : edge.1∈nodes) (target : edge.2∈nodes) :
    count (tablesOf nodes edges) edge=.ok (tablesOf nodes (edges++[edge])) := by
  simp only [count,tablesOf,if_pos source,if_pos target,Except.ok.injEq,Tables.mk.injEq]
  constructor
  · funext b
    rw [waiting_concat]
    by_cases same : b=edge.2
    · subst same
      rw [put_same,if_pos target,if_pos rfl]
    · rw [put_other _ _ _ _ same,if_neg same,Nat.add_zero]
  · funext a
    rw [successors_concat]
    by_cases same : a=edge.1
    · subst same
      rw [put_same,if_pos source,if_pos rfl]
    · rw [put_other _ _ _ _ same,if_neg same,List.append_nil]

theorem count_edges (nodes : List α) (edges : List (α × α)) (closed : Closed nodes edges) :
    edges.foldlM count (emptyTables nodes)=.ok (tablesOf nodes edges) := by
  have each (before after : List (α × α)) (known : Closed nodes after) :
      after.foldlM count (tablesOf nodes before)=.ok (tablesOf nodes (before++after)) := by
    induction after generalizing before with
    | nil => simp [pure,Except.pure]
    | cons edge after ih =>
      obtain ⟨source,target⟩ := known edge List.mem_cons_self
      rw [List.foldlM_cons,count_tablesOf nodes before edge source target]
      have rest := ih (before++[edge]) fun edge mem => known edge (List.mem_cons_of_mem _ mem)
      rw [List.append_assoc,List.singleton_append] at rest
      exact rest
  have start : emptyTables nodes=tablesOf nodes [] := rfl
  rw [start]
  exact each [] edges closed

/-- Taking back edges into `targets` makes those ready that had no others left. -/
theorem release_targets (targets : List α) (remaining : α → Option Nat) (ready : List α)
    (enough : ∀b∈targets,∃n,remaining b=some n ∧ targets.count b≤n) :
    ∃fresh,targets.foldlM release (remaining,ready)=
        .ok (fun b => (remaining b).map (· - targets.count b),ready++fresh) ∧
      fresh.Nodup ∧ ∀b,b∈fresh ↔ b∈targets ∧ remaining b=some (targets.count b) := by
  induction targets generalizing remaining ready with
  | nil =>
    refine ⟨[],?_,by simp,by simp⟩
    simp [pure,Except.pure]
  | cons b targets ih =>
    obtain ⟨m,left,most⟩ := enough b List.mem_cons_self
    rw [List.count_cons_self] at most
    obtain ⟨n,rfl⟩ := Nat.exists_eq_add_of_le' (Nat.le_of_add_left_le most)
    have enough' : ∀c∈targets,∃m,put remaining b (n) c=some m ∧ targets.count c ≤ m := by
      intro c mem
      by_cases same : c=b
      · subst same
        exact ⟨n,put_same _ _ _,by omega⟩
      · obtain ⟨m,left,most⟩ := enough c (List.mem_cons_of_mem _ mem)
        rw [List.count_cons_of_ne (Ne.symm same)] at most
        exact ⟨m,by rwa [put_other _ _ _ _ same],most⟩
    obtain ⟨fresh,run,nodup,exact⟩ := ih (put remaining b (n))
      (if n=0 then ready++[b] else ready) enough'
    have released : release (remaining,ready) b=
        .ok (put remaining b (n),if n=0 then ready++[b] else ready) := by
      simp only [release,left]
    have after : (fun c => (put remaining b (n) c).map (· - targets.count c))=
        fun c => (remaining c).map (· - (b::targets).count c) := by
      funext c
      by_cases same : c=b
      · subst same
        rw [put_same,left,Option.map_some,Option.map_some,List.count_cons_self]
        congr 1
        omega
      · rw [put_other _ _ _ _ same,List.count_cons_of_ne (Ne.symm same)]
    rw [after] at run
    refine ⟨if n=0 then b::fresh else fresh,?_,?_,?_⟩
    · rw [List.foldlM_cons,released]
      show targets.foldlM release _=_
      rw [run]
      by_cases last : n=0
      · simp [last]
      · simp [last]
    · by_cases last : n=0
      · rw [if_pos last]
        refine List.nodup_cons.mpr ⟨fun mem => ?_,nodup⟩
        obtain ⟨again,most⟩ := (exact b).mp mem
        rw [put_same,Option.some.injEq] at most
        have some := List.count_pos_iff.mpr again
        omega
      · rw [if_neg last]
        exact nodup
    · intro c
      by_cases same : c=b
      · subst same
        have mem : c∈fresh ↔ c∈targets ∧ n=targets.count c := by
          rw [exact,put_same,Option.some.injEq]
        rw [left,Option.some.injEq,List.count_cons_self]
        have zero := List.count_eq_zero (a := c) (l := targets)
        by_cases last : n=0
        · rw [if_pos last]
          simp only [List.mem_cons,true_or,true_and,true_iff]
          omega
        · rw [if_neg last,mem]
          simp only [List.mem_cons,true_or,true_and]
          constructor
          · intro h
            omega
          · intro h
            refine ⟨?_,by omega⟩
            by_contra absent
            have none := zero.mpr absent
            omega
      · have mem : c∈fresh ↔ c∈targets ∧ remaining c=some (targets.count c) := by
          rw [exact,put_other _ _ _ _ same]
        rw [List.count_cons_of_ne (Ne.symm same)]
        by_cases last : n=0
        · rw [if_pos last,List.mem_cons,mem]
          simp [same]
        · rw [if_neg last,mem]
          simp [same]

/-- What holds between two rounds. -/
structure Sorted (nodes : List α) (edges : List (α × α)) (s : State α) : Prop where
  nodup : (s.ordered++s.ready).Nodup
  counts : ∀b,s.remaining b=if b∈nodes then some (waiting edges s.ordered b) else none
  ready : ∀b,b∈s.ordered++s.ready ↔ b∈nodes ∧ waiting edges s.ordered b=0
  sources : Sources edges s.ordered

theorem count_successors (edges : List (α × α)) (a b : α) :
    (successors edges a).count b=edges.countP fun edge => edge.2=b ∧ edge.1=a := by
  unfold successors
  rw [List.count,List.countP_map,List.countP_filter]
  apply List.countP_congr
  intro edge _
  simp

/-- A node that joins the order takes its edges with it. -/
theorem waiting_snoc (edges : List (α × α)) (ordered : List α) (a b : α) (new : a∉ordered) :
    waiting edges ordered b=waiting edges (ordered++[a]) b+(successors edges a).count b := by
  rw [count_successors]
  unfold waiting
  induction edges with
  | nil => rfl
  | cons edge edges ih =>
    simp only [List.countP_cons,ih]
    by_cases into : edge.2=b
    · by_cases here : edge.1=a
      · simp [into,here,new]
        omega
      · simp [into,here]
        omega
    · simp [into]

omit [DecidableEq α] in
theorem Sources.snoc {edges : List (α × α)} {ordered : List α} {b : α}
    (h : Sources edges ordered) (first : ∀a,(a,b)∈edges → a∈ordered) :
    Sources edges (ordered++[b]) := by
  intro before c after split a edge
  rcases List.eq_nil_or_concat after with rfl|⟨after',last,rfl⟩
  · obtain ⟨rfl,last⟩ := List.append_inj' split rfl
    cases last
    exact first a edge
  · rw [List.concat_eq_append,← List.cons_append,← List.append_assoc] at split
    obtain ⟨rfl,-⟩ := List.append_inj' split rfl
    exact h before c after' rfl a edge

theorem waiting_zero {edges : List (α × α)} {ordered : List α} {b : α}
    (none : waiting edges ordered b=0) (a : α) (edge : (a,b)∈edges) : a∈ordered := by
  have all := List.countP_eq_zero.mp none (a,b) edge
  simpa using all

variable {nodes : List α} {edges : List (α × α)}

/-- One round keeps what holds between rounds. -/
theorem Sorted.round {s : State α} (h : Sorted nodes edges s) (closed : Closed nodes edges)
    (a : α) (ready : List α) (taken : (a::ready).Perm s.ready) :
    ∃remaining ready',(successors edges a).foldlM release (s.remaining,ready)=
        .ok (remaining,ready') ∧
      Sorted nodes edges ⟨remaining,ready',s.ordered++[a]⟩ := by
  have here : a∈s.ready := taken.mem_iff.mp List.mem_cons_self
  have new : a∉s.ordered := fun old => (List.nodup_append.mp h.nodup).2.2 a old a here rfl
  have left (b : α) := waiting_snoc edges s.ordered a b new
  have enough : ∀b∈successors edges a,∃n,s.remaining b=some n ∧
      (successors edges a).count b≤n := by
    intro b mem
    obtain ⟨edge,known,rfl⟩ := List.mem_map.mp mem
    have target := (closed edge (List.mem_filter.mp known).1).2
    refine ⟨_,by rw [h.counts,if_pos target],?_⟩
    rw [left]
    omega
  obtain ⟨fresh,run,nodup,exact⟩ := release_targets _ s.remaining ready enough
  have split (b : α) : b∈s.ordered++[a]++(ready++fresh) ↔ b∈s.ordered++s.ready ∨ b∈fresh := by
    have same : b∈a::ready ↔ b∈s.ready := taken.mem_iff
    simp only [List.mem_append,List.mem_cons] at same ⊢
    tauto
  refine ⟨_,_,run,?_,?_,?_,?_⟩
  · have moved : (s.ordered++[a]++(ready++fresh)).Perm (s.ordered++s.ready++fresh) := by
      have middle := (taken.append_left s.ordered).append_right fresh
      simpa using middle
    rw [moved.nodup_iff]
    refine List.nodup_append.mpr ⟨h.nodup,nodup,?_⟩
    intro b old c mem same
    subst same
    obtain ⟨target,all⟩ := (exact b).mp mem
    obtain ⟨known,none⟩ := (h.ready b).mp old
    rw [h.counts,if_pos known,Option.some.injEq,none] at all
    have some := List.count_pos_iff.mpr target
    omega
  · intro b
    dsimp only
    rw [h.counts]
    by_cases known : b∈nodes
    · have sum := left b
      rw [if_pos known,if_pos known,Option.map_some]
      congr 1
      omega
    · rw [if_neg known,if_neg known,Option.map_none]
  · intro b
    have sum := left b
    rw [split,h.ready,exact,h.counts]
    have some := List.count_pos_iff (a := b) (l := successors edges a)
    by_cases known : b∈nodes
    · rw [if_pos known,Option.some.injEq]
      simp only [known,true_and]
      constructor
      · intro h
        omega
      · intro none
        by_cases target : b∈successors edges a
        · exact .inr ⟨target,by omega⟩
        · have zero := List.count_eq_zero.mpr target
          omega
    · simp [known]
  · exact h.sources.snoc (waiting_zero ((h.ready a).mp (List.mem_append_right _ here)).2)

/-- When the loop ends, no node is ready. -/
theorem drain_sorted (position : α → Nat) (closed : Closed nodes edges) (rounds : Nat)
    (s : State α) (h : Sorted nodes edges s) (enough : nodes.length<s.ordered.length+rounds) :
    ∃ordered remaining,drain position (tablesOf nodes edges).targets rounds s=.ok ordered ∧
      Sorted nodes edges ⟨remaining,[],ordered⟩ := by
  induction rounds generalizing s with
  | zero =>
    have fewer : s.ordered.length≤nodes.length := by
      refine (List.subperm_of_subset (List.nodup_append.mp h.nodup).1 fun a mem => ?_).length_le
      exact ((h.ready a).mp (List.mem_append_left _ mem)).1
    omega
  | succ rounds ih =>
    have perm := List.perm_insertionSort (position · ≤ position ·) s.ready
    rw [drain]
    cases sorted : s.ready.insertionSort (position · ≤ position ·) with
    | nil =>
      rw [sorted] at perm
      have none := List.nil_perm.mp perm
      exact ⟨s.ordered,s.remaining,rfl,by rw [← none]; exact h⟩
    | cons a ready =>
      rw [sorted] at perm
      obtain ⟨remaining,ready',run,next⟩ := h.round closed a ready perm
      have known : a∈nodes := by
        refine ((h.ready a).mp (List.mem_append_right _ ?_)).1
        exact perm.mem_iff.mp List.mem_cons_self
      simp only [tablesOf,if_pos known,run]
      refine ih _ next ?_
      rw [List.length_append,List.length_singleton]
      omega

theorem sorted_start (nodes : List α) (nodup : nodes.Nodup) (edges : List (α × α)) :
    Sorted nodes edges ⟨(tablesOf nodes edges).remaining,
      nodes.filter ((tablesOf nodes edges).remaining ·=some 0),[]⟩ := by
  refine ⟨by simpa using nodup.filter _,fun _ => rfl,fun b => ?_,?_⟩
  · rw [List.nil_append,List.mem_filter]
    by_cases known : b∈nodes <;> simp [tablesOf,known]
  · intro before b after split
    simp at split

/-- Without a cycle the order is one of all the nodes. -/
theorem complete_of_acyclic {ordered : List α} {remaining : α → Option Nat}
    (closed : Closed nodes edges) (acyclic : ∀a,¬Relation.TransGen (Edge edges) a a)
    (h : Sorted nodes edges ⟨remaining,[],ordered⟩) : ∀a∈nodes,a∈ordered := by
  by_contra missing
  push Not at missing
  obtain ⟨a,known,absent⟩ := missing
  let before (x y : {x // x∈nodes}) : Prop := Relation.TransGen (Edge edges) x.1 y.1
  have trans : IsTrans _ before := ⟨fun _ _ _ => Relation.TransGen.trans⟩
  have irrefl : Std.Irrefl before := ⟨fun x => acyclic x.1⟩
  have finite : Finite {x // x∈nodes} := nodes.finite_toSet
  have wf : WellFounded before := Finite.wellFounded_of_trans_of_irrefl before
  obtain ⟨least,out,minimal⟩ := wf.has_min {x | x.1∉ordered} ⟨⟨a,known⟩,absent⟩
  have some : waiting edges ordered least.1≠0 := by
    intro none
    have mem := (h.ready least.1).mpr ⟨least.2,none⟩
    exact out (by simpa using mem)
  obtain ⟨edge,mem,into⟩ := List.countP_pos_iff.mp (Nat.pos_of_ne_zero some)
  have into : edge.2=least.1 ∧ edge.1∉ordered := by simpa using into
  refine minimal ⟨edge.1,(closed edge mem).1⟩ into.2 (.single ?_)
  show (edge.1,least.1)∈edges
  rw [← into.1]
  exact mem

/-- A successful order holds every node once, and the sources of its edges before it. -/
theorem order_ok (position : α → Nat) (nodup : nodes.Nodup) (closed : Closed nodes edges)
    (ordered : List α) (h : order position nodes edges=.ok ordered) :
    ordered.Perm nodes ∧ Sources edges ordered := by
  obtain ⟨result,remaining,run,sorted⟩ := drain_sorted position closed (nodes.length+1) _
    (sorted_start nodes nodup edges) (by simp)
  simp only [order,count_edges nodes edges closed,run] at h
  split_ifs at h with incomplete
  cases h
  have fewer : List.Subperm ordered nodes := by
    refine List.subperm_of_subset (by simpa using sorted.nodup) fun a mem => ?_
    exact ((sorted.ready a).mp (by simpa using mem)).1
  exact ⟨fewer.perm_of_length_le (by omega),sorted.sources⟩

theorem order_isOk (position : α → Nat) (nodup : nodes.Nodup) (closed : Closed nodes edges)
    (acyclic : ∀a,¬Relation.TransGen (Edge edges) a a) :
    ∃ordered,order position nodes edges=.ok ordered := by
  obtain ⟨ordered,remaining,run,sorted⟩ := drain_sorted position closed (nodes.length+1) _
    (sorted_start nodes nodup edges) (by simp)
  have all := complete_of_acyclic closed acyclic sorted
  have same : ordered.Perm nodes := by
    refine (List.perm_ext_iff_of_nodup (by simpa using sorted.nodup) nodup).mpr fun a => ?_
    exact ⟨fun mem => ((sorted.ready a).mp (by simpa using mem)).1,all a⟩
  refine ⟨ordered,?_⟩
  simp only [order,count_edges nodes edges closed,run]
  rw [if_neg (by simpa using same.length_eq)]

omit [DecidableEq α] in
/-- Whatever leads to a node comes before it, over any number of edges. -/
theorem Sources.transGen {ordered before after : List α} {a b : α} (h : Sources edges ordered)
    (split : ordered=before++b::after) (path : Relation.TransGen (Edge edges) a b) :
    a∈before := by
  induction path generalizing before after with
  | single edge => exact h before _ after split _ edge
  | tail _ edge ih =>
    obtain ⟨before',after',split'⟩ := List.append_of_mem (h before _ after split _ edge)
    have earlier := ih (by rw [split,split',List.append_assoc,List.cons_append])
    rw [split']
    exact List.mem_append_left _ earlier

omit [DecidableEq α] in
/-- Nothing comes after a node that it leads to. -/
theorem Sources.pairwise {ordered : List α} (h : Sources edges ordered) (nodup : ordered.Nodup) :
    ordered.Pairwise fun a later => ¬Relation.TransGen (Edge edges) later a := by
  have each (before after : List α) (split : ordered=before++after) :
      after.Pairwise fun a later => ¬Relation.TransGen (Edge edges) later a := by
    induction after generalizing before with
    | nil => exact .nil
    | cons a after ih =>
      refine List.pairwise_cons.mpr ⟨fun b mem path => ?_,ih (before++[a]) (by simp [split])⟩
      have earlier := h.transGen split path
      rw [split] at nodup
      exact (List.nodup_append.mp nodup).2.2 b earlier b (List.mem_cons_of_mem a mem) rfl
  exact each [] ordered rfl

omit [DecidableEq α] in
/-- What precedes itself over edges has no place in an order. -/
theorem Sources.acyclic {ordered : List α} {a : α} (h : Sources edges ordered)
    (nodup : ordered.Nodup) (mem : a∈ordered) : ¬Relation.TransGen (Edge edges) a a := by
  intro cycle
  obtain ⟨before,after,split⟩ := List.append_of_mem mem
  have earlier := h.transGen split cycle
  rw [split] at nodup
  exact (List.nodup_append.mp nodup).2.2 a earlier a List.mem_cons_self rfl

/-- The first edge that leads to no node is reported. -/
theorem count_dangling (nodes : List α) (edges : List (α × α))
    (sources : ∀edge∈edges,edge.1∈nodes) (dangling : ¬Closed nodes edges) :
    ∃b,edges.foldlM count (emptyTables nodes)=.error (.missing b) := by
  have each (before after : List (α × α)) (known : ∀edge∈after,edge.1∈nodes)
      (dangling : ¬∀edge∈after,edge.2∈nodes) :
      ∃b,after.foldlM count (tablesOf nodes before)=.error (.missing b) := by
    induction after generalizing before with
    | nil => simp at dangling
    | cons edge after ih =>
      have source := known edge List.mem_cons_self
      rw [List.foldlM_cons]
      by_cases target : edge.2∈nodes
      · rw [count_tablesOf nodes before edge source target]
        have later : ¬∀edge∈after,edge.2∈nodes := by
          intro all
          apply dangling
          simpa [target] using all
        exact ih (before++[edge]) (fun edge mem => known edge (List.mem_cons_of_mem _ mem)) later
      · have stops : count (tablesOf nodes before) edge=.error (.missing edge.2) := by
          simp [count,tablesOf,target]
        rw [stops]
        exact ⟨edge.2,by simp [bind,Except.bind]⟩
  have start : emptyTables nodes=tablesOf nodes [] := rfl
  rw [start]
  apply each [] edges sources
  intro targets
  exact dangling fun edge mem => ⟨sources edge mem,targets edge mem⟩

/-- There is an order unless an edge leads to no node or the edges run in a cycle, and no counter
is taken below zero. -/
theorem order_exact (position : α → Nat) (nodup : nodes.Nodup)
    (sources : ∀edge∈edges,edge.1∈nodes) :
    ((∃failure,order position nodes edges=.error failure) ↔
      ¬Closed nodes edges ∨ ∃a,Relation.TransGen (Edge edges) a a) ∧
    order position nodes edges≠.error .underflow := by
  by_cases closed : Closed nodes edges
  · obtain ⟨result,remaining,run,sorted⟩ := drain_sorted position closed (nodes.length+1) _
      (sorted_start nodes nodup edges) (by simp)
    have planned : order position nodes edges=
        if result.length≠nodes.length then .error .cycle else .ok result := by
      simp only [order,count_edges nodes edges closed,run]
    refine ⟨⟨?_,?_⟩,?_⟩
    · intro h
      obtain ⟨failure,failed⟩ := h
      by_contra none
      push Not at none
      obtain ⟨ordered,done⟩ := order_isOk position nodup closed none.2
      cases failed.symm.trans done
    · intro h
      obtain ⟨a,cycle⟩ := h.resolve_left (not_not_intro closed)
      cases done : order position nodes edges with
      | error failure => exact ⟨failure,rfl⟩
      | ok ordered =>
        obtain ⟨perm,sources⟩ := order_ok position nodup closed ordered done
        have known : a∈nodes := by
          obtain ⟨b,edge,-⟩ := Relation.TransGen.head'_iff.mp cycle
          exact (closed _ edge).1
        exact absurd cycle
          (sources.acyclic (perm.nodup_iff.mpr nodup) (perm.mem_iff.mpr known))
    · rw [planned]
      split <;> simp
  · obtain ⟨b,failed⟩ := count_dangling nodes edges sources closed
    have stopped : order position nodes edges=.error (.missing b) := by
      simp only [order,failed]
    rw [stopped]
    exact ⟨⟨fun _ => .inl closed,fun _ => ⟨_,rfl⟩⟩,by simp⟩

/-- The order so far agrees with the other one, or has taken a lower position where they part. -/
def Leads (position : α → Nat) (ordered other : List α) : Prop :=
  ordered <+: other ∨ ∃common a b rest rest',ordered=common++a::rest ∧ other=common++b::rest' ∧
    position a<position b

omit [DecidableEq α] in
theorem Leads.lex {position : α → Nat} {ordered other : List α} (h : Leads position ordered other)
    (length : other.length≤ordered.length) :
    other=ordered ∨ ordered.map position<other.map position := by
  rcases h with same|parts
  · exact .inl (same.eq_of_length_le length).symm
  · obtain ⟨common,a,b,rest,rest',rfl,rfl,lower⟩ := parts
    refine .inr ?_
    rw [List.map_append,List.map_append]
    exact List.Lex.append_left _ (List.Lex.rel lower) _

/-- Taking the ready node with the lowest position keeps the lead over every order of the nodes. -/
theorem Sorted.leads {position : α → Nat} {s : State α} {other : List α} {a : α}
    (h : Sorted nodes edges s) (nodup : nodes.Nodup)
    (apart : ∀b∈nodes,position b=position a → b=a) (perm : other.Perm nodes) (sources : Sources edges other) (here : a∈s.ready)
    (lowest : ∀b∈s.ready,position a≤position b) (lead : Leads position s.ordered other) :
    Leads position (s.ordered++[a]) other := by
  rcases lead with same|parts
  · obtain ⟨rest,rfl⟩ := same
    have new : a∉s.ordered := fun old => (List.nodup_append.mp h.nodup).2.2 a old a here rfl
    have known : a∈nodes := ((h.ready a).mp (List.mem_append_right _ here)).1
    cases rest with
    | nil =>
      rw [List.append_nil] at perm
      exact absurd (perm.mem_iff.mpr known) new
    | cons b rest =>
      have target : b∈nodes := perm.mem_iff.mp (by simp)
      by_cases first : b=a
      · subst first
        exact .inl ⟨rest,by simp⟩
      · refine .inr ⟨s.ordered,a,b,[],rest,rfl,rfl,?_⟩
        have none : waiting edges s.ordered b=0 := by
          refine List.countP_eq_zero.mpr fun edge mem => ?_
          simp only [decide_eq_true_eq,not_and,not_not]
          intro into
          exact sources s.ordered b rest rfl edge.1 (into ▸ mem)
        have fresh : b∉s.ordered := fun old =>
          (List.nodup_append.mp (perm.nodup_iff.mpr nodup)).2.2 b old b (by simp) rfl
        have listed := (List.mem_append.mp ((h.ready b).mpr ⟨target,none⟩)).resolve_left fresh
        have least := lowest b listed
        have differ : position b≠position a := fun same => first (apart b target same)
        omega
  · obtain ⟨common,c,d,rest,rest',split,split',lower⟩ := parts
    exact .inr ⟨common,c,d,rest++[a],rest',by rw [split]; simp,split',lower⟩

theorem drain_leads (position : α → Nat) (nodup : nodes.Nodup) (closed : Closed nodes edges)
    (apart : ∀a∈nodes,∀b∈nodes,position b=position a → b=a) (other : List α)
    (perm : other.Perm nodes) (sources : Sources edges other) (rounds : Nat) (s : State α)
    (h : Sorted nodes edges s) (lead : Leads position s.ordered other) (ordered : List α)
    (run : drain position (tablesOf nodes edges).targets rounds s=.ok ordered) :
    Leads position ordered other := by
  induction rounds generalizing s with
  | zero =>
    cases run
    exact lead
  | succ rounds ih =>
    have same := List.perm_insertionSort (position · ≤ position ·) s.ready
    rw [drain] at run
    cases sorted : s.ready.insertionSort (position · ≤ position ·) with
    | nil =>
      rw [sorted] at run
      cases run
      exact lead
    | cons a ready =>
      rw [sorted] at run same
      have here : a∈s.ready := same.mem_iff.mp List.mem_cons_self
      have known : a∈nodes := ((h.ready a).mp (List.mem_append_right _ here)).1
      obtain ⟨remaining,ready',released,next⟩ := h.round closed a ready same
      have ordered := List.pairwise_insertionSort (position · ≤ position ·) s.ready
      rw [sorted] at ordered
      have lowest : ∀b∈s.ready,position a≤position b := by
        intro b mem
        rcases List.mem_cons.mp (same.mem_iff.mpr mem) with rfl|later
        · exact Nat.le_refl _
        · exact (List.pairwise_cons.mp ordered).1 b later
      simp only [tablesOf,if_pos known,released] at run
      exact ih _ next (h.leads nodup (apart a known) perm sources here lowest lead) run

/-- Among all orders of the nodes that respect the edges this one is the lexicographically least. -/
theorem order_least (position : α → Nat) (nodup : nodes.Nodup) (closed : Closed nodes edges)
    (apart : ∀a∈nodes,∀b∈nodes,position b=position a → b=a) (ordered : List α)
    (h : order position nodes edges=.ok ordered) (other : List α) (perm : other.Perm nodes)
    (sources : Sources edges other) :
    other=ordered ∨ ordered.map position<other.map position := by
  obtain ⟨same,-⟩ := order_ok position nodup closed ordered h
  obtain ⟨result,remaining,run,-⟩ := drain_sorted position closed (nodes.length+1) _
    (sorted_start nodes nodup edges) (by simp)
  have lead := drain_leads position nodup closed apart other perm sources (nodes.length+1) _
    (sorted_start nodes nodup edges) (.inl List.nil_prefix) result run
  simp only [order,count_edges nodes edges closed,run] at h
  split_ifs at h
  cases h
  exact lead.lex (by rw [perm.length_eq,same.length_eq])

end ReadyOrder
