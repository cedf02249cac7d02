import Mathlib.Algebra.BigOperators.Group.List.Basic
import Mathlib.Data.List.Perm.Basic
import AkuSupervisor.Lib.DependencyOrder

/-! What some nodes of a finite graph need, gathered by a worklist, and added up by a depth-first
visit that counts every node once. -/

namespace DependencyGraph

variable {α : Type} [DecidableEq α] (g : DependencyGraph α)

theorem ahead_mono {path path' : List α} (more : ∀a∈path,a∈path') :
    g.ahead path' ≤ g.ahead path := by
  refine List.Sublist.length_le (List.monotone_filter_right _ fun b out => ?_)
  simp only [decide_eq_true_eq] at out ⊢
  exact fun mem => out (more b mem)

/-- The nodes found by taking pending ones from the top of a stack until it is empty, the last one
first. The dependencies of a registered node that is new are pushed in their order. -/
def sweep : List α → List α → List α
  | found,[] => found
  | found,a::pending =>
    if a∈found then sweep found pending
    else
      match _ : g.dependencies a with
      | none => sweep (a::found) pending
      | some deps => sweep (a::found) (deps.reverse++pending)
termination_by found pending => (g.ahead found,pending.length)
decreasing_by
  · exact .right _ (by simp)
  · exact Prod.Lex.right' _ (g.ahead_mono fun b mem => List.mem_cons_of_mem a mem) (by simp)
  · exact .left _ _ (g.ahead_lt found a (g.closed a deps (by assumption)) (by assumption))

/-- A depth-first visit with the nodes visited before: what `a` and the nodes it needs weigh, without
those visited, and the nodes visited after it. Without enough fuel, or when a node is not
registered, there is no result. -/
def tally (plus : Nat → Nat → Nat) (weigh : α → Nat → Nat) :
    Nat → List α → α → Option (Nat × List α)
  | 0,_,_ => none
  | fuel+1,visited,a =>
    if a∈visited then some (0,visited)
    else do
      let deps ← g.dependencies a
      let below ← deps.foldlM (fun (sum,visited) dependency => do
        let visit ← tally plus weigh fuel visited dependency
        return (plus sum visit.1,visit.2)) (0,a::visited)
      return (weigh a below.1,below.2)

variable {g}

/-- Every node found is new or was found before, and what a new one depends on is found or is
still pending. -/
structure Swept (g : DependencyGraph α) (found pending found' : List α) : Prop where
  kept : ∀x∈found,x∈found'
  fresh : ∀x∈found',x∈found ∨ g.Needs pending x
  covered : ∀a∈pending,a∈found'
  closed : ∀x∈found',x∉found → ∀y,g.Edge x y → y∈found'
  nodup : found.Nodup → found'.Nodup

omit [DecidableEq α] in
/-- A new node is found, and its dependencies are pending in its place. -/
theorem Swept.cons {found pending deps found' : List α} {a : α}
    (h : g.Swept (a::found) (deps.reverse++pending) found') (new : a∉found)
    (edges : ∀y,g.Edge a y ↔ y∈deps) : g.Swept found (a::pending) found' := by
  have source : a∈found' := h.kept a List.mem_cons_self
  refine ⟨fun x mem => h.kept x (List.mem_cons_of_mem a mem),fun x mem => ?_,fun x mem => ?_,
    fun x mem out y edge => ?_,fun nodup => h.nodup (List.nodup_cons.mpr ⟨new,nodup⟩)⟩
  · rcases h.fresh x mem with before|⟨b,pend,path⟩
    · rcases List.mem_cons.mp before with rfl|old
      · exact .inr ⟨x,by simp,.refl⟩
      · exact .inl old
    · rcases List.mem_append.mp pend with pushed|later
      · have edge := (edges b).mpr (List.mem_reverse.mp pushed)
        exact .inr ⟨a,by simp,.head edge path⟩
      · exact .inr ⟨b,by simp [later],path⟩
  · rcases List.mem_cons.mp mem with rfl|later
    · exact source
    · exact h.covered x (List.mem_append_right _ later)
  · by_cases same : x=a
    · subst same
      exact h.covered y (List.mem_append_left _ (List.mem_reverse.mpr ((edges y).mp edge)))
    · exact h.closed x mem (by simp [same,out]) y edge

theorem sweep_swept (found pending : List α) : g.Swept found pending (g.sweep found pending) := by
  induction found,pending using sweep.induct (g := g) with
  | case1 found =>
    rw [sweep]
    exact ⟨fun _ h => h,fun _ h => .inl h,by simp,fun _ h out => absurd h out,id⟩
  | case2 found a pending old ih =>
    rw [sweep,if_pos old]
    refine ⟨ih.kept,fun x mem => ?_,fun x mem => ?_,ih.closed,ih.nodup⟩
    · rcases ih.fresh x mem with before|needed
      · exact .inl before
      · exact .inr (needed.mono (by simp +contextual))
    · rcases List.mem_cons.mp mem with rfl|later
      · exact ih.kept x old
      · exact ih.covered x later
  | case3 found a pending new absent ih =>
    have step : g.sweep found (a::pending)=g.sweep (a::found) pending := by
      rw [sweep,if_neg new]
      split
      · rfl
      · rename_i deps registered
        rw [absent] at registered
        cases registered
    rw [step]
    have swept : g.Swept (a::found) (([] : List α).reverse++pending) (g.sweep (a::found) pending) :=
      ih
    refine swept.cons new fun y => ?_
    simp [Edge,absent]
  | case4 found a pending new deps registered ih =>
    have step : g.sweep found (a::pending)=g.sweep (a::found) (deps.reverse++pending) := by
      rw [sweep,if_neg new]
      split
      · rename_i absent
        rw [absent] at registered
        cases registered
      · rename_i other registered'
        rw [registered'] at registered
        cases registered
        rfl
    rw [List.unattach_reverse,List.unattach_attach] at ih
    rw [step]
    refine Swept.cons ih new fun y => ?_
    simp [Edge,registered]

/-- The worklist finds exactly what the pending nodes need, each node once. -/
theorem sweep_needs (pending : List α) :
    (g.sweep [] pending).Nodup ∧ ∀x,x∈g.sweep [] pending ↔ g.Needs pending x := by
  have swept := sweep_swept (g := g) [] pending
  refine ⟨swept.nodup List.nodup_nil,fun x => ⟨fun mem => ?_,fun needed => ?_⟩⟩
  · exact (swept.fresh x mem).resolve_left (by simp)
  · obtain ⟨a,source,path⟩ := needed
    induction path with
    | refl => exact swept.covered a source
    | tail _ edge ih => exact swept.closed _ ih (by simp) _ edge

/-- The nodes that a visit of the sources adds to those visited. -/
structure Gathered (g : DependencyGraph α) (sources visited added : List α) : Prop where
  needed : ∀x∈added,g.Needs sources x
  covered : ∀a∈sources,a∈added++visited
  closed : ∀x∈added,∀y,g.Edge x y → y∈added++visited
  nodup : visited.Nodup → (added++visited).Nodup

omit [DecidableEq α] in
theorem Gathered.cons {sources visited first later : List α} {a : α}
    (head : g.Gathered [a] visited first) (tail : g.Gathered sources (first++visited) later) :
    g.Gathered (a::sources) visited (later++first) := by
  refine ⟨fun x mem => ?_,fun x mem => ?_,fun x mem y edge => ?_,fun nodup => ?_⟩
  · rcases List.mem_append.mp mem with new|old
    · exact (tail.needed x new).mono (by simp +contextual)
    · exact (head.needed x old).mono (by simp)
  · rw [List.append_assoc]
    rcases List.mem_cons.mp mem with rfl|other
    · exact List.mem_append_right _ (head.covered x (by simp))
    · exact tail.covered x other
  · rw [List.append_assoc]
    rcases List.mem_append.mp mem with new|old
    · exact tail.closed x new y edge
    · exact List.mem_append_right _ (head.closed x old y edge)
  · rw [List.append_assoc]
    exact tail.nodup (head.nodup nodup)

omit [DecidableEq α] in
/-- A new node joins those that its dependencies add. -/
theorem Gathered.node {deps visited added : List α} {a : α}
    (h : g.Gathered deps (a::visited) added) (new : a∉visited)
    (registered : g.dependencies a=some deps) : g.Gathered [a] visited (added++[a]) := by
  have parts : added++[a]++visited=added++a::visited := by simp
  refine ⟨fun x mem => ?_,fun x mem => ?_,fun x mem y edge => ?_,fun nodup => ?_⟩
  · rcases List.mem_append.mp mem with below|last
    · exact needs_of_dependency registered (h.needed x below)
    · exact ⟨a,by simp,by rw [List.mem_singleton.mp last]⟩
  · rw [List.mem_singleton.mp mem]
    simp
  · rw [parts]
    rcases List.mem_append.mp mem with below|last
    · exact h.closed x below y edge
    · rw [List.mem_singleton.mp last] at edge
      obtain ⟨deps',registered',mem'⟩ := edge
      cases registered.symm.trans registered'
      exact h.covered y mem'
  · rw [parts]
    exact h.nodup (List.nodup_cons.mpr ⟨new,nodup⟩)

section Tally

variable {plus : Nat → Nat → Nat} {weigh : α → Nat → Nat} {total : List α → Nat}
  (empty : total []=0) (append : ∀added before,plus (total before) (total added)=total (added++before))
  (node : ∀added a,weigh a (total added)=total (added++[a]))

include append in
theorem foldlM_gathered (fuel : Nat) (sources visited before : List α)
    (each : ∀a∈sources,∀earlier,∃added,
      g.tally plus weigh fuel (earlier++visited) a=some (total added,added++(earlier++visited)) ∧
        g.Gathered [a] (earlier++visited) added) :
    ∃added,sources.foldlM (fun (sum : Nat × List α) dependency => do
          let visit ← g.tally plus weigh fuel sum.2 dependency
          return (plus sum.1 visit.1,visit.2)) (total before,visited)=
        some (total (added++before),added++visited) ∧
      g.Gathered sources visited added := by
  induction sources generalizing visited before with
  | nil => exact ⟨[],rfl,by simp,by simp,by simp,fun nodup => nodup⟩
  | cons a sources ih =>
    obtain ⟨first,run,head⟩ := each a List.mem_cons_self []
    rw [List.nil_append] at run head
    obtain ⟨later,rest,tail⟩ := ih (first++visited) (first++before) fun b mem earlier => by
      have visit := each b (List.mem_cons_of_mem a mem) (earlier++first)
      rwa [List.append_assoc] at visit
    refine ⟨later++first,?_,head.cons tail⟩
    rw [List.foldlM_cons,run]
    simp only [Option.bind_eq_bind,Option.bind_some,Option.pure_def,append]
    rw [List.append_assoc,List.append_assoc]
    exact rest

include empty append node in
/-- With enough fuel a visit weighs what the node needs and was not visited, every node once. -/
theorem tally_gathered (fuel : Nat) (visited : List α) (a : α) (enough : g.ahead visited < fuel)
    (known : ∀x,g.Needs [a] x → g.dependencies x≠none) :
    ∃added,g.tally plus weigh fuel visited a=some (total added,added++visited) ∧
      g.Gathered [a] visited added := by
  induction fuel generalizing visited a with
  | zero => omega
  | succ fuel ih =>
    rw [tally]
    by_cases old : a∈visited
    · rw [if_pos old,← empty]
      exact ⟨[],rfl,by simp,by simpa using old,by simp,fun nodup => nodup⟩
    · rw [if_neg old]
      obtain ⟨deps,registered⟩ := Option.ne_none_iff_exists'.mp (known a ⟨a,by simp,.refl⟩)
      have closer := g.ahead_lt visited a (g.closed a deps registered) old
      obtain ⟨added,run,below⟩ := foldlM_gathered append fuel deps (a::visited) []
        fun b mem earlier => by
          have fewer : g.ahead (earlier++a::visited) ≤ g.ahead (a::visited) :=
            g.ahead_mono fun x mem => List.mem_append_right _ mem
          refine ih (earlier++a::visited) b (by omega) fun x needed => ?_
          obtain ⟨source,at',path⟩ := needed
          rw [List.mem_singleton.mp at'] at path
          exact known x (needs_of_dependency registered ⟨b,mem,path⟩)
      refine ⟨added++[a],?_,below.node old registered⟩
      rw [empty] at run
      simp only [registered,Option.bind_eq_bind,Option.bind_some,Option.pure_def] at run ⊢
      rw [run,List.append_nil,List.append_assoc]
      simp only [Option.bind_some,node]
      rfl

include empty append node in
/-- From nothing visited, exactly what the node needs is counted, every node once. -/
theorem tally_needs (fuel : Nat) (a : α) (enough : g.registered.length < fuel)
    (known : ∀x,g.Needs [a] x → g.dependencies x≠none) :
    ∃found,g.tally plus weigh fuel [] a=some (total found,found) ∧ found.Nodup ∧
      ∀x,x∈found ↔ g.Needs [a] x := by
  have all : g.ahead []=g.registered.length := by simp [ahead]
  obtain ⟨found,run,gathered⟩ := tally_gathered empty append node fuel [] a (by omega) known
  have whole : found++[]=found := List.append_nil found
  rw [whole] at run
  refine ⟨found,run,?_,fun x => ⟨gathered.needed x,fun needed => ?_⟩⟩
  · have nodup := gathered.nodup List.nodup_nil
    rwa [whole] at nodup
  · obtain ⟨source,at',path⟩ := needed
    induction path with
    | refl =>
      have mem := gathered.covered source at'
      rwa [whole] at mem
    | tail _ edge ih =>
      have mem := gathered.closed _ ih _ edge
      rwa [whole] at mem

end Tally

end DependencyGraph
