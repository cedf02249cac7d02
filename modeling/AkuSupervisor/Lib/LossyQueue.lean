import Mathlib.Data.List.Induction
import Mathlib.Tactic.Common

/-! A queue that loses what does not fit, counts it, and tells the count before the next item that
does. -/

/-- What comes out of such a queue: an item, or a gap, told when `next` was offered. -/
inductive Told (α : Type) where
  | item (a : α)
  | gap (lost : Nat) (next : α)

namespace LossyQueue

variable {α : Type} {offered : List α} {told before after : List (Told α)} {lost n : Nat} {a : α}

def Told.item? : Told α → Option α
  | .item a => some a
  | .gap _ _ => none

def items (told : List (Told α)) : List α := told.filterMap Told.item?

/-- The sum of the counts of all gaps. -/
def gapTotal : List (Told α) → Nat
  | [] => 0
  | .item _::told => gapTotal told
  | .gap lost _::told => lost+gapTotal told

@[simp] theorem items_nil : items ([] : List (Told α))=[] := rfl

@[simp] theorem items_append (told more : List (Told α)) :
    items (told++more)=items told++items more := List.filterMap_append

@[simp] theorem items_item (a : α) (told : List (Told α)) :
    items (.item a::told)=a::items told := rfl

@[simp] theorem items_gap (lost : Nat) (a : α) (told : List (Told α)) :
    items (.gap lost a::told)=items told := rfl

@[simp] theorem gapTotal_append (told more : List (Told α)) :
    gapTotal (told++more)=gapTotal told+gapTotal more := by
  induction told with
  | nil => simp [gapTotal]
  | cons head told ih =>
    cases head with
    | item a => simpa [gapTotal] using ih
    | gap lost a =>
      simp only [List.cons_append,gapTotal,ih]
      omega

/-- `told` is what the queue has told of the items that were offered to it one by one, and the last
`lost` of them are lost and not told yet. -/
inductive Accounts : List α → List (Told α) → Nat → Prop
  | start : Accounts [] [] 0
  | passed {offered : List α} {told : List (Told α)} (a : α) (accounts : Accounts offered told 0) :
      Accounts (offered++[a]) (told++[.item a]) 0
  | dropped {offered : List α} {told : List (Told α)} {lost : Nat} (a : α)
      (accounts : Accounts offered told lost) : Accounts (offered++[a]) told (lost+1)
  | gapPassed {offered : List α} {told : List (Told α)} {lost : Nat} (a : α)
      (accounts : Accounts offered told lost) (some_lost : 0<lost) :
      Accounts (offered++[a]) (told++[.gap lost a,.item a]) 0
  | gapDropped {offered : List α} {told : List (Told α)} {lost : Nat} (a : α)
      (accounts : Accounts offered told lost) (some_lost : 0<lost) :
      Accounts (offered++[a]) (told++[.gap lost a]) 1

/-- Every item is told, or counted in a gap, or lost and not told yet. -/
theorem Accounts.count (accounts : Accounts offered told lost) :
    offered.length=(items told).length+gapTotal told+lost := by
  induction accounts with
  | start => rfl
  | passed a accounts ih =>
    simp only [List.length_append,List.length_singleton,items_append,items_item,items_nil,
      gapTotal_append,gapTotal]
    omega
  | dropped a accounts ih =>
    simp only [List.length_append,List.length_singleton]
    omega
  | gapPassed a accounts some_lost ih =>
    simp only [List.length_append,List.length_singleton,items_append,items_gap,items_item,
      items_nil,gapTotal_append,gapTotal]
    omega
  | gapDropped a accounts some_lost ih =>
    simp only [List.length_append,List.length_singleton,items_append,items_gap,items_nil,
      gapTotal_append,gapTotal,List.append_nil]
    omega

/-- The items that are lost and not told yet are the last ones. -/
theorem Accounts.pending (accounts : Accounts offered told lost) :
    ∃kept gone,offered=kept++gone ∧ gone.length=lost ∧ List.Sublist (items told) kept := by
  induction accounts with
  | start => exact ⟨[],[],rfl,rfl,List.Sublist.refl _⟩
  | passed a accounts ih =>
    obtain ⟨kept,gone,rfl,-,inside⟩ := ih
    refine ⟨kept++gone++[a],[],(List.append_nil _).symm,rfl,?_⟩
    rw [items_append]
    exact (inside.trans (List.sublist_append_left _ _)).append (List.Sublist.refl _)
  | dropped a accounts ih =>
    obtain ⟨kept,gone,rfl,size,inside⟩ := ih
    exact ⟨kept,gone++[a],List.append_assoc _ _ _,by simp [size],inside⟩
  | gapPassed a accounts some_lost ih =>
    obtain ⟨kept,gone,rfl,-,inside⟩ := ih
    refine ⟨kept++gone++[a],[],(List.append_nil _).symm,rfl,?_⟩
    rw [items_append]
    exact (inside.trans (List.sublist_append_left _ _)).append (List.Sublist.refl _)
  | gapDropped a accounts some_lost ih =>
    obtain ⟨kept,gone,rfl,-,inside⟩ := ih
    refine ⟨kept++gone,[a],rfl,rfl,?_⟩
    rw [items_append,items_gap,items_nil,List.append_nil]
    exact inside.trans (List.sublist_append_left _ _)

/-- The items that are told come in the order in which they were offered. -/
theorem Accounts.sublist (accounts : Accounts offered told lost) :
    List.Sublist (items told) offered := by
  obtain ⟨kept,gone,rfl,-,inside⟩ := accounts.pending
  exact inside.trans (List.sublist_append_left _ _)

/-- An entry of a list that grew at its end is the new one or was there before. -/
theorem snoc_split {β : Type} {old before after : List β} {x y : β}
    (split : old++[x]=before++y::after) :
    (after=[] ∧ old=before ∧ x=y) ∨ ∃more,after=more++[x] ∧ old=before++y::more := by
  cases after using List.reverseRecOn with
  | nil =>
    obtain ⟨part,same⟩ := List.append_inj' split rfl
    exact .inl ⟨rfl,part,List.head_eq_of_cons_eq same⟩
  | append_singleton more last =>
    rw [← List.cons_append,← List.append_assoc] at split
    obtain ⟨part,same⟩ := List.append_inj' split rfl
    exact .inr ⟨more,by rw [List.head_eq_of_cons_eq same],part⟩

/-- A gap counts the items right before the one it is told with: what is told before it was offered
before them, and what is told after it was offered after them. -/
theorem Accounts.gap (accounts : Accounts offered told lost)
    (split : told=before++.gap n a::after) :
    ∃first gone rest,offered=first++gone++a::rest ∧ gone.length=n ∧
      List.Sublist (items before) first ∧ List.Sublist (items after) (a::rest) := by
  induction accounts generalizing after with
  | start => simp at split
  | passed b accounts ih =>
    rcases snoc_split split with ⟨-,-,same⟩|⟨more,rfl,part⟩
    · cases same
    · obtain ⟨first,gone,rest,rfl,size,front,back⟩ := ih part
      refine ⟨first,gone,rest++[b],by simp,size,front,?_⟩
      rw [items_append,← List.cons_append]
      exact back.append (List.Sublist.refl _)
  | dropped b accounts ih =>
    obtain ⟨first,gone,rest,rfl,size,front,back⟩ := ih split
    refine ⟨first,gone,rest++[b],by simp,size,front,?_⟩
    rw [← List.cons_append]
    exact back.trans (List.sublist_append_left _ _)
  | @gapPassed offered told lost b accounts some_lost ih =>
    rw [List.append_cons told] at split
    rcases snoc_split split with ⟨-,-,same⟩|⟨more,rfl,part⟩
    · cases same
    · rcases snoc_split part with ⟨rfl,rfl,same⟩|⟨more,rfl,inner⟩
      · cases same
        obtain ⟨kept,gone,rfl,size,inside⟩ := accounts.pending
        exact ⟨kept,gone,[],rfl,size,inside,List.Sublist.refl _⟩
      · obtain ⟨first,gone,rest,rfl,size,front,back⟩ := ih inner
        refine ⟨first,gone,rest++[b],by simp,size,front,?_⟩
        rw [items_append,items_append,items_gap,items_nil,List.append_nil,← List.cons_append]
        exact back.append (List.Sublist.refl _)
  | gapDropped b accounts some_lost ih =>
    rcases snoc_split split with ⟨rfl,rfl,same⟩|⟨more,rfl,part⟩
    · cases same
      obtain ⟨kept,gone,rfl,size,inside⟩ := accounts.pending
      exact ⟨kept,gone,[],rfl,size,inside,List.nil_sublist _⟩
    · obtain ⟨first,gone,rest,rfl,size,front,back⟩ := ih part
      refine ⟨first,gone,rest++[b],by simp,size,front,?_⟩
      rw [items_append,items_gap,items_nil,List.append_nil,← List.cons_append]
      exact back.trans (List.sublist_append_left _ _)

/-- What was told up to an item accounts for what was offered up to it. -/
theorem Accounts.upTo_item (accounts : Accounts offered told lost)
    (split : told=before++.item a::after) :
    ∃first rest,offered=first++a::rest ∧ Accounts (first++[a]) (before++[.item a]) 0 ∧
      List.Sublist (items after) rest := by
  induction accounts generalizing after with
  | start => simp at split
  | @passed offered told b accounts ih =>
    rcases snoc_split split with ⟨rfl,rfl,same⟩|⟨more,rfl,part⟩
    · cases same
      exact ⟨offered,[],rfl,.passed a accounts,List.nil_sublist _⟩
    · obtain ⟨first,rest,rfl,upto,back⟩ := ih part
      refine ⟨first,rest++[b],by simp,upto,?_⟩
      rw [items_append]
      exact back.append (List.Sublist.refl _)
  | dropped b accounts ih =>
    obtain ⟨first,rest,rfl,upto,back⟩ := ih split
    exact ⟨first,rest++[b],by simp,upto,back.trans (List.sublist_append_left _ _)⟩
  | @gapPassed offered told lost b accounts some_lost ih =>
    rw [List.append_cons told] at split
    rcases snoc_split split with ⟨rfl,rfl,same⟩|⟨more,rfl,part⟩
    · cases same
      refine ⟨offered,[],rfl,?_,List.nil_sublist _⟩
      rw [← List.append_cons]
      exact .gapPassed a accounts some_lost
    · rcases snoc_split part with ⟨-,-,same⟩|⟨more,rfl,inner⟩
      · cases same
      · obtain ⟨first,rest,rfl,upto,back⟩ := ih inner
        refine ⟨first,rest++[b],by simp,upto,?_⟩
        rw [items_append,items_append,items_gap,items_nil,List.append_nil]
        exact back.append (List.Sublist.refl _)
  | gapDropped b accounts some_lost ih =>
    rcases snoc_split split with ⟨-,-,same⟩|⟨more,rfl,part⟩
    · cases same
    · obtain ⟨first,rest,rfl,upto,back⟩ := ih part
      refine ⟨first,rest++[b],by simp,upto,?_⟩
      rw [items_append,items_gap,items_nil,List.append_nil]
      exact back.trans (List.sublist_append_left _ _)

/-- `x` is one of the items that a gap counts: they are the ones right before the item the gap was
told with. -/
def CountedIn (told : List (Told α)) (offered : List α) (x : α) : Prop :=
  ∃lost a first gone rest,.gap lost a∈told ∧ offered=first++gone++a::rest ∧ gone.length=lost ∧
    x∈gone

theorem CountedIn.mono {x : α} (counted : CountedIn told offered x) {more : List (Told α)}
    (earlier later : List α) (inside : ∀entry∈told,entry∈more) :
    CountedIn more (earlier++offered++later) x := by
  obtain ⟨lost,a,first,gone,rest,mem,rfl,size,here⟩ := counted
  exact ⟨lost,a,earlier++first,gone,rest++later,inside _ mem,by simp,size,here⟩

/-- Every item is told or counted in a gap, but for the last ones, which are lost and not told. -/
theorem Accounts.covers (accounts : Accounts offered told lost) :
    ∃kept gone,offered=kept++gone ∧ gone.length=lost ∧
      ∀x∈kept,x∈items told ∨ CountedIn told offered x := by
  have more {told : List (Told α)} (told' : List (Told α)) {offered : List α} {x : α} (b : α)
      (known : x∈items told ∨ CountedIn told offered x) :
      x∈items (told++told') ∨ CountedIn (told++told') (offered++[b]) x := by
    rcases known with told_of|counted
    · exact .inl (by simp [told_of])
    · have wider := counted.mono [] [b] fun entry mem =>
        List.mem_append_left told' mem
      exact .inr wider
  induction accounts with
  | start => exact ⟨[],[],rfl,rfl,by simp⟩
  | passed b accounts ih =>
    obtain ⟨kept,gone,rfl,size,known⟩ := ih
    have none_gone := List.eq_nil_of_length_eq_zero size
    refine ⟨kept++gone++[b],[],(List.append_nil _).symm,rfl,fun x mem => ?_⟩
    rcases List.mem_append.mp mem with old|new
    · rw [none_gone,List.append_nil] at old ⊢
      rw [none_gone,List.append_nil] at known
      exact more _ b (known x old)
    · exact .inl (by simpa using Or.inr (List.mem_singleton.mp new))
  | dropped b accounts ih =>
    obtain ⟨kept,gone,rfl,size,known⟩ := ih
    refine ⟨kept,gone++[b],List.append_assoc _ _ _,by simp [size],fun x mem => ?_⟩
    simpa using more [] b (known x mem)
  | @gapPassed _ told lost b accounts some_lost ih =>
    obtain ⟨kept,gone,rfl,size,known⟩ := ih
    refine ⟨kept++gone++[b],[],(List.append_nil _).symm,rfl,fun x mem => ?_⟩
    rcases List.mem_append.mp mem with old|new
    · rcases List.mem_append.mp old with told_of|lost_here
      · exact more _ b (known x told_of)
      · exact .inr ⟨lost,b,kept,gone,[],by simp,rfl,size,lost_here⟩
    · exact .inl (by simpa using Or.inr (List.mem_singleton.mp new))
  | @gapDropped _ told lost b accounts some_lost ih =>
    obtain ⟨kept,gone,rfl,size,known⟩ := ih
    refine ⟨kept++gone,[b],rfl,rfl,fun x mem => ?_⟩
    rcases List.mem_append.mp mem with told_of|lost_here
    · exact more _ b (known x told_of)
    · exact .inr ⟨lost,b,kept,gone,[],by simp,rfl,size,lost_here⟩

end LossyQueue
