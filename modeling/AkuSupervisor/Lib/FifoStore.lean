import Mathlib.Data.Finset.Card
import Mathlib.Data.Finset.Dedup
import Mathlib.Data.List.DropRight
import Mathlib.Tactic.Common
import Std.Data.ExtTreeMap.Lemmas

/-! A store of bounded size that forgets its oldest entry first. -/

/-- The entries of a store, and their keys in the order in which they came, oldest first. -/
structure FifoStore (κ ν : Type) [Ord κ] where
  entries : Std.ExtTreeMap κ ν
  order : List κ

namespace FifoStore

variable {κ ν : Type} [Ord κ]

def empty : FifoStore κ ν := ⟨∅,[]⟩

/-- Forgets the oldest entries until there are fewer than `capacity`. Nothing comes out if the queue
runs dry before: a loop that waits for fewer entries then never ends. -/
def evict [Std.TransOrd κ] (capacity : Nat) :
    List κ → Std.ExtTreeMap κ ν → Option (FifoStore κ ν)
  | [],entries => if entries.size<capacity then some ⟨entries,[]⟩ else none
  | oldest::order,entries =>
    if entries.size<capacity then some ⟨entries,oldest::order⟩
    else evict capacity order (entries.erase oldest)

/-- Stores a new key with its value; a known key keeps the value it has. -/
def store [Std.TransOrd κ] (capacity : Nat) (s : FifoStore κ ν) (k : κ) (v : ν) :
    Option (FifoStore κ ν) :=
  if k∈s.entries then some s
  else (evict capacity s.order s.entries).map fun kept =>
    ⟨kept.entries.insert k v,kept.order++[k]⟩

/-- The queue lists every key once, and the bound is kept. -/
structure Sound [Std.TransOrd κ] (capacity : Nat) (s : FifoStore κ ν) : Prop where
  nodup : s.order.Nodup
  keys : ∀k,k∈s.order ↔ k∈s.entries
  bounded : s.entries.size≤capacity

section Step

variable [Std.TransOrd κ] {capacity : Nat} {s after : FifoStore κ ν} {k : κ} {v : ν}

theorem sound_empty : Sound capacity (empty : FifoStore κ ν) := by
  refine ⟨List.nodup_nil,fun k => ?_,Nat.zero_le _⟩
  simp [empty]

theorem evict_below (order : List κ) (entries : Std.ExtTreeMap κ ν)
    (below : entries.size<capacity) : evict capacity order entries=some ⟨entries,order⟩ := by
  cases order with
  | nil => rw [evict,if_pos below]
  | cons oldest order => rw [evict,if_pos below]

theorem mem_entries (entries : Std.ExtTreeMap κ ν) (key : κ) :
    key∈entries ↔ ∃value,entries[key]?=some value := by
  rw [Std.ExtTreeMap.mem_iff_isSome_getElem?,Option.isSome_iff_exists]

variable [Std.LawfulEqOrd κ]

theorem Sound.length_order (sound : Sound capacity s) :
    s.order.length=s.entries.size := by
  rw [← Std.ExtTreeMap.length_keys]
  apply List.Perm.length_eq
  rw [List.perm_ext_iff_of_nodup sound.nodup Std.ExtTreeMap.nodup_keys]
  intro k
  rw [sound.keys,Std.ExtTreeMap.mem_keys]

/-- What a sound store does with a key it does not hold: it forgets at most its oldest entry. -/
theorem Sound.store_new (sound : Sound capacity s) (some_room : 0<capacity)
    (new : k∉s.entries) :
    (s.entries.size<capacity ∧
      s.store capacity k v=some ⟨s.entries.insert k v,s.order++[k]⟩) ∨
    ∃oldest order,s.order=oldest::order ∧ s.entries.size=capacity ∧
      s.store capacity k v=some ⟨(s.entries.erase oldest).insert k v,order++[k]⟩ := by
  unfold store
  rw [if_neg new]
  by_cases below : s.entries.size<capacity
  · refine .inl ⟨below,?_⟩
    rw [evict_below _ _ below]
    rfl
  · have full : s.entries.size=capacity := by
      have bound := sound.bounded
      omega
    have length := sound.length_order
    cases queue : s.order with
    | nil =>
      rw [queue,List.length_nil] at length
      omega
    | cons oldest order =>
      refine .inr ⟨oldest,order,rfl,full,?_⟩
      have held : oldest∈s.entries := (sound.keys oldest).mp (queue ▸ List.mem_cons_self)
      have less : (s.entries.erase oldest).size<capacity := by
        rw [Std.ExtTreeMap.size_erase,if_pos (Std.ExtTreeMap.mem_iff_contains.mp held)]
        omega
      rw [evict,if_neg below,evict_below _ _ less]
      rfl

/-- Storing ends, whatever the key. -/
theorem Sound.store_isSome (sound : Sound capacity s) (some_room : 0<capacity) :
    (s.store capacity k v).isSome=true := by
  by_cases held : k∈s.entries
  · rw [store,if_pos held]
    rfl
  · rcases sound.store_new (v := v) some_room held with ⟨-,stored⟩|⟨_,_,-,-,stored⟩
    · rw [stored]
      rfl
    · rw [stored]
      rfl

theorem mem_insert_iff (entries : Std.ExtTreeMap κ ν) (key : κ) :
    key∈entries.insert k v ↔ k=key ∨ key∈entries := by
  rw [Std.ExtTreeMap.mem_insert,Std.LawfulEqCmp.compare_eq_iff_eq]

theorem mem_erase_iff (entries : Std.ExtTreeMap κ ν) (key : κ) :
    key∈entries.erase k ↔ k≠key ∧ key∈entries := by
  rw [Std.ExtTreeMap.mem_erase,ne_eq,Std.LawfulEqCmp.compare_eq_iff_eq]

theorem lookup_insert [DecidableEq κ] (entries : Std.ExtTreeMap κ ν) (key : κ) :
    (entries.insert k v)[key]?=if k=key then some v else entries[key]? := by
  simp only [Std.ExtTreeMap.getElem?_insert,Std.LawfulEqCmp.compare_eq_iff_eq]

theorem lookup_erase [DecidableEq κ] (entries : Std.ExtTreeMap κ ν) (key : κ) :
    (entries.erase k)[key]?=if k=key then none else entries[key]? := by
  simp only [Std.ExtTreeMap.getElem?_erase,Std.LawfulEqCmp.compare_eq_iff_eq]

theorem Sound.store (sound : Sound capacity s) (some_room : 0<capacity)
    (stored : s.store capacity k v=some after) : Sound capacity after := by
  by_cases held : k∈s.entries
  · rw [FifoStore.store,if_pos held] at stored
    cases stored
    exact sound
  · have fresh : k∉s.order := fun mem => held ((sound.keys k).mp mem)
    rcases sound.store_new (v := v) some_room held with ⟨below,known⟩|⟨oldest,order,queue,full,known⟩
    · rw [known] at stored
      cases stored
      refine ⟨List.nodup_append.mpr ⟨sound.nodup,List.nodup_singleton k,?_⟩,fun key => ?_,?_⟩
      · intro a mem b here same
        cases List.mem_singleton.mp here
        exact fresh (same ▸ mem)
      · rw [List.mem_append,List.mem_singleton,sound.keys,mem_insert_iff]
        constructor
        · intro h
          rcases h with old|new
          · exact .inr old
          · exact .inl new.symm
        · intro h
          rcases h with new|old
          · exact .inr new.symm
          · exact .inl old
      · have step := Std.ExtTreeMap.size_insert_le (t := s.entries) (k := k) (v := v)
        show (s.entries.insert k v).size≤capacity
        omega
    · rw [known] at stored
      cases stored
      have nodup := sound.nodup
      rw [queue] at nodup fresh
      obtain ⟨first,rest⟩ := List.nodup_cons.mp nodup
      refine ⟨List.nodup_append.mpr ⟨rest,List.nodup_singleton k,?_⟩,fun key => ?_,?_⟩
      · intro a mem b here same
        cases List.mem_singleton.mp here
        exact fresh (List.mem_cons_of_mem _ (same ▸ mem))
      · have listed := sound.keys key
        rw [queue,List.mem_cons] at listed
        rw [List.mem_append,List.mem_singleton,mem_insert_iff,mem_erase_iff,← listed]
        constructor
        · intro h
          rcases h with old|new
          · exact .inr ⟨fun same => first (same ▸ old),.inr old⟩
          · exact .inl new.symm
        · intro h
          rcases h with new|⟨other,same|old⟩
          · exact .inr new.symm
          · exact absurd same.symm other
          · exact .inl old
      · have held' : oldest∈s.entries := (sound.keys oldest).mp (queue ▸ List.mem_cons_self)
        have step := Std.ExtTreeMap.size_insert_le (t := s.entries.erase oldest) (k := k) (v := v)
        have less := Std.ExtTreeMap.size_erase (t := s.entries) (k := oldest)
        rw [if_pos (Std.ExtTreeMap.mem_iff_contains.mp held')] at less
        show ((s.entries.erase oldest).insert k v).size≤capacity
        omega

/-- A key that is held may change its value. -/
theorem Sound.update (sound : Sound capacity s) (held : k∈s.entries) :
    Sound capacity (⟨s.entries.insert k v,s.order⟩ : FifoStore κ ν) := by
  refine ⟨sound.nodup,fun key => ?_,?_⟩
  · rw [sound.keys,mem_insert_iff]
    constructor
    · exact .inr
    · intro h
      rcases h with same|old
      · exact same ▸ held
      · exact old
  · have size := Std.ExtTreeMap.size_insert (t := s.entries) (k := k) (v := v)
    rw [if_pos (Std.ExtTreeMap.mem_iff_contains.mp held)] at size
    have bound := sound.bounded
    show (s.entries.insert k v).size≤capacity
    omega

/-- A key may leave at any time. -/
theorem Sound.remove [DecidableEq κ] (sound : Sound capacity s) :
    Sound capacity (⟨s.entries.erase k,s.order.filter (·≠k)⟩ : FifoStore κ ν) := by
  refine ⟨sound.nodup.filter _,fun key => ?_,?_⟩
  · rw [List.mem_filter,decide_eq_true_eq,sound.keys,mem_erase_iff,and_comm,ne_comm]
  · have size := Std.ExtTreeMap.size_erase_le (t := s.entries) (k := k)
    have bound := sound.bounded
    show (s.entries.erase k).size≤capacity
    omega

end Step

section Stretches

variable {κ ν : Type} {capacity : Nat} {earlier since : List (κ × ν)}

/-- An entry with fewer than `capacity` behind it is among the last ones. -/
theorem mem_rtake {entry : κ × ν} (few : since.length<capacity) :
    entry∈(earlier++entry::since).rtake capacity := by
  have start : (earlier++entry::since).length-capacity≤earlier.length := by
    rw [List.length_append,List.length_cons]
    omega
  rw [List.rtake,List.drop_append_of_le_length start]
  exact List.mem_append_right _ List.mem_cons_self

theorem rtake_cons (n : Nat) (l : List (κ × ν)) (long : n<l.length) :
    ∃a,l.rtake (n+1)=a::l.rtake n := by
  have inside : l.length-(n+1)<l.length := by omega
  refine ⟨l[l.length-(n+1)],?_⟩
  have next : l.length-(n+1)+1=l.length-n := by omega
  rw [List.rtake,List.rtake,List.drop_eq_getElem_cons inside,next]

theorem rtake_all (n : Nat) (l : List (κ × ν)) (short : l.length≤n) : l.rtake n=l := by
  have start : l.length-n=0 := by omega
  rw [List.rtake,start,List.drop_zero]

/-- Keys that do not come again soon are distinct in every short stretch. -/
theorem nodup_stretch (n : Nat) (l : List (κ × ν))
    (spaced : ∀earlier entry since,l=earlier++entry::since →
      entry.1∉(since.take n).map Prod.fst) (m : Nat) (short : m≤n+1) :
    ((l.take m).map Prod.fst).Nodup := by
  induction l generalizing m with
  | nil => simp
  | cons a l ih =>
    cases m with
    | zero => simp
    | succ m =>
      rw [List.take_succ_cons,List.map_cons,List.nodup_cons]
      constructor
      · intro mem
        have near : m≤n := by omega
        apply spaced [] a l rfl
        exact List.map_subset _ (List.take_subset_take_left l near) mem
      · apply ih
        · intro earlier entry since split
          exact spaced (a::earlier) entry since (by rw [split]; rfl)
        · omega

end Stretches

section History

/-- The store after the keys of `history` came one by one: it holds the last `capacity` of them, and
no key came again among the `capacity` that followed it. -/
structure Remembers [Std.TransOrd κ] (capacity : Nat) (history : List (κ × ν))
    (s : FifoStore κ ν) : Prop where
  order : s.order=(history.rtake capacity).map Prod.fst
  values : ∀entry∈history.rtake capacity,s.entries[entry.1]?=some entry.2
  spaced : ∀earlier entry since,history=earlier++entry::since →
    entry.1∉(since.take capacity).map Prod.fst

variable [Std.TransOrd κ] {capacity : Nat} {history earlier since : List (κ × ν)}
  {s after : FifoStore κ ν} {k : κ} {v : ν}

theorem remembers_empty : Remembers capacity [] (empty : FifoStore κ ν) := by
  refine ⟨by simp [empty],fun entry mem => ?_,fun earlier entry since split => ?_⟩
  · simp at mem
  · simp at split

/-- A key is held with its value, and has not come again, as long as fewer than `capacity` other
keys came since. -/
theorem Remembers.recalls [DecidableEq κ] (remembers : Remembers capacity history s)
    (split : history=earlier++(k,v)::since)
    (few : ((since.map Prod.fst).toFinset.erase k).card<capacity) :
    k∉since.map Prod.fst ∧ s.entries[k]?=some v := by
  have stretch := nodup_stretch capacity ((k,v)::since) (fun earlier' entry since' part =>
    remembers.spaced (earlier++earlier') entry since' (by rw [split,part,List.append_assoc]))
    (capacity+1) (Nat.le_refl _)
  rw [List.take_succ_cons,List.map_cons,List.nodup_cons] at stretch
  obtain ⟨other,nodup⟩ := stretch
  have short : since.length<capacity := by
    by_contra long
    have inside : ((since.take capacity).map Prod.fst).toFinset⊆
        (since.map Prod.fst).toFinset.erase k := by
      intro key mem
      rw [List.mem_toFinset] at mem
      rw [Finset.mem_erase,List.mem_toFinset]
      exact ⟨fun same => other (same ▸ mem),List.map_subset _ (List.take_subset _ _) mem⟩
    have size := Finset.card_le_card inside
    rw [List.toFinset_card_of_nodup nodup,List.length_map,List.length_take] at size
    omega
  constructor
  · rwa [List.take_of_length_le (Nat.le_of_lt short)] at other
  · exact remembers.values (k,v) (split ▸ mem_rtake short)

/-- What a store holds has been put into it. -/
theorem Remembers.held (remembers : Remembers capacity history s) (sound : Sound capacity s)
    (held : s.entries[k]?=some v) : (k,v)∈history := by
  have known : k∈s.order := by
    rw [sound.keys,mem_entries]
    exact ⟨v,held⟩
  rw [remembers.order] at known
  obtain ⟨entry,mem,rfl⟩ := List.mem_map.mp known
  have same : entry.2=v := Option.some.inj ((remembers.values entry mem).symm.trans held)
  rw [← same]
  exact List.mem_of_mem_drop mem

variable [Std.LawfulEqOrd κ]

/-- A key that is stored becomes the last of the history. -/
theorem Remembers.store (remembers : Remembers capacity history s) (sound : Sound capacity s)
    (some_room : 0<capacity) (new : k∉s.entries) (stored : s.store capacity k v=some after) :
    Remembers capacity (history++[(k,v)]) after := by
  obtain ⟨n,rfl⟩ := Nat.exists_eq_add_of_lt some_room
  rw [Nat.zero_add] at *
  have length := congrArg List.length remembers.order
  rw [sound.length_order,List.length_map] at length
  have absent (entry : κ × ν) (mem : entry∈history.rtake (n+1)) : entry.1≠k := by
    intro same
    apply new
    rw [← same,← sound.keys,remembers.order]
    exact List.mem_map_of_mem mem
  have spaced : ∀earlier entry since,history++[(k,v)]=earlier++entry::since →
      entry.1∉(since.take (n+1)).map Prod.fst := by
    intro earlier entry since split mem
    cases since using List.reverseRecOn with
    | nil => simp at mem
    | append_singleton since last =>
      rw [← List.cons_append,← List.append_assoc] at split
      obtain ⟨whole,same⟩ := List.append_inj' split rfl
      cases same
      rw [List.take_append,List.map_append,List.mem_append] at mem
      rcases mem with near|now
      · exact remembers.spaced earlier entry since whole near
      · by_cases few : since.length<n+1
        · apply absent entry (whole ▸ mem_rtake few)
          obtain ⟨x,here,same⟩ := List.mem_map.mp now
          rw [← same,List.mem_singleton.mp (List.mem_of_mem_take here)]
        · have none_left : n+1-since.length=0 := by omega
          rw [none_left] at now
          simp at now
  have last : (history++[(k,v)]).rtake (n+1)=history.rtake n++[(k,v)] :=
    List.rtake_concat_succ ..
  rcases sound.store_new (v := v) some_room new with ⟨below,known⟩|⟨oldest,order,queue,full,known⟩
  · have short : history.length≤n := by
      rw [List.rtake,List.length_drop] at length
      omega
    rw [known] at stored
    cases stored
    refine ⟨?_,fun entry mem => ?_,spaced⟩
    · rw [last,remembers.order,rtake_all n history short,rtake_all (n+1) history (by omega),
        List.map_append]
      rfl
    · rw [last,rtake_all n history short] at mem
      rw [Std.ExtTreeMap.getElem?_insert]
      rcases List.mem_append.mp mem with old|now
      · have held : entry∈history.rtake (n+1) := by rwa [rtake_all (n+1) history (by omega)]
        have other : compare k entry.1≠.eq := by
          rw [ne_eq,Std.LawfulEqCmp.compare_eq_iff_eq]
          exact (absent entry held).symm
        rw [if_neg other]
        exact remembers.values entry held
      · rw [List.mem_singleton.mp now,if_pos (Std.ReflCmp.compare_self)]
  · have long : n<history.length := by
      rw [List.rtake,List.length_drop] at length
      omega
    obtain ⟨a,first⟩ := rtake_cons n history long
    have queued := remembers.order
    rw [queue,first,List.map_cons] at queued
    obtain ⟨head,tail⟩ := List.cons.inj queued
    have nodup := sound.nodup
    rw [queue] at nodup
    rw [known] at stored
    cases stored
    refine ⟨?_,fun entry mem => ?_,spaced⟩
    · rw [last,List.map_append,tail]
      rfl
    · rw [last] at mem
      rw [Std.ExtTreeMap.getElem?_insert]
      rcases List.mem_append.mp mem with old|now
      · have held : entry∈history.rtake (n+1) := by
          rw [first]
          exact List.mem_cons_of_mem _ old
        have other : compare k entry.1≠.eq := by
          rw [ne_eq,Std.LawfulEqCmp.compare_eq_iff_eq]
          exact (absent entry held).symm
        have kept : compare oldest entry.1≠.eq := by
          rw [ne_eq,Std.LawfulEqCmp.compare_eq_iff_eq]
          intro same
          apply (List.nodup_cons.mp nodup).1
          rw [same,tail]
          exact List.mem_map_of_mem old
        rw [if_neg other,Std.ExtTreeMap.getElem?_erase,if_neg kept]
        exact remembers.values entry held
      · rw [List.mem_singleton.mp now,if_pos (Std.ReflCmp.compare_self)]

end History

end FifoStore
