import Mathlib.Logic.Function.Basic
import Mathlib.Tactic.Common

/-! Files by their names, of which some are the generations of one log: generation 0 is the one that
is written, and each older one has the next number. -/

namespace Generations

variable {κ β : Type} [DecidableEq κ]

def remove (target : κ) (files : κ → Option (List β)) : κ → Option (List β) :=
  Function.update files target none

/-- A file that exists is renamed and takes the place of another one. -/
def rename (source target : κ) (files : κ → Option (List β)) : κ → Option (List β) :=
  if (files source).isSome then
    Function.update (Function.update files target (files source)) source none
  else files

section Names

variable (name : Nat → κ)

/-- Generations 1 to `n` move up by one, the oldest of them first. -/
def shift (n : Nat) (files : κ → Option (List β)) : κ → Option (List β) :=
  (List.range' 1 n).reverse.foldl
    (fun files generation => rename (name generation) (name (generation+1)) files) files

/-- The oldest of `n` generations goes and all others move up by one. -/
def rotate (n : Nat) (files : κ → Option (List β)) : κ → Option (List β) :=
  rename (name 0) (name 1) (shift name (n-1) (remove (name n) files))

/-- What the generations hold, from the oldest of them to the one that is written. -/
def kept : Nat → (κ → Option (List β)) → List β
  | 0,files => (files (name 0)).getD []
  | n+1,files => (files (name (n+1))).getD []++kept n files

end Names

theorem rename_apply {source target : κ} {files : κ → Option (List β)} (apart : source≠target)
    (free : files target=none) (other : κ) :
    rename source target files other=
      if other=target then files source else if other=source then none else files other := by
  unfold rename
  cases held : files source with
  | none =>
    simp only [Option.isSome_none,Bool.false_eq_true,if_false]
    split_ifs with here there
    · rw [here,free]
    · rw [there,held]
    · rfl
  | some content =>
    simp only [Option.isSome_some,if_true,Function.update_apply]
    split_ifs with here there
    · exact absurd (here.symm.trans there) apart
    · rfl
    · rfl
    · rfl

variable {name : Nat → κ}

/-- Nothing is lost when the place behind the oldest generation is free. -/
theorem shift_apply (distinct : Function.Injective name) (n : Nat) {files : κ → Option (List β)}
    (free : files (name (n+1))=none) :
    (∀g,1≤g → g≤n → shift name n files (name (g+1))=files (name g)) ∧
      shift name n files (name 1)=none ∧
      ∀other,(∀g,1≤g → g≤n+1 → other≠name g) → shift name n files other=files other := by
  induction n generalizing files with
  | zero => exact ⟨fun g low high => by omega,free,fun _ _ => rfl⟩
  | succ n ih =>
    have apart : name (n+1)≠name (n+1+1) := distinct.ne (by omega)
    have moved := rename_apply apart free
    have vacated : rename (name (n+1)) (name (n+1+1)) files (name (n+1))=none := by
      rw [moved,if_neg apart,if_pos rfl]
    have step : shift name (n+1) files=
        shift name n (rename (name (n+1)) (name (n+1+1)) files) := by
      rw [shift,List.range'_1_concat,List.reverse_append,Nat.add_comm 1 n]
      rfl
    obtain ⟨up,first,others⟩ := ih vacated
    rw [step]
    refine ⟨fun g low high => ?_,first,fun other clear => ?_⟩
    · by_cases last : g=n+1
      · subst last
        rw [others _ fun g' low' high' => distinct.ne (by omega),moved,if_pos rfl]
      · rw [up g low (by omega),moved,if_neg (distinct.ne (by omega)),
          if_neg (distinct.ne (by omega))]
    · rw [others other fun g low high => clear g low (by omega),moved,
        if_neg (clear _ (by omega) (by omega)),if_neg (clear _ (by omega) (by omega))]

/-- Every generation but the oldest moves up by one, and no other file changes. -/
theorem rotate_apply (distinct : Function.Injective name) {n : Nat} (some : 1 ≤ n)
    (files : κ → Option (List β)) :
    (∀g,g<n → rotate name n files (name (g+1))=files (name g)) ∧
      rotate name n files (name 0)=none ∧
      ∀other,(∀g,g≤n → other≠name g) → rotate name n files other=files other := by
  have free : remove (name n) files (name (n-1+1))=none := by
    rw [Nat.sub_add_cancel some]
    exact Function.update_self ..
  have others (k : κ) (clear : k≠name n) : remove (name n) files k=files k :=
    Function.update_of_ne clear ..
  obtain ⟨up,first,rest⟩ := shift_apply distinct (n-1) free
  have zero (g : Nat) (positive : 1 ≤ g) : name 0≠name g := distinct.ne (by omega)
  have moved := rename_apply (zero 1 (by omega)) first
  unfold rotate
  refine ⟨fun g less => ?_,?_,fun other clear => ?_⟩
  · rw [moved]
    by_cases active : g=0
    · subst active
      rw [if_pos rfl,rest (name 0) fun g low _ => zero g low,others _ (zero n some)]
    · rw [if_neg (distinct.ne (by omega)),if_neg (zero (g+1) (by omega)).symm,
        up g (by omega) (by omega),others _ (distinct.ne (by omega))]
  · rw [moved,if_neg (zero 1 (by omega)),if_pos rfl]
  · rw [moved,if_neg (clear 1 some),if_neg (clear 0 (by omega)),
      rest other fun g _ high => clear g (by omega),others _ (clear n (by omega))]

omit [DecidableEq κ] in
theorem kept_shifted {n : Nat} {files after : κ → Option (List β)}
    (up : ∀g,g<n+1 → after (name (g+1))=files (name g)) (empty : (after (name 0)).getD []=[]) :
    kept name (n+1) after=kept name n files := by
  induction n with
  | zero =>
    show (after (name 1)).getD []++(after (name 0)).getD []=(files (name 0)).getD []
    rw [up 0 (by omega),empty,List.append_nil]
  | succ n ih =>
    rw [kept,up (n+1) (by omega),ih fun g less => up g (by omega)]
    rfl

omit [DecidableEq κ] in
theorem kept_congr {n : Nat} {files after : κ → Option (List β)}
    (same : ∀g,g ≤ n → (after (name g)).getD []=(files (name g)).getD []) :
    kept name n after=kept name n files := by
  induction n with
  | zero => exact same 0 (Nat.le_refl 0)
  | succ n ih => rw [kept,kept,same (n+1) (Nat.le_refl _),ih fun g less => same g (by omega)]

/-- What is appended to the file that is written comes last. -/
theorem kept_append (distinct : Function.Injective name) (n : Nat) {files : κ → Option (List β)}
    {content : List β} (active : files (name 0)=some content) (more : List β) :
    kept name n (Function.update files (name 0) (content++more))=kept name n files++more := by
  induction n with
  | zero =>
    rw [kept,kept,Function.update_self,active]
    rfl
  | succ n ih =>
    rw [kept,kept,Function.update_of_ne (distinct.ne (by omega)),ih,List.append_assoc]

/-- A rotation drops the oldest generation and no other byte. -/
theorem kept_rotate (distinct : Function.Injective name) (n : Nat)
    (files : κ → Option (List β)) :
    kept name (n+1) (rotate name (n+1) files)=kept name n files := by
  obtain ⟨up,first,-⟩ := rotate_apply distinct (Nat.le_add_left 1 n) files
  exact kept_shifted up (by rw [first]; rfl)

omit [DecidableEq κ] in
theorem kept_suffix (n : Nat) (files : κ → Option (List β)) :
    kept name n files <:+ kept name (n+1) files := List.suffix_append _ _

end Generations
