import AkuSupervisor.Lib.StateError

/-! Computations over a state that has a log, and what they may add to it. -/

namespace Logged

open StateError

variable {ε σ ω α β : Type} (log : σ → List ω)

/-- Everything that `x` adds to the log meets `ok`, also when it fails. -/
def Only (ok : ω → Prop) (x : EStateM ε σ α) : Prop :=
  ∀s,∃new,log (final (x.run s))=log s++new ∧ ∀entry∈new,ok entry

variable {log} {ok : ω → Prop}

/-- A computation that leaves the log as it is. -/
theorem only_of_same {x : EStateM ε σ α} (same : ∀s,log (final (x.run s))=log s) :
    Only log ok x := by
  intro s
  refine ⟨[],?_,by simp⟩
  rw [same s,List.append_nil]

/-- A computation that adds one entry. -/
theorem only_of_entry {x : EStateM ε σ α} (entry : ω) (fine : ok entry)
    (one : ∀s,log (final (x.run s))=log s++[entry]) : Only log ok x := by
  intro s
  refine ⟨[entry],one s,?_⟩
  intro e mem
  rwa [List.mem_singleton.mp mem]

theorem only_pure (a : α) : Only log ok (pure a : EStateM ε σ α) :=
  only_of_same fun _ => rfl

theorem only_throw (error : ε) : Only log ok (throw error : EStateM ε σ α) :=
  only_of_same fun _ => rfl

theorem only_get : Only log ok (get : EStateM ε σ σ) := only_of_same fun _ => rfl

theorem Only.bind {x : EStateM ε σ α} {f : α → EStateM ε σ β} (first : Only log ok x)
    (next : ∀a,Only log ok (f a)) : Only log ok (x >>= f) := by
  intro s
  obtain ⟨new,same,each⟩ := first s
  rw [EStateM.run_bind]
  cases run : x.run s with
  | error e t =>
    rw [run] at same
    exact ⟨new,same,each⟩
  | ok a t =>
    rw [run] at same
    obtain ⟨more,same',each'⟩ := next a t
    refine ⟨new++more,?_,?_⟩
    · show log (final ((f a).run t))=log s++(new++more)
      rw [same',← List.append_assoc,← same]
      rfl
    · intro entry mem
      rcases List.mem_append.mp mem with early|late
      · exact each entry early
      · exact each' entry late

theorem Only.ite (c : Prop) [Decidable c] {x y : EStateM ε σ α} (yes : c → Only log ok x)
    (no : ¬c → Only log ok y) : Only log ok (if c then x else y) := by
  by_cases h : c
  · rw [if_pos h]
    exact yes h
  · rw [if_neg h]
    exact no h

end Logged
