import Mathlib.Tactic.Common

/-! Runs of a machine whose step is a function of the operation and the state. -/

namespace Run

variable {σ ω : Type} (step : ω → σ → σ)

def final (ops : List ω) (s : σ) : σ := ops.foldl (fun s op => step op s) s

/-- Every step of the run meets `ok`, each at the state it starts from. -/
def Along (ok : σ → ω → Prop) : List ω → σ → Prop
  | [],_ => True
  | op::ops,s => ok s op ∧ Along ok ops (step op s)

instance (ok : σ → ω → Prop) [∀s op,Decidable (ok s op)] (ops : List ω) (s : σ) :
    Decidable (Along step ok ops s) :=
  match ops with
  | [] => isTrue trivial
  | op::ops => @instDecidableAnd _ _ _ (instDecidableAlong ok ops (step op s))

@[simp] theorem final_nil (s : σ) : final step [] s=s := rfl

@[simp] theorem final_cons (op : ω) (ops : List ω) (s : σ) :
    final step (op::ops) s=final step ops (step op s) := rfl

theorem final_append (xs ys : List ω) (s : σ) :
    final step (xs++ys) s=final step ys (final step xs s) := List.foldl_append

@[simp] theorem along_nil (ok : σ → ω → Prop) (s : σ) : Along step ok [] s := trivial

@[simp] theorem along_cons (ok : σ → ω → Prop) (op : ω) (ops : List ω) (s : σ) :
    Along step ok (op::ops) s ↔ ok s op ∧ Along step ok ops (step op s) := Iff.rfl

variable {step}

theorem Along.mono {ok ok' : σ → ω → Prop} {ops : List ω} {s : σ}
    (h : Along step ok ops s) (weaker : ∀s op,ok s op → ok' s op) : Along step ok' ops s := by
  induction ops generalizing s with
  | nil => trivial
  | cons op ops ih => exact ⟨weaker _ _ h.1,ih h.2⟩

theorem Along.and {ok ok' : σ → ω → Prop} {ops : List ω} {s : σ}
    (h : Along step ok ops s) (k : Along step ok' ops s) :
    Along step (fun s op => ok s op ∧ ok' s op) ops s := by
  induction ops generalizing s with
  | nil => trivial
  | cons op ops ih => exact ⟨⟨h.1,k.1⟩,ih h.2 k.2⟩

/-- An invariant that steps keep while they meet `ok`. -/
def Keeps (step : ω → σ → σ) (ok : σ → ω → Prop) (inv : σ → Prop) : Prop :=
  ∀s op,inv s → ok s op → inv (step op s)

theorem Keeps.and {ok : σ → ω → Prop} {inv inv' : σ → Prop} (one : Keeps step ok inv)
    (other : Keeps step ok inv') : Keeps step ok fun s => inv s ∧ inv' s :=
  fun s op holds allowed => ⟨one s op holds.1 allowed,other s op holds.2 allowed⟩

theorem Keeps.final {ok : σ → ω → Prop} {inv : σ → Prop} (keeps : Keeps step ok inv)
    {ops : List ω} {s : σ} (start : inv s) (along : Along step ok ops s) :
    inv (Run.final step ops s) := by
  induction ops generalizing s with
  | nil => exact start
  | cons op ops ih => exact ih (keeps s op start along.1) along.2

/-- What follows from the invariant at one step holds at every step of a run. -/
theorem Keeps.along {ok goal : σ → ω → Prop} {inv : σ → Prop} (keeps : Keeps step ok inv)
    (gives : ∀s op,inv s → ok s op → goal s op) {ops : List ω} {s : σ} (start : inv s)
    (along : Along step ok ops s) : Along step goal ops s := by
  induction ops generalizing s with
  | nil => trivial
  | cons op ops ih =>
    exact ⟨gives s op start along.1,ih (keeps s op start along.1) along.2⟩

theorem along_append (ok : σ → ω → Prop) (xs ys : List ω) (s : σ) :
    Along step ok (xs++ys) s ↔ Along step ok xs s ∧ Along step ok ys (Run.final step xs s) := by
  induction xs generalizing s with
  | nil => simp
  | cons x xs ih => rw [List.cons_append,along_cons,along_cons,final_cons,ih,and_assoc]

/-- Where every step is related to the state before it, so is the end of a run. -/
theorem Keeps.related {ok : σ → ω → Prop} {inv : σ → Prop} (keeps : Keeps step ok inv)
    {R : σ → σ → Prop} (refl : ∀s,R s s) (trans : ∀s t u,R s t → R t u → R s u)
    (each : ∀s op,inv s → ok s op → R s (step op s)) {ops : List ω} {s : σ} (start : inv s)
    (along : Along step ok ops s) : R s (Run.final step ops s) := by
  induction ops generalizing s with
  | nil => exact refl s
  | cons op ops ih =>
    exact trans _ _ _ (each s op start along.1) (ih (keeps s op start along.1) along.2)

/-- The operations of a run, each with the state it is taken from. -/
def trace (step : ω → σ → σ) : List ω → σ → List (σ × ω)
  | [],_ => []
  | op::ops,s => (s,op)::trace step ops (step op s)

theorem map_trace (step : ω → σ → σ) (ops : List ω) (s : σ) : (trace step ops s).map Prod.snd=ops := by
  induction ops generalizing s with
  | nil => rfl
  | cons op ops ih => rw [trace,List.map_cons,ih]

theorem mem_trace (ops : List ω) (s t : σ) (op : ω) :
    (t,op)∈trace step ops s ↔ ∃before after,ops=before++op::after ∧ t=final step before s := by
  induction ops generalizing s with
  | nil => simp [trace]
  | cons first ops ih =>
    rw [trace,List.mem_cons,ih]
    constructor
    · intro h
      rcases h with here|⟨before,after,rfl,rfl⟩
      · cases here
        exact ⟨[],ops,rfl,rfl⟩
      · exact ⟨first::before,after,rfl,rfl⟩
    · intro h
      obtain ⟨before,after,split,rfl⟩ := h
      cases before with
      | nil =>
        cases split
        exact .inl rfl
      | cons x before =>
        cases split
        exact .inr ⟨before,after,rfl,rfl⟩

/-- An operation that occurs once is taken from one state. -/
theorem trace_unique (ops : List ω) (nodup : ops.Nodup) (s t t' : σ) (op : ω)
    (here : (t,op)∈trace step ops s) (there : (t',op)∈trace step ops s) : t=t' := by
  induction ops generalizing s with
  | nil => cases here
  | cons first ops ih =>
    obtain ⟨new,nodup⟩ := List.nodup_cons.mp nodup
    have later (u : σ) (mem : (u,op)∈trace step ops (step first s)) : op∈ops := by
      rw [← map_trace step ops (step first s)]
      exact List.mem_map_of_mem mem
    rcases List.mem_cons.mp here with now|rest
    · rcases List.mem_cons.mp there with now'|rest'
      · exact (congrArg Prod.fst now).trans (congrArg Prod.fst now').symm
      · have same : op=first := congrArg Prod.snd now
        exact absurd (same ▸ later t' rest') new
    · rcases List.mem_cons.mp there with now'|rest'
      · have same : op=first := congrArg Prod.snd now'
        exact absurd (same ▸ later t rest) new
      · exact ih nodup (step first s) rest rest'

theorem along_iff_trace (ok : σ → ω → Prop) (ops : List ω) (s : σ) :
    Along step ok ops s ↔ ∀entry∈trace step ops s,ok entry.1 entry.2 := by
  induction ops generalizing s with
  | nil => simp [trace]
  | cons op ops ih => rw [along_cons,ih,trace,List.forall_mem_cons]

theorem along_true (ops : List ω) (s : σ) : Along step (fun _ _ => True) ops s := by
  induction ops generalizing s with
  | nil => trivial
  | cons op ops ih => exact ⟨trivial,ih (step op s)⟩

/-- An invariant of every step needs no condition on the run. -/
theorem always (inv : σ → Prop) (keeps : ∀s op,inv s → inv (step op s)) (ops : List ω)
    {s : σ} (start : inv s) : inv (Run.final step ops s) := by
  have keeps' : Keeps step (fun _ _ => True) inv := fun s op h _ => keeps s op h
  exact keeps'.final start (along_true ops s)

end Run
