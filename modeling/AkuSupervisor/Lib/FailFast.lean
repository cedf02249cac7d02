import Mathlib.Data.List.Forall2
import AkuSupervisor.Lib.Run
import AkuSupervisor.Lib.StateError

/-! Loops that end at their first error or go on after it, and operations that record the calls
they make. -/

namespace StateError

variable {ε φ σ α β γ : Type}

/-- One call after the other returns, from `s` to `t`; each step keeps what its call returned. -/
inductive Passes (f : α → EStateM ε σ β) : List (α × β) → σ → σ → Prop
  | nil (s : σ) : Passes f [] s s
  | cons (x : α) (b : β) (steps : List (α × β)) (s t u : σ) (head : (f x).run s=.ok b t)
      (tail : Passes f steps t u) : Passes f ((x,b)::steps) s u

/-- Calls `f` on every element, and reports the first error in the context of its element. -/
def eachWith (context : α → ε → φ) (f : α → EStateM ε σ β) (xs : List α) :
    EStateM φ σ Unit :=
  xs.forM fun x => discard (EStateM.adaptExcept (context x) (f x))

@[simp] theorem run_adaptExcept (context : ε → φ) (x : EStateM ε σ α) (s : σ) :
    EStateM.run (EStateM.adaptExcept context x) s=
      match x.run s with
      | .ok a t => .ok a t
      | .error e t => .error (context e) t := by
  unfold EStateM.run EStateM.adaptExcept
  cases x s <;> rfl

theorem final_adaptExcept (context : ε → φ) (x : EStateM ε σ α) (s : σ) :
    final (EStateM.run (EStateM.adaptExcept context x) s)=final (x.run s) := by
  rw [run_adaptExcept]
  cases x.run s <;> rfl

@[simp] theorem run_discard (x : EStateM ε σ α) (s : σ) :
    EStateM.run (discard x) s=
      match x.run s with
      | .ok _ t => .ok () t
      | .error e t => .error e t := run_map (Function.const α ()) x s

theorem run_eachWith_cons (context : α → ε → φ) (f : α → EStateM ε σ β) (x : α) (xs : List α)
    (s : σ) :
    (eachWith context f (x::xs)).run s=
      match (f x).run s with
      | .ok _ t => (eachWith context f xs).run t
      | .error e t => .error (context x e) t := by
  unfold eachWith
  rw [List.forM_eq_forM,List.forM_cons,EStateM.run_bind,run_discard,run_adaptExcept]
  cases (f x).run s <;> rfl

/-- Either every call returns, or the loop ends with the first error. -/
theorem eachWith_cases (context : α → ε → φ) (f : α → EStateM ε σ β) (xs : List α) (s : σ) :
    (∃steps t,steps.map Prod.fst=xs ∧ Passes f steps s t ∧
      (eachWith context f xs).run s=.ok () t) ∨
    ∃steps x after error t u,xs=steps.map Prod.fst++x::after ∧ Passes f steps s t ∧
      (f x).run t=.error error u ∧ (eachWith context f xs).run s=.error (context x error) u := by
  induction xs generalizing s with
  | nil => exact .inl ⟨[],s,rfl,.nil s,rfl⟩
  | cons x xs ih =>
    rw [run_eachWith_cons]
    cases head : (f x).run s with
    | error error u => exact .inr ⟨[],x,xs,error,s,u,rfl,.nil s,head,rfl⟩
    | ok b t =>
      rcases ih t with ⟨steps,u,all,passes,run⟩|⟨steps,y,after,error,u,v,split,passes,fails,run⟩
      · exact .inl ⟨(x,b)::steps,u,by simp [all],.cons x b steps s t u head passes,run⟩
      · exact .inr ⟨(x,b)::steps,y,after,error,u,v,by simp [split],
          .cons x b steps s t u head passes,fails,run⟩

/-- What every call that returns keeps, a loop keeps. -/
theorem Passes.keeps {f : α → EStateM ε σ β} {steps : List (α × β)} {s t : σ}
    (h : Passes f steps s t) (inv : σ → Prop)
    (each : ∀step∈steps,∀s t,inv s → (f step.1).run s=.ok step.2 t → inv t) (start : inv s) :
    inv t := by
  induction h with
  | nil s => exact start
  | cons x b steps s t u head tail ih =>
    exact ih (fun step mem => each step (List.mem_cons_of_mem _ mem))
      (each (x,b) List.mem_cons_self s t start head)

/-- Calls `f` on every element, even after errors, and returns what is to be said of each error. -/
def eachAttempt {δ : Type} (describe : α → ε → δ) (f : α → EStateM ε σ β) (xs : List α) :
    EStateM φ σ (List δ) :=
  xs.foldlM (fun failures x => do
    match ← attempt (f x) with
    | .ok _ => return failures
    | .error error => return failures++[describe x error]) []

/-- The loop leaves what all its calls leave, and has nothing to say exactly if none of them fails. -/
theorem run_eachAttempt {δ : Type} (describe : α → ε → δ) (f : α → EStateM ε σ β) (xs : List α)
    (s : σ) :
    ∃failures,(eachAttempt describe f xs : EStateM φ σ _).run s=
        .ok failures (Run.final (fun x s => final ((f x).run s)) xs s) ∧
      (failures=[] ↔ Run.Along (fun x s => final ((f x).run s))
        (fun s x => failure ((f x).run s)=none) xs s) := by
  have each (failed : List δ) (xs : List α) (s : σ) :
      ∃failures,(xs.foldlM (fun failures x => do
          match ← attempt (f x) with
          | .ok _ => return failures
          | .error error => return failures++[describe x error]) failed : EStateM φ σ _).run s=
          .ok (failed++failures) (Run.final (fun x s => final ((f x).run s)) xs s) ∧
        (failures=[] ↔ Run.Along (fun x s => final ((f x).run s))
          (fun s x => failure ((f x).run s)=none) xs s) := by
    induction xs generalizing failed s with
    | nil => exact ⟨[],by simp,by simp⟩
    | cons x xs ih =>
      simp only [List.foldlM_cons,EStateM.run_bind,run_attempt,Run.final_cons,Run.along_cons]
      cases ran : (f x).run s with
      | ok b t =>
        obtain ⟨failures,run,none⟩ := ih failed t
        refine ⟨failures,?_,?_⟩
        · simpa [answer] using run
        · simpa using none
      | error error t =>
        obtain ⟨failures,run,-⟩ := ih (failed++[describe x error]) t
        refine ⟨describe x error::failures,?_,?_⟩
        · simpa [answer] using run
        · simp
  obtain ⟨failures,run,none⟩ := each [] xs s
  exact ⟨failures,run,none⟩

theorem mapM_ok (f : α → Except ε β) (xs : List α) (ys : List β) :
    xs.mapM f=.ok ys ↔ List.Forall₂ (fun x y => f x=.ok y) xs ys := by
  induction xs generalizing ys with
  | nil => cases ys <;> simp [pure,Except.pure]
  | cons x xs ih =>
    rw [List.mapM_cons]
    cases head : f x with
    | error error => cases ys <;> simp [bind,Except.bind,head]
    | ok y =>
      cases tail : xs.mapM f with
      | error error => cases ys <;> simp [bind,Except.bind,← ih,tail,head]
      | ok ys' => cases ys <;> simp [bind,Except.bind,pure,Except.pure,← ih,tail,head]

theorem mapM_error (f : α → Except ε β) (xs : List α) (error : ε)
    (failed : xs.mapM f=.error error) : ∃x∈xs,f x=.error error := by
  induction xs with
  | nil => cases failed
  | cons x xs ih =>
    rw [List.mapM_cons] at failed
    cases head : f x with
    | error error' =>
      rw [head] at failed
      cases failed
      exact ⟨x,List.mem_cons_self,head⟩
    | ok y =>
      rw [head] at failed
      cases tail : xs.mapM f with
      | ok ys => simp [tail,bind,Except.bind,pure,Except.pure] at failed
      | error error' =>
        rw [tail] at failed
        cases failed
        obtain ⟨z,later,fails⟩ := ih tail
        exact ⟨z,List.mem_cons_of_mem x later,fails⟩

theorem forM_ok (f : α → Except ε Unit) (xs : List α) (each : ∀x∈xs,f x=.ok ()) :
    xs.forM f=.ok () := by
  induction xs with
  | nil => rfl
  | cons x xs ih =>
    have rest := ih fun y mem => each y (List.mem_cons_of_mem x mem)
    rw [List.forM_eq_forM] at rest ⊢
    rw [List.forM_cons,each x List.mem_cons_self]
    exact rest

theorem forall₂_mem_left {R : α → β → Prop} {xs : List α} {ys : List β}
    (h : List.Forall₂ R xs ys) {x : α} (mem : x∈xs) : ∃y∈ys,R x y := by
  induction h with
  | nil => simp at mem
  | @cons x' y' xs ys head tail ih =>
    rcases List.mem_cons.mp mem with rfl|later
    · exact ⟨y',List.mem_cons_self,head⟩
    · obtain ⟨y,here,related⟩ := ih later
      exact ⟨y,List.mem_cons_of_mem _ here,related⟩

theorem forall₂_mem_right {R : α → β → Prop} {xs : List α} {ys : List β}
    (h : List.Forall₂ R xs ys) {y : β} (mem : y∈ys) : ∃x∈xs,R x y :=
  forall₂_mem_left h.flip mem

section Recording

variable {C : Type}

/-- Runs `x` and records the call with the answer it got. -/
def record (call : Except ε α → C) (x : EStateM ε σ α) : EStateM ε (σ × List C) α := fun s =>
  match x.run s.1 with
  | .ok a t => .ok a (t,s.2++[call (.ok a)])
  | .error e t => .error e (t,s.2++[call (.error e)])

/-- The result without the recording. -/
def forget : EStateM.Result ε (σ × List C) α → EStateM.Result ε σ α
  | .ok a s => .ok a s.1
  | .error e s => .error e s.1

/-- `x` is what `recorded` does when nobody looks at the recording. -/
def Forgets (recorded : EStateM ε (σ × List C) α) (x : EStateM ε σ α) : Prop :=
  ∀s calls,forget (recorded.run (s,calls))=x.run s

theorem run_record (call : Except ε α → C) (x : EStateM ε σ α) (s : σ) (calls : List C) :
    (record call x).run (s,calls)=
      match x.run s with
      | .ok a t => .ok a (t,calls++[call (.ok a)])
      | .error e t => .error e (t,calls++[call (.error e)]) := rfl

theorem run_record_ok (call : Except ε α → C) (x : EStateM ε σ α) (s t : σ × List C) (a : α) :
    (record call x).run s=.ok a t ↔ x.run s.1=.ok a t.1 ∧ t.2=s.2++[call (.ok a)] := by
  obtain ⟨s,calls⟩ := s
  obtain ⟨t,calls'⟩ := t
  rw [run_record]
  cases x.run s with
  | ok b u =>
    simp only [EStateM.Result.ok.injEq,Prod.mk.injEq]
    constructor
    · intro h
      obtain ⟨rfl,rfl,rfl⟩ := h
      exact ⟨⟨rfl,rfl⟩,rfl⟩
    · intro h
      obtain ⟨⟨rfl,rfl⟩,rfl⟩ := h
      exact ⟨rfl,rfl,rfl⟩
  | error e u => simp

theorem run_record_error (call : Except ε α → C) (x : EStateM ε σ α) (s t : σ × List C) (e : ε) :
    (record call x).run s=.error e t ↔ x.run s.1=.error e t.1 ∧ t.2=s.2++[call (.error e)] := by
  obtain ⟨s,calls⟩ := s
  obtain ⟨t,calls'⟩ := t
  rw [run_record]
  cases x.run s with
  | ok b u => simp
  | error e' u =>
    simp only [EStateM.Result.error.injEq,Prod.mk.injEq]
    constructor
    · intro h
      obtain ⟨rfl,rfl,rfl⟩ := h
      exact ⟨⟨rfl,rfl⟩,rfl⟩
    · intro h
      obtain ⟨⟨rfl,rfl⟩,rfl⟩ := h
      exact ⟨rfl,rfl,rfl⟩

theorem forgets_record (call : Except ε α → C) (x : EStateM ε σ α) :
    Forgets (record call x) x := by
  intro s calls
  rw [run_record]
  cases x.run s <;> rfl

theorem Forgets.bind {recorded : EStateM ε (σ × List C) α} {x : EStateM ε σ α}
    {recordedNext : α → EStateM ε (σ × List C) β} {next : α → EStateM ε σ β}
    (h : Forgets recorded x) (k : ∀a,Forgets (recordedNext a) (next a)) :
    Forgets (recorded >>= recordedNext) (x >>= next) := by
  intro s calls
  have first := h s calls
  rw [EStateM.run_bind,EStateM.run_bind,← first]
  cases recorded.run (s,calls) with
  | ok a t => exact k a t.1 t.2
  | error e t => rfl

theorem Forgets.eachWith {recorded : α → EStateM ε (σ × List C) β} {f : α → EStateM ε σ β}
    (h : ∀a,Forgets (recorded a) (f a)) (context : α → ε → φ) (xs : List α) :
    Forgets (eachWith context recorded xs) (eachWith context f xs) := by
  intro s calls
  induction xs generalizing s calls with
  | nil => rfl
  | cons x xs ih =>
    have first := h x s calls
    rw [run_eachWith_cons,run_eachWith_cons,← first]
    cases (recorded x).run (s,calls) with
    | ok b t => exact ih t.1 t.2
    | error e t => rfl

/-- Recorded calls that return are recorded in their order. -/
theorem passes_record {f : α → EStateM ε σ β} {call : α → Except ε β → C}
    {steps : List (α × β)} {s t : σ × List C}
    (h : Passes (fun a => record (call a) (f a)) steps s t) :
    Passes f steps s.1 t.1 ∧ t.2=s.2++steps.map fun step => call step.1 (.ok step.2) := by
  induction h with
  | nil s => exact ⟨.nil s.1,by simp⟩
  | cons x b steps s t u head tail ih =>
    obtain ⟨ran,calls⟩ := (run_record_ok _ _ _ _ _).mp head
    exact ⟨.cons x b steps s.1 t.1 u.1 ran ih.1,by simp [ih.2,calls]⟩

end Recording

end StateError
