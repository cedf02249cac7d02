import Mathlib.Tactic.Common

/-! State with errors: an operation that fails keeps what it did to the state. -/

namespace StateError

variable {ε σ α β : Type}

@[simp] theorem run_throw (error : ε) (s : σ) :
    EStateM.run (throw error : EStateM ε σ α) s=.error error s := rfl

@[simp] theorem run_map (f : α → β) (x : EStateM ε σ α) (s : σ) :
    EStateM.run (f <$> x) s=
      match x.run s with
      | .ok a t => .ok (f a) t
      | .error e t => .error e t := rfl

@[simp] theorem run_ite (c : Prop) [Decidable c] (x y : EStateM ε σ α) (s : σ) :
    EStateM.run (if c then x else y) s=if c then EStateM.run x s else EStateM.run y s := by
  split <;> rfl

/-- The state an operation leaves, whether it returned or failed. -/
def final : EStateM.Result ε σ α → σ
  | .ok _ s => s
  | .error _ s => s

def failure : EStateM.Result ε σ α → Option ε
  | .ok _ _ => none
  | .error e _ => some e

/-- What an operation answers, without the state it leaves. -/
def answer : EStateM.Result ε σ α → Except ε α
  | .ok a _ => .ok a
  | .error e _ => .error e

@[simp] theorem final_ok (a : α) (s : σ) : final (.ok a s : EStateM.Result ε σ α)=s := rfl
@[simp] theorem final_error (e : ε) (s : σ) : final (.error e s : EStateM.Result ε σ α)=s := rfl
@[simp] theorem failure_ok (a : α) (s : σ) :
    failure (.ok a s : EStateM.Result ε σ α)=none := rfl
@[simp] theorem failure_error (e : ε) (s : σ) :
    failure (.error e s : EStateM.Result ε σ α)=some e := rfl

theorem failure_none_congr {β τ : Type} {x : EStateM.Result ε σ α} {y : EStateM.Result ε τ β}
    (same : (answer x).toBool=(answer y).toBool) : failure x=none ↔ failure y=none := by
  cases x with
  | ok a s =>
    cases y with
    | ok b t => simp
    | error e t => cases same
  | error e s =>
    cases y with
    | ok b t => cases same
    | error e' t => simp

@[simp] theorem final_run_map (f : α → β) (x : EStateM ε σ α) (s : σ) :
    final (EStateM.run (f <$> x) s)=final (x.run s) := by
  rw [run_map]
  cases x.run s <;> rfl

/-- What an operation does from a state: `ok` holds if it returns and `err` if it fails. -/
def Ends (x : EStateM ε σ α) (s : σ) (ok : α → σ → Prop) (err : ε → σ → Prop) : Prop :=
  match x.run s with
  | .ok a t => ok a t
  | .error e t => err e t

@[simp] theorem ends_pure (a : α) (s : σ) (ok : α → σ → Prop) (err : ε → σ → Prop) :
    Ends (pure a) s ok err ↔ ok a s := Iff.rfl

@[simp] theorem ends_throw (e : ε) (s : σ) (ok : α → σ → Prop) (err : ε → σ → Prop) :
    Ends (throw e) s ok err ↔ err e s := Iff.rfl

theorem ends_bind (x : EStateM ε σ α) (f : α → EStateM ε σ β) (s : σ)
    (ok : β → σ → Prop) (err : ε → σ → Prop) :
    Ends (x >>= f) s ok err ↔ Ends x s (fun a t => Ends (f a) t ok err) err := by
  unfold Ends
  rw [EStateM.run_bind]
  cases x.run s <;> rfl

theorem Ends.mono {x : EStateM ε σ α} {s : σ} {ok ok' : α → σ → Prop} {err err' : ε → σ → Prop}
    (h : Ends x s ok err) (hok : ∀a t,ok a t → ok' a t) (herr : ∀e t,err e t → err' e t) :
    Ends x s ok' err' := by
  unfold Ends at h ⊢
  cases hx : x.run s with
  | ok a t => rw [hx] at h; exact hok a t h
  | error e t => rw [hx] at h; exact herr e t h

/-- Runs `x` to its end and returns what it answers, even if that is an error. -/
def attempt {ε' : Type} (x : EStateM ε σ α) : EStateM ε' σ (Except ε α) := fun s =>
  match x.run s with
  | .ok a t => .ok (.ok a) t
  | .error e t => .ok (.error e) t

@[simp] theorem run_attempt {φ : Type} (x : EStateM ε σ α) (s : σ) :
    (attempt x : EStateM φ σ _).run s=.ok (answer (x.run s)) (final (x.run s)) := by
  show attempt x s=_
  unfold attempt
  cases x.run s <;> rfl

theorem ends_attempt {ε' : Type} (x : EStateM ε σ α) (s : σ) (ok : Except ε α → σ → Prop)
    (err : ε' → σ → Prop) :
    Ends (attempt x) s ok err ↔
      Ends x s (fun a t => ok (.ok a) t) (fun e t => ok (.error e) t) := by
  unfold Ends
  rw [run_attempt]
  cases x.run s <;> rfl

/-- Answers with a value or an error that is known already. -/
def answered : Except ε α → EStateM ε σ α
  | .ok a => pure a
  | .error e => throw e

@[simp] theorem answer_answered (x : Except ε α) (s : σ) :
    answer ((answered x : EStateM ε σ α).run s)=x := by
  cases x <;> rfl

@[simp] theorem final_answered (x : Except ε α) (s : σ) :
    final ((answered x : EStateM ε σ α).run s)=s := by
  cases x <;> rfl

end StateError
