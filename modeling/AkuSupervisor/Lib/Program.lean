import Mathlib.Tactic.Common

/-! Programs that call their environment: what they do alone, and rules for what they may call. -/

/-- A program is done, or it makes a call and goes on with what is answered. -/
inductive Program (ω : Type) (answer : ω → Type) (α : Type) where
  | done (value : α)
  | call (op : ω) (next : answer op → Program ω answer α)

/-- A program that may fail. -/
abbrev Attempt (ε ω : Type) (answer : ω → Type) (α : Type) := ExceptT ε (Program ω answer) α

namespace Program

variable {ω : Type} {answer : ω → Type} {α β ε τ μ : Type}

def bind : Program ω answer α → (α → Program ω answer β) → Program ω answer β
  | .done a,f => f a
  | .call op next,f => .call op fun x => (next x).bind f

instance : Monad (Program ω answer) where
  pure := .done
  bind := bind

def perform (op : ω) : Program ω answer (answer op) := .call op .done

/-- A call of a program that may fail. -/
def Attempt.ask (op : ω) : Attempt ε ω answer (answer op) := monadLift (perform op)

/-- Goes on with an answer, or fails with what the error means here. -/
def Attempt.settle (meaning : τ → ε) : Except τ α → Attempt ε ω answer α
  | .ok a => pure a
  | .error e => throw (meaning e)

/-- Runs a program to its end in a world that answers its calls. -/
def eval (respond : (op : ω) → τ → answer op × τ) : Program ω answer α → τ → α × τ
  | .done a,t => (a,t)
  | .call op next,t => (next (respond op t).1).eval respond (respond op t).2

/-- What is left of a program that is interrupted after so many calls, and the world then. -/
def interrupted (respond : (op : ω) → τ → answer op × τ) :
    Nat → Program ω answer α → τ → Program ω answer α × τ
  | calls+1,.call op next,t => interrupted respond calls (next (respond op t).1) (respond op t).2
  | _,p,t => (p,t)

section Eval

variable (respond : (op : ω) → τ → answer op × τ)

@[simp] theorem eval_pure (a : α) (t : τ) :
    eval respond (pure a : Program ω answer α) t=(a,t) := rfl

@[simp] theorem eval_perform (op : ω) (t : τ) :
    eval respond (perform op : Program ω answer _) t=respond op t := rfl

theorem eval_bind (p : Program ω answer α) (f : α → Program ω answer β) (t : τ) :
    eval respond (p >>= f) t=eval respond (f (eval respond p t).1) (eval respond p t).2 := by
  induction p generalizing t with
  | done a => rfl
  | call op next ih => exact ih (respond op t).1 (respond op t).2

/-- A program that may fail goes on after success only. -/
theorem eval_attempt (x : Attempt ε ω answer α) (f : α → Attempt ε ω answer β) (t : τ) :
    eval respond (x >>= f).run t=
      match eval respond x.run t with
      | (.ok a,t') => eval respond (f a).run t'
      | (.error e,t') => (.error e,t') := by
  rw [ExceptT.run_bind,eval_bind]
  cases h : eval respond x.run t with
  | mk r t' => cases r <;> rfl

end Eval

/-- A way of working: the calls each mode permits, and the mode after an answer. -/
structure Discipline (ω : Type) (answer : ω → Type) (μ : Type) where
  permits : μ → ω → Prop
  after : μ → (op : ω) → answer op → μ

/-- From the mode, the program makes permitted calls only, whatever they answer; `post` holds for
its result and the last mode. -/
def Follows (d : Discipline ω answer μ) : Program ω answer α → μ → (α → μ → Prop) → Prop
  | .done a,m,post => post a m
  | .call op next,m,post => d.permits m op ∧ ∀x,(next x).Follows d (d.after m op x) post

section Rules

variable {d : Discipline ω answer μ} {m : μ}

@[simp] theorem follows_pure (a : α) (post : α → μ → Prop) :
    Follows d (pure a : Program ω answer α) m post ↔ post a m := Iff.rfl

@[simp] theorem follows_perform (op : ω) (post : answer op → μ → Prop) :
    Follows d (perform op) m post ↔ d.permits m op ∧ ∀x,post x (d.after m op x) := Iff.rfl

theorem follows_bind (p : Program ω answer α) (f : α → Program ω answer β)
    (post : β → μ → Prop) :
    Follows d (p >>= f) m post ↔ Follows d p m fun a m' => Follows d (f a) m' post := by
  induction p generalizing m with
  | done a => rfl
  | call op next ih => exact and_congr_right fun _ => forall_congr' fun x => ih x

theorem Follows.mono {p : Program ω answer α} {post post' : α → μ → Prop}
    (h : Follows d p m post) (weaker : ∀a m',post a m' → post' a m') : Follows d p m post' := by
  induction p generalizing m with
  | done a => exact weaker a m h
  | call op next ih => exact ⟨h.1,fun x => ih x (h.2 x)⟩

/-- What another discipline tells of the result holds as well. -/
theorem Follows.value {d' : Discipline ω answer τ} {m' : τ} {p : Program ω answer α}
    {post : α → μ → Prop} {post' : α → τ → Prop} (h : Follows d p m post)
    (k : Follows d' p m' post') : Follows d p m fun a n => post a n ∧ ∃n',post' a n' := by
  induction p generalizing m m' with
  | done a => exact ⟨h,m',k⟩
  | call op next ih => exact ⟨h.1,fun x => ih x (h.2 x) (k.2 x)⟩

/-- Calls that leave the mode as it is, whatever they answer. -/
theorem Follows.aside {d' : Discipline ω answer Unit} {p : Program ω answer α}
    {post : α → Unit → Prop} (h : Follows d' p () post) (m : μ)
    (still : ∀op,d'.permits () op → d.permits m op ∧ ∀x,d.after m op x=m) :
    Follows d p m fun a m' => m'=m ∧ post a () := by
  induction p with
  | done a => exact ⟨rfl,h⟩
  | call op next ih =>
    obtain ⟨may,same⟩ := still op h.1
    refine ⟨may,fun x => ?_⟩
    rw [same x]
    exact ih x (h.2 x)

/-- In a mode that permits everything and lasts, every program follows the discipline. -/
theorem Follows.free {p : Program ω answer α} {post : α → μ → Prop}
    (all : ∀op,d.permits m op ∧ ∀x,d.after m op x=m) (ends : ∀a,post a m) :
    Follows d p m post := by
  induction p with
  | done a => exact ends a
  | call op next ih =>
    refine ⟨(all op).1,fun x => ?_⟩
    rw [(all op).2 x]
    exact ih x

/-- A program that may fail: `ok` holds for its result, or `err` for its error. -/
def Tries (d : Discipline ω answer μ) (x : Attempt ε ω answer α) (m : μ) (ok : α → μ → Prop)
    (err : ε → μ → Prop) : Prop :=
  x.run.Follows d m fun r m' =>
    match r with
    | .ok a => ok a m'
    | .error e => err e m'

variable {ok : α → μ → Prop} {err : ε → μ → Prop}

@[simp] theorem tries_pure (a : α) :
    Tries d (pure a : Attempt ε ω answer α) m ok err ↔ ok a m := Iff.rfl

@[simp] theorem tries_throw (e : ε) :
    Tries d (throw e : Attempt ε ω answer α) m ok err ↔ err e m := Iff.rfl

theorem tries_lift (p : Program ω answer α) :
    Tries d (monadLift p : Attempt ε ω answer α) m ok err ↔ p.Follows d m ok := by
  have run : (monadLift p : Attempt ε ω answer α).run=p >>= fun a => pure (.ok a) := rfl
  unfold Tries
  rw [run,follows_bind]
  rfl

theorem tries_bind (x : Attempt ε ω answer α) (f : α → Attempt ε ω answer β)
    {ok : β → μ → Prop} :
    Tries d (x >>= f) m ok err ↔ Tries d x m (fun a m' => Tries d (f a) m' ok err) err := by
  unfold Tries
  rw [ExceptT.run_bind,follows_bind]
  constructor
  · intro h
    refine h.mono fun r m' => ?_
    cases r <;> exact id
  · intro h
    refine h.mono fun r m' => ?_
    cases r <;> exact id

theorem tries_ask (op : ω) {ok : answer op → μ → Prop} :
    Tries d (Attempt.ask op : Attempt ε ω answer (answer op)) m ok err ↔
      d.permits m op ∧ ∀x,ok x (d.after m op x) :=
  tries_lift _

theorem tries_settle {meaning : τ → ε} {result : Except τ α} (good : ∀a,result=.ok a → ok a m)
    (bad : ∀e,result=.error e → err (meaning e) m) :
    Tries d (Attempt.settle meaning result : Attempt ε ω answer α) m ok err := by
  cases result with
  | ok a => exact good a rfl
  | error e => exact bad e rfl

/-- A call whose failure ends the program. -/
theorem tries_call (op : ω) (result : answer op → Except τ α) (meaning : τ → ε)
    (may : d.permits m op) (good : ∀x a,result x=.ok a → ok a (d.after m op x))
    (bad : ∀x e,result x=.error e → err (meaning e) (d.after m op x)) :
    Tries d (do Attempt.settle meaning (result (← Attempt.ask op)) : Attempt ε ω answer α) m ok err := by
  apply (tries_bind _ _).mpr
  exact (tries_ask op).mpr ⟨may,fun x => tries_settle (good x) (bad x)⟩

/-- A result that the program goes on with. -/
theorem tries_settle_bind {result : Except τ β} {meaning : τ → ε} {f : β → Attempt ε ω answer α}
    (good : ∀b,result=.ok b → Tries d (f b) m ok err) (bad : ∀e,result=.error e → err (meaning e) m) :
    Tries d (Attempt.settle meaning result >>= f) m ok err := by
  apply (tries_bind _ _).mpr
  exact tries_settle good bad

/-- A call that the program goes on with. -/
theorem tries_call_bind {op : ω} {result : answer op → Except τ β} {meaning : τ → ε}
    {f : β → Attempt ε ω answer α} (may : d.permits m op)
    (good : ∀x b,result x=.ok b → Tries d (f b) (d.after m op x) ok err)
    (bad : ∀x e,result x=.error e → err (meaning e) (d.after m op x)) :
    Tries d (Attempt.ask op >>= fun x => Attempt.settle meaning (result x) >>= f) m ok err := by
  apply (tries_bind _ _).mpr
  exact (tries_ask op).mpr ⟨may,fun x => tries_settle_bind (good x) (bad x)⟩

/-- A result whose error ends a program of which only success matters. -/
theorem tries_settle_then {result : Except τ β} {meaning : τ → ε} {f : β → Attempt ε ω answer α}
    (good : ∀b,result=.ok b → Tries d (f b) m ok fun _ _ => True) :
    Tries d (Attempt.settle meaning result >>= f) m ok fun _ _ => True :=
  tries_settle_bind good fun _ _ => trivial

/-- A call whose failure ends a program of which only success matters. -/
theorem tries_then {op : ω} {result : answer op → Except τ β} {meaning : τ → ε}
    {f : β → Attempt ε ω answer α} (may : d.permits m op)
    (good : ∀x b,result x=.ok b → Tries d (f b) (d.after m op x) ok fun _ _ => True) :
    Tries d (Attempt.ask op >>= fun x => Attempt.settle meaning (result x) >>= f) m ok
      fun _ _ => True :=
  tries_call_bind may good fun _ _ _ => trivial

/-- A program whose end is looked at by what follows. -/
theorem tries_caught {x : Attempt ε ω answer β} {f : Except ε β → Attempt ε ω answer α}
    {q : β → μ → Prop} {q' : ε → μ → Prop} (tried : Tries d x m q q')
    (good : ∀b m',q b m' → Tries d (f (.ok b)) m' ok err)
    (bad : ∀e m',q' e m' → Tries d (f (.error e)) m' ok err) :
    Tries d ((monadLift x.run : Attempt ε ω answer _) >>= f) m ok err := by
  apply (tries_bind _ _).mpr
  refine (tries_lift _).mpr (Follows.mono tried fun result m' ends => ?_)
  cases result with
  | ok b => exact good b m' ends
  | error e => exact bad e m' ends

theorem Tries.mono {x : Attempt ε ω answer α} {ok' : α → μ → Prop} {err' : ε → μ → Prop}
    (h : Tries d x m ok err) (hok : ∀a m',ok a m' → ok' a m') (herr : ∀e m',err e m' → err' e m') :
    Tries d x m ok' err' := by
  refine Follows.mono h fun r m' => ?_
  cases r with
  | ok a => exact hok a m'
  | error e => exact herr e m'

/-- What the permitted calls keep of the world and the mode holds wherever a program that follows
the discipline is interrupted. -/
theorem Follows.interrupted {p : Program ω answer α} {post : α → μ → Prop}
    (follows : Follows d p m post) (respond : (op : ω) → τ → answer op × τ) (inv : τ → μ → Prop)
    (keeps : ∀op t m,inv t m → d.permits m op → inv (respond op t).2 (d.after m op (respond op t).1))
    (calls : Nat) {t : τ} (holds : inv t m) :
    ∃m',inv (interrupted respond calls p t).2 m' := by
  induction calls generalizing p t m with
  | zero =>
    refine ⟨m,?_⟩
    cases p <;> exact holds
  | succ calls ih =>
    cases p with
    | done a => exact ⟨m,holds⟩
    | call op next => exact ih (follows.2 _) (keeps op t m holds follows.1)

theorem Follows.eval {p : Program ω answer α} {post : α → μ → Prop} (follows : Follows d p m post)
    (respond : (op : ω) → τ → answer op × τ) (inv : τ → μ → Prop)
    (keeps : ∀op t m,inv t m → d.permits m op → inv (respond op t).2 (d.after m op (respond op t).1))
    {t : τ} (holds : inv t m) :
    ∃m',inv (eval respond p t).2 m' ∧ post (eval respond p t).1 m' := by
  induction p generalizing t m with
  | done a => exact ⟨m,holds,follows⟩
  | call op next ih => exact ih _ (follows.2 _) (keeps op t m holds follows.1)

section Nears

variable (goal past : ω → Prop)

/-- The program's next call is one that meets `goal`. -/
def At : Program ω answer α → Prop
  | .done _ => False
  | .call op _ => goal op

/-- The program can come to a call that meets `goal` and makes no call before that meets `past`. -/
def Nears : Program ω answer α → Prop
  | .done _ => False
  | .call op next => ¬past op ∧ ∃x,At goal (next x) ∨ Nears (next x)

variable {goal past}

/-- Modes that forbid the goal and last until a call is past it. -/
theorem Follows.not_nears (barred : μ → Prop) (forbids : ∀m op,barred m → goal op → ¬d.permits m op)
    (lasts : ∀m op x,barred m → ¬past op → barred (d.after m op x)) {p : Program ω answer α}
    {post : α → μ → Prop} (follows : Follows d p m post) (here : barred m) :
    ¬p.Nears goal past := by
  induction p generalizing m with
  | done a => exact id
  | call op next ih =>
    intro near
    obtain ⟨before,x,now|later⟩ := near
    · have after := lasts m op x here before
      have rest := follows.2 x
      cases there : next x with
      | done a =>
        rw [there] at now
        exact now
      | call op' next' =>
        rw [there] at now rest
        exact forbids _ op' after now rest.1
    · exact ih x (follows.2 x) (lasts m op x here before) later

end Nears

end Rules

/-- From `t`, the program succeeds just under `cond`, and then with `a` and `t'`. -/
structure Yields (respond : (op : ω) → τ → answer op × τ) (x : Attempt ε ω answer α) (t : τ)
    (cond : Prop) (a : α) (t' : τ) : Prop where
  ends : cond → eval respond x.run t=(.ok a,t')
  only : ∀b u,eval respond x.run t=(.ok b,u) → cond

namespace Yields

variable {respond : (op : ω) → τ → answer op × τ} {x : Attempt ε ω answer α} {t t' : τ}
  {cond : Prop} {a : α}

theorem pure (a : α) (t : τ) :
    Yields respond (Pure.pure a : Attempt ε ω answer α) t True a t :=
  ⟨fun _ => rfl,fun _ _ _ => trivial⟩

/-- A check ends the program unless it passes. -/
theorem guarded {c : Prop} [Decidable c] {e : ε} {f : β → Attempt ε ω answer α} (b : β)
    (next : ¬c → Yields respond (f b) t cond a t') :
    Yields respond (if c then MonadExcept.throw e >>= f else f b) t (¬c ∧ cond) a t' := by
  by_cases holds : c
  · rw [if_pos holds]
    exact ⟨fun both => absurd holds both.1,nofun⟩
  · rw [if_neg holds]
    exact ⟨fun both => (next holds).ends both.2,fun d u result =>
      ⟨holds,(next holds).only d u result⟩⟩

theorem lift (p : Program ω answer α) (t : τ) : Yields respond (monadLift p : Attempt ε ω answer α) t
    True (eval respond p t).1 (eval respond p t).2 := by
  refine ⟨fun _ => ?_,fun _ _ _ => trivial⟩
  have run : (monadLift p : Attempt ε ω answer α).run=p >>= fun a => Pure.pure (.ok a) := rfl
  rw [run,eval_bind]
  rfl

theorem bind {f : α → Attempt ε ω answer β} {cond' : Prop} {b : β} {t'' : τ}
    (first : Yields respond x t cond a t') (next : cond → Yields respond (f a) t' cond' b t'') :
    Yields respond (x >>= f) t (cond ∧ cond') b t'' := by
  constructor
  · intro holds
    rw [eval_attempt,first.ends holds.1]
    exact (next holds.1).ends holds.2
  · intro c u result
    rw [eval_attempt] at result
    cases run : Program.eval respond x.run t with
    | mk r v =>
      rw [run] at result
      cases r with
      | error e => cases result
      | ok a' =>
        have holds := first.only a' v run
        rw [first.ends holds] at run
        cases run
        exact ⟨holds,(next holds).only c u result⟩

/-- An attempt whose result is looked at later: what follows fails unless it succeeds. -/
theorem caught {f : Except ε α → Attempt ε ω answer β} {b : β} {t'' : τ}
    (inner : Yields respond x t cond a t') (next : cond → Yields respond (f (.ok a)) t' True b t'')
    (fails : ∀e u c v,Program.eval respond (f (.error e)).run u≠(.ok c,v)) :
    Yields respond ((monadLift x.run : Attempt ε ω answer _) >>= f) t cond b t'' := by
  have run : Program.eval respond ((monadLift x.run : Attempt ε ω answer _) >>= f).run t=
      Program.eval respond (f (Program.eval respond x.run t).1).run
        (Program.eval respond x.run t).2 := by
    rw [eval_attempt,(lift x.run t).ends trivial]
  constructor
  · intro holds
    rw [run,inner.ends holds]
    exact (next holds).ends trivial
  · intro c u result
    rw [run] at result
    cases ended : Program.eval respond x.run t with
    | mk r v =>
      rw [ended] at result
      cases r with
      | error e => exact absurd result (fails e v c u)
      | ok a' => exact inner.only a' v ended

theorem congr {cond' : Prop} (yields : Yields respond x t cond a t') (same : cond' ↔ cond) :
    Yields respond x t cond' a t' :=
  ⟨fun holds => yields.ends (same.mp holds),fun b u result => same.mpr (yields.only b u result)⟩

end Yields

end Program
