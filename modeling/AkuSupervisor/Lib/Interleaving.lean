import Mathlib.Logic.Function.Basic
import AkuSupervisor.Lib.Program
import AkuSupervisor.Lib.Run

/-! Programs of numbered parties interleaved over shared state, one call at a time. A discipline of
modes carries invariants that speak of how far each party is. -/

/-- `respond` answers a call of a party, `choice` being what the environment contributes to it.
`abandon` is what the death of a party does to the shared state, and `disturb` what comes from
outside all parties. -/
structure Interleaving (σ ω : Type) (answer : ω → Type) (ε ρ δ α : Type) where
  respond : Nat → ε → (op : ω) → σ → answer op × σ
  program : ρ → Program ω answer α
  abandon : Nat → σ → σ
  disturb : δ → σ → σ

namespace Interleaving

variable {σ ω : Type} {answer : ω → Type} {ε ρ δ α μ : Type}

inductive Party (ω : Type) (answer : ω → Type) (α : Type) where
  | unborn
  | working (program : Program ω answer α)
  | killed

structure State (σ ω : Type) (answer : ω → Type) (α : Type) where
  shared : σ
  parties : Nat → Party ω answer α

/-- A state in which no party has started. -/
def State.initial (shared : σ) : State σ ω answer α := ⟨shared,fun _ => .unborn⟩

/-- The call a party is about to make. -/
def State.calling (s : State σ ω answer α) (i : Nat) : Option ω :=
  match s.parties i with
  | .working (.call op _) => some op
  | _ => none

theorem State.calling_eq {s : State σ ω answer α} {i : Nat} {op : ω}
    {next : answer op → Program ω answer α} (here : s.parties i=.working (.call op next)) :
    s.calling i=some op := by
  unfold calling
  rw [here]

inductive Move (ε ρ δ : Type) where
  | launch (party : Nat) (request : ρ)
  | advance (party : Nat) (choice : ε)
  | kill (party : Nat)
  | disturb (change : δ)

section Machine

variable (sys : Interleaving σ ω answer ε ρ δ α)

/-- A move that a party cannot make leaves the state as it is. -/
def step (move : Move ε ρ δ) (s : State σ ω answer α) : State σ ω answer α :=
  match move with
  | .launch i request =>
    match s.parties i with
    | .unborn => { s with parties := Function.update s.parties i (.working (sys.program request)) }
    | _ => s
  | .advance i choice =>
    match s.parties i with
    | .working (.call op next) =>
      ⟨(sys.respond i choice op s.shared).2,Function.update s.parties i
        (.working (next (sys.respond i choice op s.shared).1))⟩
    | _ => s
  | .kill i =>
    match s.parties i with
    | .working _ => ⟨sys.abandon i s.shared,Function.update s.parties i .killed⟩
    | _ => s
  | .disturb change => { s with shared := sys.disturb change s.shared }

/-- What a move does: nothing, or it starts, advances or kills a party, or it changes what is
shared from outside. -/
theorem step_cases (move : Move ε ρ δ) (s : State σ ω answer α) :
    step sys move s=s ∨
    (∃i request,move=.launch i request ∧ s.parties i=.unborn ∧ step sys move s=
      ⟨s.shared,Function.update s.parties i (.working (sys.program request))⟩) ∨
    (∃i choice op next,move=.advance i choice ∧ s.parties i=.working (.call op next) ∧
      step sys move s=⟨(sys.respond i choice op s.shared).2,Function.update s.parties i
        (.working (next (sys.respond i choice op s.shared).1))⟩) ∨
    (∃i p,move=.kill i ∧ s.parties i=.working p ∧ step sys move s=
      ⟨sys.abandon i s.shared,Function.update s.parties i .killed⟩) ∨
    ∃change,move=.disturb change ∧ step sys move s=⟨sys.disturb change s.shared,s.parties⟩ := by
  cases move with
  | launch i request =>
    cases here : s.parties i with
    | unborn => exact .inr (.inl ⟨i,request,rfl,here,by simp [step,here]⟩)
    | working p => exact .inl (by simp [step,here])
    | killed => exact .inl (by simp [step,here])
  | advance i choice =>
    cases here : s.parties i with
    | working p =>
      cases p with
      | done a => exact .inl (by simp [step,here])
      | call op next =>
        exact .inr (.inr (.inl ⟨i,choice,op,next,rfl,here,by simp [step,here]⟩))
    | unborn => exact .inl (by simp [step,here])
    | killed => exact .inl (by simp [step,here])
  | kill i =>
    cases here : s.parties i with
    | working p => exact .inr (.inr (.inr (.inl ⟨i,p,rfl,here,by simp [step,here]⟩)))
    | unborn => exact .inl (by simp [step,here])
    | killed => exact .inl (by simp [step,here])
  | disturb change => exact .inr (.inr (.inr (.inr ⟨change,rfl,rfl⟩)))

/-- What the moves do to the shared state and to the modes of the parties while they meet `ok`. A
party that is killed stays in the mode `dead` makes of its last one. -/
structure Upholds (d : Program.Discipline ω answer μ) (start : μ) (dead : μ → μ)
    (ok : State σ ω answer α → Move ε ρ δ → Prop) (inv : σ → (Nat → μ) → Prop) : Prop where
  follows : ∀request,(sys.program request).Follows d start fun _ _ => True
  advances : ∀s modes i choice op next,inv s.shared modes →
    s.parties i=.working (.call op next) → d.permits (modes i) op → ok s (.advance i choice) →
    inv (sys.respond i choice op s.shared).2
      (Function.update modes i (d.after (modes i) op (sys.respond i choice op s.shared).1))
  kills : ∀s modes i,inv s.shared modes → ok s (.kill i) →
    inv (sys.abandon i s.shared) (Function.update modes i (dead (modes i)))
  disturbs : ∀s modes change,inv s.shared modes → ok s (.disturb change) →
    inv (sys.disturb change s.shared) modes

/-- What is left of a party follows the discipline from its mode. -/
def Party.Follows (d : Program.Discipline ω answer μ) (start : μ) (mode : μ) :
    Party ω answer α → Prop
  | .unborn => mode=start
  | .working p => p.Follows d mode fun _ _ => True
  | .killed => True

/-- Every party follows the discipline from its mode. -/
def Disciplined (d : Program.Discipline ω answer μ) (start : μ) (inv : σ → (Nat → μ) → Prop)
    (s : State σ ω answer α) : Prop :=
  ∃modes,inv s.shared modes ∧ ∀i,(s.parties i).Follows d start (modes i)

end Machine

variable {sys : Interleaving σ ω answer ε ρ δ α} {d : Program.Discipline ω answer μ} {start : μ}
  {dead : μ → μ} {ok : State σ ω answer α → Move ε ρ δ → Prop} {inv : σ → (Nat → μ) → Prop}

theorem disciplined_initial (shared : σ) (holds : inv shared fun _ => start) :
    Disciplined d start inv (State.initial shared : State σ ω answer α) :=
  ⟨fun _ => start,holds,fun _ => rfl⟩

/-- One party changes with its mode, and the others follow the discipline as before. -/
theorem follows_update {parties : Nat → Party ω answer α} {modes : Nat → μ}
    (each : ∀j,(parties j).Follows d start (modes j)) (i : Nat) (party : Party ω answer α) (m : μ)
    (follows : party.Follows d start m) (j : Nat) :
    (Function.update parties i party j).Follows d start (Function.update modes i m j) := by
  by_cases same : j=i
  · subst same
    simpa only [Function.update_self] using follows
  · simpa only [Function.update_of_ne same] using each j

theorem Upholds.keeps (upholds : Upholds sys d start dead ok inv) :
    Run.Keeps (step sys) ok (Disciplined d start inv) := by
  intro s move disciplined allowed
  obtain ⟨modes,holds,each⟩ := disciplined
  rcases step_cases sys move s with same|⟨i,request,-,born,after⟩|⟨i,choice,op,next,rfl,here,after⟩|
    ⟨i,p,rfl,-,after⟩|⟨change,rfl,after⟩
  · rw [same]
    exact ⟨modes,holds,each⟩
  · rw [after]
    have unmoved : modes i=start := by
      have now := each i
      rwa [born] at now
    have kept : Function.update modes i start=modes := by rw [← unmoved,Function.update_eq_self]
    refine ⟨modes,holds,fun j => ?_⟩
    rw [← kept]
    exact follows_update each i (.working (sys.program request)) start
      (upholds.follows request) j
  · rw [after]
    have now := each i
    rw [here] at now
    exact ⟨_,upholds.advances s modes i choice op next holds here now.1 allowed,
      follows_update each i (.working (next _)) _ (now.2 _)⟩
  · rw [after]
    exact ⟨_,upholds.kills s modes i holds allowed,follows_update each i .killed _ trivial⟩
  · rw [after]
    exact ⟨modes,upholds.disturbs s modes change holds allowed,each⟩

/-- Every party follows the discipline, and `post` holds where party `i` ends. -/
def Ending (d : Program.Discipline ω answer μ) (start : μ) (inv : σ → (Nat → μ) → Prop) (i : Nat)
    (post : α → μ → Prop) (s : State σ ω answer α) : Prop :=
  ∃modes,inv s.shared modes ∧ (∀j,(s.parties j).Follows d start (modes j)) ∧
    s.parties i≠.unborn ∧ ∀p,s.parties i=.working p → p.Follows d (modes i) post

/-- A party is started with a program of which `post` holds in the end. -/
theorem Disciplined.launch {s : State σ ω answer α} (disciplined : Disciplined d start inv s)
    {i : Nat} (born : s.parties i=.unborn) {request : ρ}
    (each : ∀request,(sys.program request).Follows d start fun _ _ => True)
    {post : α → μ → Prop} (follows : (sys.program request).Follows d start post) :
    Ending d start inv i post (step sys (.launch i request) s) := by
  obtain ⟨modes,holds,parties⟩ := disciplined
  have unmoved : modes i=start := by
    have now := parties i
    rwa [born] at now
  have kept : Function.update modes i start=modes := by rw [← unmoved,Function.update_eq_self]
  have after : step sys (.launch i request) s=
      ⟨s.shared,Function.update s.parties i (.working (sys.program request))⟩ := by
    simp [step,born]
  rw [after]
  refine ⟨modes,holds,fun j => ?_,by simp,fun p here => ?_⟩
  · rw [← kept]
    exact follows_update parties i (.working (sys.program request)) start (each request) j
  · simp only [Function.update_self,Party.working.injEq] at here
    rw [← here,unmoved]
    exact follows

/-- Where a party ends is not changed by what the others do. -/
theorem Upholds.keeps_ending (upholds : Upholds sys d start dead ok inv) (i : Nat)
    (post : α → μ → Prop) : Run.Keeps (step sys) ok (Ending d start inv i post) := by
  intro s move ending allowed
  obtain ⟨modes,holds,each,born,tells⟩ := ending
  have others (j : Nat) (other : j≠i) (party : Party ω answer α) (m : μ) :
      Function.update s.parties j party i≠.unborn ∧
        ∀p,Function.update s.parties j party i=.working p →
          p.Follows d (Function.update modes j m i) post := by
    rw [Function.update_of_ne (Ne.symm other),Function.update_of_ne (Ne.symm other)]
    exact ⟨born,tells⟩
  rcases step_cases sys move s with same|⟨j,request,-,unborn,after⟩|
    ⟨j,choice,op,next,rfl,here,after⟩|⟨j,p,rfl,-,after⟩|⟨change,rfl,after⟩
  · rw [same]
    exact ⟨modes,holds,each,born,tells⟩
  · rw [after]
    have unmoved : modes j=start := by
      have now := each j
      rwa [unborn] at now
    have kept : Function.update modes j start=modes := by rw [← unmoved,Function.update_eq_self]
    have other : j≠i := fun same => born (same ▸ unborn)
    refine ⟨modes,holds,fun k => ?_,?_⟩
    · rw [← kept]
      exact follows_update each j (.working (sys.program request)) start
        (upholds.follows request) k
    · have mine := others j other (.working (sys.program request)) start
      rwa [kept] at mine
  · rw [after]
    have now := each j
    rw [here] at now
    refine ⟨_,upholds.advances s modes j choice op next holds here now.1 allowed,
      follows_update each j (.working (next _)) _ (now.2 _),?_⟩
    by_cases other : j=i
    · subst other
      refine ⟨by simp,fun p mine => ?_⟩
      simp only [Function.update_self,Party.working.injEq] at mine ⊢
      rw [← mine]
      exact (tells _ here).2 _
    · exact others j other _ _
  · rw [after]
    refine ⟨_,upholds.kills s modes j holds allowed,follows_update each j .killed _ trivial,?_⟩
    by_cases other : j=i
    · subst other
      refine ⟨by simp,fun p mine => ?_⟩
      simp at mine
    · exact others j other _ _
  · rw [after]
    exact ⟨modes,upholds.disturbs s modes change holds allowed,each,born,tells⟩

theorem Ending.done {i : Nat} {post : α → μ → Prop} {s : State σ ω answer α} {a : α}
    (ending : Ending d start inv i post s) (done : s.parties i=.working (.done a)) :
    ∃modes,inv s.shared modes ∧ post a (modes i) := by
  obtain ⟨modes,holds,-,-,tells⟩ := ending
  exact ⟨modes,holds,tells _ done⟩

/-- Every party that has started ends as `post` tells. -/
def AllEnding (d : Program.Discipline ω answer μ) (start : μ) (inv : σ → (Nat → μ) → Prop)
    (post : α → μ → Prop) (s : State σ ω answer α) : Prop :=
  Disciplined d start inv s ∧ ∀i,s.parties i=.unborn ∨ Ending d start inv i post s

theorem Upholds.keeps_all (upholds : Upholds sys d start dead ok inv) {post : α → μ → Prop}
    (follows : ∀request,(sys.program request).Follows d start post) :
    Run.Keeps (step sys) ok (AllEnding d start inv post) := by
  intro s move all allowed
  obtain ⟨disciplined,each⟩ := all
  refine ⟨upholds.keeps s move disciplined allowed,fun i => ?_⟩
  rcases each i with unborn|ending
  · have other {j : Nat} {p : Program ω answer α} (here : s.parties j=.working p) : i≠j := by
      intro same
      rw [← same,unborn] at here
      cases here
    rcases step_cases sys move s with same|⟨j,request,rfl,born,after⟩|⟨j,choice,op,next,-,here,after⟩|
      ⟨j,p,-,here,after⟩|⟨change,-,after⟩
    · rw [same]
      exact .inl unborn
    · by_cases same : i=j
      · subst same
        exact .inr (disciplined.launch born upholds.follows (follows request))
      · rw [after]
        exact .inl ((Function.update_of_ne same _ _).trans unborn)
    · rw [after]
      exact .inl ((Function.update_of_ne (other here) _ _).trans unborn)
    · rw [after]
      exact .inl ((Function.update_of_ne (other here) _ _).trans unborn)
    · rw [after]
      exact .inl unborn
  · exact .inr (upholds.keeps_ending i post s move ending allowed)

/-- A reflexive relation between the shared states before and after each move. -/
theorem Disciplined.moves (ok : State σ ω answer α → Move ε ρ δ → Prop) (R : σ → σ → Prop)
    (refl : ∀shared,R shared shared)
    (advances : ∀s modes i choice op next,inv s.shared modes →
      s.parties i=.working (.call op next) → d.permits (modes i) op → ok s (.advance i choice) →
      R s.shared (sys.respond i choice op s.shared).2)
    (kills : ∀i shared,R shared (sys.abandon i shared))
    (disturbs : ∀change shared,R shared (sys.disturb change shared)) {s : State σ ω answer α}
    {move : Move ε ρ δ} (disciplined : Disciplined d start inv s) (allowed : ok s move) :
    R s.shared (step sys move s).shared := by
  obtain ⟨modes,holds,each⟩ := disciplined
  rcases step_cases sys move s with same|⟨i,request,-,-,after⟩|⟨i,choice,op,next,rfl,here,after⟩|
    ⟨i,p,rfl,-,after⟩|⟨change,rfl,after⟩
  · rw [same]
    exact refl s.shared
  · rw [after]
    exact refl s.shared
  · rw [after]
    have now := each i
    rw [here] at now
    exact advances s modes i choice op next holds here now.1 allowed
  · rw [after]
    exact kills i s.shared
  · rw [after]
    exact disturbs change s.shared

end Interleaving
