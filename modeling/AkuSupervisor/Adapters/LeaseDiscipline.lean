import AkuSupervisor.Adapters.RuntimeLease

namespace AkuSupervisor

open Program

/-- How far a process is with the instance lease, and what it knows of the identity file. -/
inductive LeaseStage where
  | outside
  | locked
  | opened (file : Nat)
  | written (file : Nat) (content : List UInt8)

/-- The stages of a process that holds the instance lock. -/
def LeaseStage.owns : LeaseStage → Bool
  | .outside => false
  | _ => true

/-- `cleared` while a process may rely on having found the watcher's lock free, `watching` while it
holds that lock as a watcher. -/
structure LeaseMode where
  stage : LeaseStage
  cleared : Bool
  watching : Bool

namespace LeaseMode

def start : LeaseMode := ⟨.outside,false,false⟩

def moved (m : LeaseMode) (stage : LeaseStage) : LeaseMode := { m with stage }

/-- A lease is returned while the file is known to contain the identity, and to a stable supervisor
only if it has found no watcher. -/
def mayHold (runtime : RuntimeDirectory) (m : LeaseMode) (identity : RuntimeInstance) : Prop :=
  (∃file encoded,runtime.encode identity=.ok encoded ∧ m.stage=.written file (encoded++[10])) ∧
    (identity.mode=.stable → m.cleared=true)

def permits (runtime : RuntimeDirectory) : LeaseMode → LeaseCall → Prop
  | m,.tryWatcherLock | m,.tryInstanceLock => m.stage=.outside
  | m,.openIdentity | m,.readIdentity | m,.removeIdentity | m,.closeInstanceLock =>
    m.stage.owns=true
  | m,.setLength file => m.stage=.opened file
  | m,.writeIdentity file position _ =>
    ∃content,m.stage=.written file content ∧ position=content.length
  | m,.hold identity => m.mayHold runtime identity
  | m,.enterWatcherLock => m.watching=false
  | _,_ => True

/-- After bytes were written to the file that the process is writing. -/
def wrote (m : LeaseMode) (bytes : List UInt8) : LeaseMode :=
  match m.stage with
  | .written file content => m.moved (.written file (content++bytes))
  | _ => m

def after (m : LeaseMode) : (call : LeaseCall) → call.Answer → LeaseMode
  | .tryWatcherLock,locked => { m with cleared := locked.toBool }
  | .tryInstanceLock,.ok () => m.moved .locked
  | .openIdentity,.ok file => m.moved (.opened file)
  | .setLength file,.ok () => m.moved (.written file [])
  | .writeIdentity _ _ bytes,.ok count => m.wrote (bytes.take count)
  | .hold _,_ => { m with cleared := false }
  | .removeIdentity,.ok () => m.moved .locked
  | .abandonInstanceLock,_ | .closeInstanceLock,_ => m.moved .outside
  | .enterWatcherLock,.ok () => { m with watching := true }
  | .leaveWatcherLock,_ => { m with watching := false }
  | .exit,_ => start
  | _,_ => m

end LeaseMode

/-- The way supervisors and watchers use the files of the leases. -/
def leaseDiscipline (runtime : RuntimeDirectory) :
    Discipline LeaseCall LeaseCall.Answer LeaseMode :=
  ⟨LeaseMode.permits runtime,LeaseMode.after⟩

/-- `x` keeps to the discipline from the mode and succeeds in modes that meet `ok` only. -/
def LeaseMode.Keeps (runtime : RuntimeDirectory) {ε α : Type}
    (x : Attempt ε LeaseCall LeaseCall.Answer α) (m : LeaseMode) (ok : α → LeaseMode → Prop) :
    Prop :=
  Tries (leaseDiscipline runtime) x m ok fun _ _ => True

namespace LeaseMode

open Attempt (settle)
open LeaseCall (ask)

variable {runtime : RuntimeDirectory} {ε ε' α β : Type} {m : LeaseMode}

theorem keeps_pure {ok : α → LeaseMode → Prop} (a : α) (holds : ok a m) :
    Keeps runtime (pure a : Attempt ε _ _ α) m ok := holds

theorem keeps_throw {ok : α → LeaseMode → Prop} (e : ε) :
    Keeps runtime (throw e : Attempt ε _ _ α) m ok := trivial

theorem keeps_bind {x : Attempt ε LeaseCall LeaseCall.Answer α}
    {f : α → Attempt ε LeaseCall LeaseCall.Answer β} {ok : β → LeaseMode → Prop}
    (first : Keeps runtime x m fun a m' => Keeps runtime (f a) m' ok) :
    Keeps runtime (x >>= f) m ok :=
  (tries_bind _ _).mpr first

theorem keeps_ask {call : LeaseCall} {ok : call.Answer → LeaseMode → Prop}
    (may : m.permits runtime call) (holds : ∀x,ok x (m.after call x)) :
    Keeps runtime (ask call : Attempt ε _ _ _) m ok :=
  (tries_ask call).mpr ⟨may,holds⟩

/-- A call whose failure ends the program. -/
theorem keeps_call {call : LeaseCall} {result : call.Answer → Except ε' α} {meaning : ε' → ε}
    {f : α → Attempt ε LeaseCall LeaseCall.Answer β} {ok : β → LeaseMode → Prop}
    (may : m.permits runtime call)
    (good : ∀x a,result x=.ok a → Keeps runtime (f a) (m.after call x) ok) :
    Keeps runtime (ask call >>= fun x => settle meaning (result x) >>= f) m ok := by
  refine keeps_bind (keeps_ask may fun x => keeps_bind (tries_settle (fun a answered => ?_)
    fun _ _ => trivial))
  exact good x a answered

theorem keeps_ite {c : Prop} [Decidable c] {x y : Attempt ε LeaseCall LeaseCall.Answer α}
    {ok : α → LeaseMode → Prop} (yes : c → Keeps runtime x m ok) (no : ¬c → Keeps runtime y m ok) :
    Keeps runtime (if c then x else y) m ok := by
  by_cases holds : c
  · rw [if_pos holds]
    exact yes holds
  · rw [if_neg holds]
    exact no holds

/-- A program whose end is looked at later. -/
theorem keeps_caught {x : Attempt ε LeaseCall LeaseCall.Answer α}
    {f : Except ε α → Attempt ε LeaseCall LeaseCall.Answer β} {q : α → LeaseMode → Prop}
    {ok : β → LeaseMode → Prop} (tried : Keeps runtime x m q)
    (good : ∀a m',q a m' → Keeps runtime (f (.ok a)) m' ok)
    (bad : ∀e m',Keeps runtime (f (.error e)) m' ok) :
    Keeps runtime ((monadLift x.run : Attempt ε LeaseCall LeaseCall.Answer _) >>= f) m ok := by
  refine keeps_bind ((tries_lift _).mpr (Follows.mono tried fun result m' ends => ?_))
  cases result with
  | ok a => exact good a m' ends
  | error e => exact bad e m'

/-- A whole buffer is written where the file ends, or the write fails. -/
theorem keeps_writeAll (path : String) (file : Nat) {ok : Unit → LeaseMode → Prop} (fuel : Nat)
    (position : Nat) (bytes content : List UInt8) (m : LeaseMode) (enough : bytes.length≤fuel)
    (atEnd : bytes≠[] → position=content.length)
    (good : ok () (m.moved (.written file (content++bytes)))) :
    Keeps runtime (writeAll path file fuel position bytes) (m.moved (.written file content)) ok := by
  induction fuel generalizing position bytes content with
  | zero =>
    have empty : bytes=[] := List.eq_nil_of_length_eq_zero (by omega)
    subst empty
    rw [List.append_nil] at good
    exact keeps_pure () good
  | succ fuel ih =>
    cases bytes with
    | nil =>
      rw [List.append_nil] at good
      exact keeps_pure () good
    | cons byte bytes =>
      refine keeps_call ⟨content,rfl,atEnd (List.cons_ne_nil _ _)⟩ fun x count answered => ?_
      have after : (m.moved (.written file content)).after
          (.writeIdentity file position (byte::bytes)) x=
          m.moved (.written file (content++(byte::bytes).take count)) := by
        rw [show x=.ok count from answered]
        rfl
      rw [after]
      refine keeps_ite (fun _ => keeps_throw _) fun moved => ?_
      have start := atEnd (List.cons_ne_nil _ _)
      rw [List.length_cons] at enough
      refine ih _ _ _ ?_ (fun more => ?_) ?_
      · rw [List.length_drop,List.length_cons]
        omega
      · have within : count<(byte::bytes).length := by
          by_contra past
          exact more (List.drop_eq_nil_of_le (by omega))
        rw [List.length_append,List.length_take,start]
        omega
      · rw [List.append_assoc,List.take_append_drop]
        exact good

/-- What is written is the identity's text and a newline. -/
theorem keeps_writeJson (file : Nat) (path : String) (value : RuntimeInstance)
    {ok : Unit → LeaseMode → Prop} (opened : m.stage=.opened file)
    (good : ∀encoded,runtime.encode value=.ok encoded →
      ok () (m.moved (.written file (encoded++[10])))) :
    Keeps runtime (runtime.writeJson file path value) m ok := by
  refine keeps_bind (tries_settle (fun encoded serialized => ?_) fun _ _ => trivial)
  refine keeps_call opened fun x _ truncated => ?_
  have after : m.after (.setLength file) x=m.moved (.written file []) := by
    rw [show x=.ok () from truncated]
    rfl
  rw [after]
  refine keeps_call trivial fun _ _ _ => ?_
  refine keeps_bind (keeps_writeAll path file _ 0 encoded [] m (Nat.le_refl _) (fun _ => rfl) ?_)
  refine keeps_bind (keeps_writeAll path file 1 encoded.length [10] _ m (Nat.le_refl _)
    (fun _ => rfl) ?_)
  exact keeps_bind (keeps_ask trivial fun _ => tries_settle (fun _ _ => good encoded serialized)
    fun _ _ => trivial)

theorem keeps_publish (identity : RuntimeInstance) {ok : Unit → LeaseMode → Prop}
    (owns : m.stage.owns=true) (good : ∀file encoded,runtime.encode identity=.ok encoded →
      ok () (m.moved (.written file (encoded++[10])))) :
    Keeps runtime (runtime.publish identity) m ok := by
  refine keeps_caught (q := ok) ?_ (fun _ m' holds => keeps_pure () holds) fun e m' =>
    keeps_bind (keeps_ask trivial fun _ => keeps_throw e)
  refine keeps_call owns fun x file opened => ?_
  have after : m.after .openIdentity x=m.moved (.opened file) := by
    rw [show x=.ok file from opened]
    rfl
  rw [after]
  exact keeps_writeJson file _ identity rfl fun encoded => good file encoded

/-- The check of the watcher's authority leaves a process outside the instance lock; a stable
supervisor passes it only where the watcher's lock was free. -/
theorem keeps_verifyWatcherAuthority (identity : RuntimeInstance)
    (suppliedWatcherId : Option String) {ok : Unit → LeaseMode → Prop}
    (good : ∀cleared,(identity.mode=.stable → cleared=true) → ok () ⟨.outside,cleared,false⟩) :
    Keeps runtime (runtime.verifyWatcherAuthority identity suppliedWatcherId) start ok := by
  refine keeps_call trivial fun _ _ _ => keeps_bind (keeps_ask rfl fun locked => ?_)
  cases locked with
  | ok =>
    refine keeps_bind (keeps_ask trivial fun _ => ?_)
    exact keeps_ite (fun _ => keeps_pure () (good true fun _ => rfl)) fun _ => keeps_throw _
  | error e =>
    cases e with
    | error source => exact keeps_throw _
    | wouldBlock =>
      refine keeps_call trivial fun _ watcher _ => ?_
      refine keeps_ite (fun authorized => ?_) fun _ => keeps_throw _
      refine keeps_pure () (good false fun stable => ?_)
      rw [stable] at authorized
      cases authorized.1

theorem keeps_acquire (identity : RuntimeInstance) (suppliedWatcherId : Option String)
    {ok : Unit → LeaseMode → Prop} (good : ∀m : LeaseMode,m.mayHold runtime identity → ok () m) :
    Keeps runtime (runtime.acquire identity suppliedWatcherId) start ok := by
  refine keeps_call trivial fun _ _ _ => keeps_bind ?_
  refine keeps_verifyWatcherAuthority identity suppliedWatcherId fun cleared free => ?_
  refine keeps_call trivial fun _ _ _ => keeps_bind (keeps_ask rfl fun locked => ?_)
  cases locked with
  | ok =>
    refine keeps_publish identity rfl fun file encoded serialized => good _ ⟨?_,free⟩
    exact ⟨file,encoded,serialized,rfl⟩
  | error e =>
    cases e with
    | error source => exact keeps_throw _
    | wouldBlock => exact keeps_bind (keeps_ask trivial fun _ => keeps_throw _)

theorem owns_of_mayHold {identity : RuntimeInstance} (may : m.mayHold runtime identity) :
    m.stage.owns=true := by
  obtain ⟨⟨file,encoded,-,written⟩,-⟩ := may
  rw [written]
  rfl

/-- A supervisor keeps to the discipline: while it holds the lease the file is its identity. -/
theorem keeps_supervisor (identity : RuntimeInstance) (suppliedWatcherId : Option String) :
    Keeps runtime (runtime.supervisor identity suppliedWatcherId) start fun _ _ => True := by
  refine keeps_bind (keeps_acquire identity suppliedWatcherId fun m may => ?_)
  refine keeps_bind (keeps_ask may fun _ => ?_)
  have owns := owns_of_mayHold may
  refine keeps_bind (keeps_ask owns fun found => ?_)
  refine keeps_ite (fun _ => ?_) fun _ => keeps_ask owns fun _ => trivial
  refine keeps_bind (keeps_ask owns fun removed => keeps_ask ?_ fun _ => trivial)
  cases removed with
  | ok => exact rfl
  | error e => exact owns

theorem keeps_watcher (document : WatcherDocument) :
    Keeps runtime (runtime.watcher document) start fun _ _ => True := by
  refine keeps_caught (q := fun _ _ => True) ?_ (fun _ m' _ => ?_) fun e m' => ?_
  · refine keeps_call trivial fun _ _ _ => keeps_call trivial fun _ _ _ => ?_
    refine keeps_bind (keeps_ask rfl fun entered => ?_)
    cases entered with
    | ok =>
      refine keeps_call trivial fun _ _ _ => keeps_bind (keeps_ask trivial fun _ => ?_)
      exact tries_settle (fun _ _ => trivial) fun _ _ => trivial
    | error e => exact keeps_bind (keeps_ask trivial fun _ => keeps_throw _)
  · refine keeps_bind (keeps_ask trivial fun _ => keeps_bind (keeps_ask trivial fun _ => ?_))
    refine keeps_bind (keeps_ask trivial fun found => ?_)
    refine keeps_ite (fun _ => ?_) fun _ => trivial
    exact keeps_bind (keeps_ask trivial fun _ => trivial)
  · exact keeps_bind (keeps_ask trivial fun _ => keeps_throw _)

end LeaseMode

end AkuSupervisor
