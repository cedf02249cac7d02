import AkuSupervisor.Adapters.Cleanup

namespace AkuSupervisor

open StateError

/-- How far the handler of one connection is: it still reads the request, it has found the stop flag
clear and waits for the idempotency lock, it mutates under the lock, or it has answered. -/
inductive HandlerStage where
  | reading
  | admitted
  | mutating
  | answered
  deriving DecidableEq

/-- Where the foreground stands: before the stop flag is set, after it, with the listener joined,
after the drain of connections, with the monitors joined, and at the end of its run. -/
inductive ShutdownPhase where
  | serving
  | stopping
  | listenerJoined
  | drained
  | monitorsJoined
  | returned
  deriving DecidableEq

namespace ShutdownPhase

def rank : ShutdownPhase → Nat
  | .serving => 0
  | .stopping => 1
  | .listenerJoined => 2
  | .drained => 3
  | .monitorsJoined => 4
  | .returned => 5

end ShutdownPhase

/-- The registry with all threads around it. `handled` are the services that the cleanup has stopped
or found without a process. -/
structure ShutdownSystem (P : Type) where
  registry : ServiceRegistry P
  phase : ShutdownPhase
  handlers : List HandlerStage
  handled : List String

/-- The moves of the threads; a mutation makes any number of registry calls. -/
inductive ShutdownMove (P E Q : Type) where
  | accept
  | testFlag (handler : Nat)
  | lock (handler : Nat)
  | mutate (handler : Nat) (platform : Platform P E Q) (action : ControlAction)
      (serviceId : String) (actor : Actor) (reason : Reason)
  | answer (handler : Nat)
  | monitor (op : RegistryOp P E Q)
  | console (platform : Platform P E Q) (action : ControlAction) (serviceId : String)
      (reason : Reason)
  | requestStop
  | joinListener
  | endDrain
  | joinMonitors
  | stop (platform : Platform P E Q) (serviceId : String) (cause : ShutdownCause)
  | leave

def TreeCall.launches {P E : Type} (id : String) : TreeCall P E → Bool
  | .spawn serviceId _ _ => serviceId=id
  | _ => false

namespace ShutdownMove

variable {P E Q : Type}

/-- The registry call that a move makes. Monitors run until they are joined, the console is read
before the stop flag is set only, and a handler goes on as long as it is not done. -/
def op (s : ShutdownSystem P) : ShutdownMove P E Q → Option (RegistryOp P E Q)
  | .mutate handler platform action serviceId actor reason =>
    if s.handlers[handler]?=some .mutating then
      some (.request platform action.lifecycle serviceId actor reason)
    else none
  | .monitor op => if s.phase.rank<ShutdownPhase.monitorsJoined.rank then some op else none
  | .console platform action serviceId reason =>
    if s.phase=.serving then some (.request platform action.lifecycle serviceId .userCli reason)
    else none
  | .stop platform serviceId cause =>
    if s.phase=.monitorsJoined then
      some (.request platform .stop serviceId cause.actor cause.reason)
    else none
  | _ => none

def registryAfter (move : ShutdownMove P E Q) (s : ShutdownSystem P) : ServiceRegistry P :=
  match move.op s with
  | some op => op.step s.registry
  | none => s.registry

/-- The phase moves on in the order of the source. -/
def phaseAfter (s : ShutdownSystem P) : ShutdownMove P E Q → ShutdownPhase
  | .requestStop => if s.phase=.serving then .stopping else s.phase
  | .joinListener => if s.phase=.stopping then .listenerJoined else s.phase
  | .endDrain => if s.phase=.listenerJoined then .drained else s.phase
  | .joinMonitors => if s.phase=.drained then .monitorsJoined else s.phase
  | .leave => if s.phase=.monitorsJoined then .returned else s.phase
  | _ => s.phase

/-- The listener accepts until it is joined; the flag is tested once, before the lock. -/
def handlersAfter (s : ShutdownSystem P) : ShutdownMove P E Q → List HandlerStage
  | .accept =>
    if s.phase.rank<ShutdownPhase.listenerJoined.rank then s.handlers++[.reading] else s.handlers
  | .testFlag handler =>
    if s.handlers[handler]?=some .reading then
      s.handlers.set handler (if s.phase=.serving then .admitted else .answered)
    else s.handlers
  | .lock handler =>
    if s.handlers[handler]?=some .admitted ∧ .mutating∉s.handlers then
      s.handlers.set handler .mutating
    else s.handlers
  | .answer handler => s.handlers.set handler .answered
  | _ => s.handlers

def handledAfter (move : ShutdownMove P E Q) (s : ShutdownSystem P) : List String :=
  match move with
  | .stop _ serviceId _ =>
    if s.phase=.monitorsJoined ∧
        ((move.registryAfter s).services[serviceId]?.bind (·.runtime.process)).isNone then
      serviceId::s.handled
    else s.handled
  | _ => s.handled

def step (move : ShutdownMove P E Q) (s : ShutdownSystem P) : ShutdownSystem P :=
  ⟨move.registryAfter s,move.phaseAfter s,move.handlersAfter s,move.handledAfter s⟩

end ShutdownMove

namespace Foreground

variable {P E Q : Type} [ToString E] [ToString Q] (w : Foreground P E Q) (action : ControlAction)
  (serviceId : String) (actor : Actor) (reason : Reason)

/-- An audited call makes its registry call, or stops at the look in front of it. -/
theorem audited_steps (s : AuditedState (ServedRegistry P E Q)) :
    (final ((w.audited.mutate action serviceId actor reason).run s)).inner.steps=s.inner.steps ∨
      (final ((w.audited.mutate action serviceId actor reason).run s)).inner.steps=
        s.inner.steps++[(s.inner.registry,.request (w.platforms (s.inner.answered+1) serviceId)
          action.lifecycle serviceId actor reason)] := by
  have ran := run_audited_snapshots w s
  cases seen : ServiceRegistry.snapshots (w.platforms s.inner.answered) s.inner.registry with
  | error error =>
    rw [seen] at ran
    rw [AuditedControl.run_mutate_unobserved w.audited action serviceId actor reason s _ _ ran]
    exact .inl rfl
  | ok services =>
    rw [seen] at ran
    have kept := (AuditedControl.run_mutate_observed w.audited action serviceId actor reason s
      services _ ran).2
    have taken : final ((w.audited.inner.mutate action serviceId actor reason).run
        (looked s).inner)=_ := ServedRegistry.final_registryControl_mutate w.platforms action
          serviceId actor reason (looked s).inner
    have looks (u : ServedRegistry P E Q) : final (w.audited.inner.snapshots.run u)=
        { u with answered := u.answered+1 } := ServedRegistry.final_observe _ u
    rw [kept,looks,taken]
    exact .inr rfl

/-- All that a mutation does to the registry are requests. -/
theorem mutate_requests (s : AuditedState (ServedRegistry P E Q))
    (unseen : ∀action id direct order s,
      (w.observer.planned action id direct order s).inner.steps=s.inner.steps) :
    ∀step∈(final ((w.control.mutate action serviceId actor reason).run s)).inner.steps,
      step∈s.inner.steps ∨ ∃platform action' id,
        step.2=.request platform (ControlAction.lifecycle action') id actor reason := by
  let inv (t : AuditedState (ServedRegistry P E Q)) : Prop := ∀step∈t.inner.steps,
    step∈s.inner.steps ∨ ∃platform action' id,
      step.2=.request platform (ControlAction.lifecycle action') id actor reason
  have same {t u : AuditedState (ServedRegistry P E Q)} (h : inv t)
      (steps : u.inner.steps=t.inner.steps) : inv u := by
    intro step mem
    rw [steps] at mem
    exact h step mem
  refine DependencyAwareControl.mutate_keeps ⟨w.audited.control,w.observer⟩ action serviceId actor
    reason s inv (fun t h => ?_) (fun ids t h => ?_) (fun action' id t h => ?_)
    (fun action' id direct order t h => same h (unseen _ _ _ _ _)) (fun step mem => .inl mem)
  · apply same h
    have ran : w.audited.control.snapshots.run t=_ := run_snapshots w t
    rw [ran]
    cases ServiceRegistry.snapshots (w.platforms t.inner.answered) t.inner.registry <;> rfl
  · apply same h
    have ran : final ((w.audited.control.preflightLaunches ids).run t)=
        { t with inner := final ((w.audited.inner.preflightLaunches ids).run t.inner) } :=
      AuditedControl.final_onInner _ t
    have looks : final ((w.audited.inner.preflightLaunches ids).run t.inner)=
        { t.inner with answered := t.inner.answered+1 } := ServedRegistry.final_observe _ t.inner
    rw [ran,looks]
  · rcases audited_steps w action' id actor reason t with steps|steps
    · exact same h steps
    · intro step mem
      have mem : step∈(final ((w.audited.mutate action' id actor reason).run t)).inner.steps := mem
      rw [steps] at mem
      rcases List.mem_append.mp mem with old|new
      · exact h step old
      · cases List.mem_singleton.mp new
        exact .inr ⟨_,action',id,rfl⟩

end Foreground

namespace ShutdownSystem

variable {P E Q : Type}

def new (registry : ServiceRegistry P) : ShutdownSystem P := ⟨registry,.serving,[],[]⟩

/-- Until the run returns, the launcher is not invoked for a service that the cleanup has handled. -/
def NoLateLaunch (s : ShutdownSystem P) (move : ShutdownMove P E Q) : Prop :=
  s.phase≠.returned → ∀op∈move.op s,∀id∈s.handled,
    ∀call∈(op.apply s.registry).calls,call.launches id=false

instance (s : ShutdownSystem P) (move : ShutdownMove P E Q) : Decidable (s.NoLateLaunch move) :=
  inferInstanceAs (Decidable (_ → _))

/-- No handler has passed the stop flag and is still to answer. -/
def Quiet (s : ShutdownSystem P) : Prop :=
  ∀stage∈s.handlers,stage=.reading ∨ stage=.answered

/-- The drain of connections ends with no such handler. -/
def Drains (s : ShutdownSystem P) (move : ShutdownMove P E Q) : Prop :=
  match move with
  | .endDrain => s.Quiet
  | _ => True

instance (s : ShutdownSystem P) (move : ShutdownMove P E Q) : Decidable (s.Drains move) := by
  cases move <;> unfold Drains <;> try unfold Quiet
  all_goals infer_instance

/-- After the drain no handler is past the flag, and services are handled after it only. -/
structure Drained (s : ShutdownSystem P) : Prop where
  sound : s.registry.Sound
  quiet : ShutdownPhase.drained.rank ≤ s.phase.rank → s.Quiet
  handled : s.handled≠[] → ShutdownPhase.monitorsJoined.rank ≤ s.phase.rank

theorem phase_grows (s : ShutdownSystem P) (move : ShutdownMove P E Q) :
    s.phase.rank≤(move.phaseAfter s).rank := by
  unfold ShutdownMove.phaseAfter
  cases move <;> simp only [Nat.le_refl] <;> split_ifs with here <;>
    simp [here,ShutdownPhase.rank]

/-- Only the end of the drain leads past it. -/
theorem phase_drained (s : ShutdownSystem P) (move : ShutdownMove P E Q)
    (after : ShutdownPhase.drained.rank≤(move.phaseAfter s).rank) :
    ShutdownPhase.drained.rank ≤ s.phase.rank ∨ move=.endDrain := by
  cases move with
  | endDrain => exact .inr rfl
  | requestStop =>
    simp only [ShutdownMove.phaseAfter] at after
    split_ifs at after
    · simp [ShutdownPhase.rank] at after
    · exact .inl after
  | joinListener =>
    simp only [ShutdownMove.phaseAfter] at after
    split_ifs at after
    · simp [ShutdownPhase.rank] at after
    · exact .inl after
  | joinMonitors =>
    simp only [ShutdownMove.phaseAfter] at after
    split_ifs at after with here
    · simp [here]
    · exact .inl after
  | leave =>
    simp only [ShutdownMove.phaseAfter] at after
    split_ifs at after with here
    · simp [here,ShutdownPhase.rank]
    · exact .inl after
  | _ => exact .inl after

/-- Once the flag is set, handlers only end. -/
theorem Quiet.step {s : ShutdownSystem P} (h : s.Quiet) (move : ShutdownMove P E Q)
    (set : s.phase≠.serving) : (move.step s).Quiet := by
  have replaced (handler : Nat) (stage : HandlerStage)
      (mem : stage∈s.handlers.set handler .answered) : stage=.reading ∨ stage=.answered := by
    rcases List.mem_or_eq_of_mem_set mem with old|new
    · exact h stage old
    · exact .inr new
  show ∀stage∈move.handlersAfter s,_
  intro stage mem
  cases move with
  | accept =>
    simp only [ShutdownMove.handlersAfter] at mem
    split_ifs at mem
    · rcases List.mem_append.mp mem with old|new
      · exact h stage old
      · exact .inl (List.mem_singleton.mp new)
    · exact h stage mem
  | testFlag handler =>
    simp only [ShutdownMove.handlersAfter,if_neg set] at mem
    split_ifs at mem
    · exact replaced handler stage mem
    · exact h stage mem
  | lock handler =>
    simp only [ShutdownMove.handlersAfter] at mem
    split_ifs at mem with waiting
    · have here := h .admitted (List.mem_of_getElem? waiting.1)
      simp at here
    · exact h stage mem
  | answer handler => exact replaced handler stage mem
  | _ => exact h stage mem

theorem sound_registryAfter (s : ShutdownSystem P) (sound : s.registry.Sound)
    (move : ShutdownMove P E Q) : (move.registryAfter s).Sound := by
  unfold ShutdownMove.registryAfter
  cases move.op s with
  | none => exact sound
  | some op => exact RegistryOp.sound_step op _ sound

/-- One move keeps the drain's effect. -/
theorem Drained.step {s : ShutdownSystem P} (h : s.Drained) (move : ShutdownMove P E Q)
    (drains : s.Drains move) : (move.step s).Drained := by
  have grows := phase_grows s move
  refine ⟨sound_registryAfter s h.sound move,fun after => ?_,fun some => ?_⟩
  · rcases phase_drained s move after with before|rfl
    · apply (h.quiet before).step move
      intro serving
      simp [serving,ShutdownPhase.rank] at before
    · exact drains
  · show _≤(move.phaseAfter s).rank
    have old (kept : s.handled≠[]) := Nat.le_trans (h.handled kept) grows
    cases move with
    | stop platform serviceId cause =>
      by_cases cleaning : s.phase=.monitorsJoined
      · rw [cleaning] at grows
        exact grows
      · apply old
        have some' : ShutdownMove.handledAfter (.stop platform serviceId cause) s≠[] := some
        rw [ShutdownMove.handledAfter,if_neg fun both => cleaning both.1] at some'
        exact some'
    | _ => exact old some

theorem launches_cases {id : String} {call : TreeCall P E} (launches : call.launches id=true) :
    ∃launch answer,call=.spawn id launch answer := by
  cases call with
  | spawn serviceId launch answer =>
    have same : serviceId=id := by simpa [TreeCall.launches] using launches
    exact ⟨launch,answer,by rw [same]⟩
  | _ => cases launches

/-- Stops do not launch. -/
theorem stop_quiet (platform : Platform P E Q) (serviceId : String) (actor : Actor)
    (reason : Reason) (r : ServiceRegistry P) (sound : r.Sound) (id : String) :
    ∀call∈((RegistryOp.request platform .stop serviceId actor reason).apply r).calls,
      call.launches id=false := by
  intro call mem
  rw [Bool.eq_false_iff]
  intro launches
  obtain ⟨launch,answer,rfl⟩ := launches_cases launches
  have mine := RegistryOp.spawn_calls _ r sound id launch answer mem
  obtain ⟨-,platform',action,actor',reason',e,same,-,other,-⟩ :=
    ((RegistryOp.request platform .stop serviceId actor reason).turn r sound id).spawn
      (fun e here => sound.keyed id e here) id launch answer mine
  cases same
  exact other rfl

theorem Drained.noLateLaunch {s : ShutdownSystem P} (h : s.Drained) (move : ShutdownMove P E Q) :
    s.NoLateLaunch move := by
  intro _ op made id mem
  have joined := h.handled (List.ne_nil_of_mem mem)
  have quiet := h.quiet (Nat.le_trans (by decide) joined)
  cases move with
  | mutate handler platform action serviceId actor reason =>
    simp only [ShutdownMove.op,Option.mem_def] at made
    split_ifs at made with busy
    have here := quiet .mutating (List.mem_of_getElem? busy)
    simp at here
  | monitor op' =>
    simp only [ShutdownMove.op,Option.mem_def] at made
    split_ifs at made with running
    omega
  | console platform action serviceId reason =>
    simp only [ShutdownMove.op,Option.mem_def] at made
    split_ifs at made with serving
    simp [serving,ShutdownPhase.rank] at joined
  | stop platform serviceId cause =>
    simp only [ShutdownMove.op,Option.mem_def] at made
    split_ifs at made
    cases made
    exact stop_quiet platform serviceId cause.actor cause.reason s.registry h.sound id
  | _ => cases made

/-- When the drain ends with no handler between the flag and its answer, the cleanup has the last
word on every service. -/
theorem no_late_launch (r : ServiceRegistry P) (reached : RegistryOp.Reachable E Q r)
    (moves : List (ShutdownMove P E Q)) (drains : Run.Along ShutdownMove.step Drains moves (new r)) :
    Run.Along ShutdownMove.step NoLateLaunch moves (new r) := by
  have keeps : Run.Keeps ShutdownMove.step Drains (Drained (P := P)) :=
    fun _ (move : ShutdownMove P E Q) h drains => h.step move drains
  have start : (new r).Drained := by
    refine ⟨reached.sound,?_,?_⟩ <;> simp [new,ShutdownPhase.rank]
  exact keeps.along (fun _ move h _ => h.noLateLaunch move) start drains

section Fixture

/-- A start that answers before the cleanup. -/
def promptStart : List (ShutdownMove Nat Unit Unit) :=
  [.accept,.testFlag 0,.lock 0,.requestStop,
    .mutate 0 fixturePlatform .start "api" .userCli fixtureReason,.answer 0,.joinListener,
    .endDrain,.joinMonitors,.stop fixturePlatform "api" Foreground.fixtureCause,.leave]

theorem no_late_launch_prompt : Run.Along ShutdownMove.step NoLateLaunch promptStart
    (new (fixtureRegistry [fixture "api" "Api"])) :=
  no_late_launch _ (.new [fixture "api" "Api"] _ _ rfl) promptStart (by decide +kernel)

/-- A start that has passed the flag and gets the lock after the cleanup only. -/
def queuedStart : List (ShutdownMove Nat Unit Unit) :=
  [.accept,.testFlag 0,.requestStop,.joinListener,.endDrain,.joinMonitors,
    .stop fixturePlatform "api" Foreground.fixtureCause,.lock 0,
    .mutate 0 fixturePlatform .start "api" .userCli fixtureReason]

theorem launch_after_cleanup :
    ¬∀(r : ServiceRegistry Nat) (moves : List (ShutdownMove Nat Unit Unit)),
      RegistryOp.Reachable Unit Unit r → Run.Along ShutdownMove.step NoLateLaunch moves (new r) := by
  intro claim
  have along := claim (fixtureRegistry [fixture "api" "Api"]) queuedStart
    (.new [fixture "api" "Api"] _ _ rfl)
  revert along
  decide +kernel

end Fixture

end ShutdownSystem

end AkuSupervisor
