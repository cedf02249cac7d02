import AkuSupervisor.Lib.Run
import AkuSupervisor.Adapters.PresentedMutation
import AkuSupervisor.Application.RegistryRun

namespace AkuSupervisor

open StateError

/-- How far the handler under the lock of the store is: it has not looked into the store yet, it is
about to call the control, it has the result, or its eviction loop never ends. -/
inductive CriticalStage where
  | looking
  | calling (serviceId : String) (action : ControlAction)
  | returned (response : Response)
  | stuck
  deriving DecidableEq

/-- The owner of the lock. -/
structure LockHolder where
  handler : Nat
  presented : Presented
  stage : CriticalStage
  deriving DecidableEq

inductive MutationHandler where
  | waiting (presented : Presented)
  | inside
  | answered (response : Response)
  deriving DecidableEq

/-- The shared store with its lock, and the handlers of all mutations presented so far. `runs` are
the mutations for which the control has been called, and `stored` what was put into the store. -/
structure MutationSystem (σ : Type) where
  control : σ
  store : IdempotencyStore
  holder : Option LockHolder
  handlers : List MutationHandler
  runs : List ServiceMutation
  stored : List (String × CachedMutation)

namespace MutationSystem

variable {σ : Type}

def start (control : σ) : MutationSystem σ := ⟨control,.empty,none,[],[],[]⟩

def runIds (s : MutationSystem σ) : List String := s.runs.filterMap ServiceMutation.requestId

/-- The ID of a mutation that has run and is not stored yet. -/
def inFlight (s : MutationSystem σ) : List String :=
  match s.holder with
  | some ⟨_,p,.returned _⟩ => p.mutation.requestId.toList
  | _ => []

def answer (s : MutationSystem σ) (holder : LockHolder) (response : Response) :
    MutationSystem σ :=
  { s with
    holder := none
    handlers := s.handlers.set holder.handler
      (.answered (holder.presented.deliver response)) }

def enter (s : MutationSystem σ) (holder : LockHolder) (stage : CriticalStage) :
    MutationSystem σ :=
  { s with holder := some { holder with stage } }

end MutationSystem

/-- A request that has found the stop flag clear comes to the store, a waiting handler gets the lock,
the owner of the lock takes its next step, or anything else changes the state of the control. -/
inductive MutationMove (σ : Type) where
  | arrive (peer : SocketAddr) (localAddress : Except String SocketAddr) (request : HttpRequest)
  | lock (handler : Nat)
  | advance
  | other (change : σ → σ)

namespace MutationMove

variable {σ κ : Type} (server : ControlServer σ κ)

/-- The next step of the owner of the lock. -/
def advanceHolder (s : MutationSystem σ) (holder : LockHolder) : MutationSystem σ :=
  let mutation := holder.presented.mutation
  match holder.stage with
  | .looking =>
    match mutation.decision s.store with
    | .answer response => s.answer holder response
    | .run serviceId action => s.enter holder (.calling serviceId action)
  | .calling serviceId action =>
    let result := (server.control.mutate action serviceId mutation.actor mutation.reason).run
      s.control
    let called := { s with control := final result, runs := s.runs++[mutation] }
    called.enter holder (.returned (mutationResponse serviceId (StateError.answer result)))
  | .returned response =>
    match mutation.remember s.store response with
    | none => s.enter holder .stuck
    | some store =>
      let kept := { s with
        store
        stored := s.stored++mutation.requestId.toList.map fun requestId =>
          (requestId,CachedMutation.mk mutation.target mutation.body response) }
      kept.answer holder response
  | .stuck => s

def step : MutationMove σ → MutationSystem σ → MutationSystem σ
  | .arrive peer localAddress request,s =>
    match server.presented peer localAddress request with
    | none => s
    | some p => { s with handlers := s.handlers++[.waiting p] }
  | .lock handler,s =>
    match s.holder,s.handlers[handler]? with
    | none,some (.waiting p) =>
      { s with
        holder := some ⟨handler,p,.looking⟩
        handlers := s.handlers.set handler .inside }
    | _,_ => s
  | .advance,s =>
    match s.holder with
    | none => s
    | some holder => advanceHolder server s holder
  | .other change,s => { s with control := change s.control }

end MutationMove

namespace MutationSystem

variable {σ κ : Type}

/-- What the owner of the lock knows of the store. -/
def Knows (store : IdempotencyStore) (mutation : ServiceMutation) : CriticalStage → Prop
  | .looking => True
  | .calling serviceId action => parseMutationTarget mutation.target=some (serviceId,action) ∧
      ∀requestId,mutation.requestId=some requestId → requestId∉store.entries
  | .returned _ => parseMutationTarget mutation.target≠none ∧
      ∀requestId,mutation.requestId=some requestId → requestId∉store.entries
  | .stuck => False

structure Sound (s : MutationSystem σ) : Prop where
  store : FifoStore.Sound idempotencyCapacity s.store
  remembers : FifoStore.Remembers idempotencyCapacity s.stored s.store
  inside : ∀holder,s.holder=some holder → s.handlers[holder.handler]?=some .inside
  knows : ∀holder,s.holder=some holder → Knows s.store holder.presented.mutation holder.stage
  runs : s.runIds=s.stored.map Prod.fst++s.inFlight
  named : ∀entry∈s.stored,parseMutationTarget entry.2.target≠none

theorem sound_start (control : σ) : Sound (start control) where
  store := FifoStore.sound_empty
  remembers := FifoStore.remembers_empty
  inside := nofun
  knows := nofun
  runs := rfl
  named := nofun

theorem capacity_pos : 0 < idempotencyCapacity := by decide

theorem runIds_append (s : MutationSystem σ) (mutation : ServiceMutation) :
    (s.runs++[mutation]).filterMap ServiceMutation.requestId=
      s.runIds++mutation.requestId.toList := by
  rw [List.filterMap_append]
  cases named : mutation.requestId with
  | none => simp [named,runIds]
  | some requestId => simp [named,runIds]

/-- Putting the lock away keeps what holds of the store and the log. -/
theorem Sound.answer {s : MutationSystem σ} (holder : LockHolder) (response : Response)
    (store : FifoStore.Sound idempotencyCapacity s.store)
    (remembers : FifoStore.Remembers idempotencyCapacity s.stored s.store)
    (runs : s.runIds=s.stored.map Prod.fst)
    (named : ∀entry∈s.stored,parseMutationTarget entry.2.target≠none) :
    Sound (s.answer holder response) where
  store := store
  remembers := remembers
  inside := nofun
  knows := nofun
  runs := by
    show s.runIds=s.stored.map Prod.fst++[]
    rw [List.append_nil,runs]
  named := named

variable (server : ControlServer σ κ)

theorem Sound.advance {s : MutationSystem σ} (sound : Sound s) (holder : LockHolder)
    (held : s.holder=some holder) : Sound (MutationMove.advanceHolder server s holder) := by
  obtain ⟨handler,p,stage⟩ := holder
  have knows := sound.knows _ held
  have inside := sound.inside _ held
  have runs := sound.runs
  unfold inFlight at runs
  rw [held] at runs
  cases stage with
  | stuck => exact knows.elim
  | looking =>
    have unchanged : s.runIds=s.stored.map Prod.fst := runs.trans (List.append_nil _)
    cases decided : p.mutation.decision s.store with
    | answer response =>
      simp only [MutationMove.advanceHolder,decided]
      exact .answer _ response sound.store sound.remembers unchanged sound.named
    | run serviceId action =>
      simp only [MutationMove.advanceHolder,decided]
      exact ⟨sound.store,sound.remembers,fun _ same => by cases same; exact inside,
        fun _ same => by cases same; exact ServiceMutation.decision_run decided,runs,sound.named⟩
  | calling serviceId action =>
    obtain ⟨parsed,new⟩ := knows
    refine ⟨sound.store,sound.remembers,fun _ same => by cases same; exact inside,
      fun _ same => by cases same; exact ⟨by rw [parsed]; nofun,new⟩,?_,sound.named⟩
    show (s.runs++[p.mutation]).filterMap ServiceMutation.requestId=
      s.stored.map Prod.fst++p.mutation.requestId.toList
    rw [runIds_append,runs,List.append_nil]
  | returned response =>
    obtain ⟨parsed,new⟩ := knows
    simp only [MutationMove.advanceHolder,ServiceMutation.remember]
    cases named : p.mutation.requestId with
    | none =>
      simp only [named,Option.toList_none,List.map_nil,List.append_nil] at runs ⊢
      exact .answer _ response sound.store sound.remembers runs sound.named
    | some requestId =>
      have ends := sound.store.store_isSome (k := requestId)
        (v := CachedMutation.mk p.mutation.target p.mutation.body response) capacity_pos
      obtain ⟨after,stored⟩ := Option.isSome_iff_exists.mp ends
      simp only [named,stored,Option.toList_some,List.map_cons,List.map_nil] at runs ⊢
      apply Sound.answer
      · exact sound.store.store capacity_pos stored
      · exact sound.remembers.store sound.store capacity_pos (new requestId named) stored
      · show s.runIds=(s.stored++[_]).map Prod.fst
        rw [runs,List.map_append]
        rfl
      · intro entry mem
        rcases List.mem_append.mp mem with old|now
        · exact sound.named entry old
        · rw [List.mem_singleton.mp now]
          exact parsed

theorem Sound.step {s : MutationSystem σ} (sound : Sound s) (move : MutationMove σ) :
    Sound (move.step server s) := by
  cases move with
  | other change =>
    exact ⟨sound.store,sound.remembers,sound.inside,sound.knows,sound.runs,sound.named⟩
  | arrive peer localAddress request =>
    simp only [MutationMove.step]
    cases server.presented peer localAddress request with
    | none => exact sound
    | some p =>
      refine ⟨sound.store,sound.remembers,fun holder held => ?_,sound.knows,sound.runs,sound.named⟩
      have here := sound.inside holder held
      have bound := (List.getElem?_eq_some_iff.mp here).1
      show (s.handlers++[_])[holder.handler]?=_
      rw [List.getElem?_append_left bound,here]
  | lock handler =>
    simp only [MutationMove.step]
    cases held : s.holder with
    | some holder => exact sound
    | none =>
      have runs := sound.runs
      unfold inFlight at runs
      rw [held] at runs
      cases here : s.handlers[handler]? with
      | none => exact sound
      | some state =>
        cases state with
        | waiting p =>
          refine ⟨sound.store,sound.remembers,fun _ same => ?_,fun _ same => ?_,runs,sound.named⟩
          · cases same
            exact List.getElem?_set_self (List.getElem?_eq_some_iff.mp here).1
          · cases same
            trivial
        | inside => exact sound
        | answered response => exact sound
  | advance =>
    simp only [MutationMove.step]
    cases held : s.holder with
    | none => exact sound
    | some holder => exact sound.advance server holder held

theorem sound_final (moves : List (MutationMove σ)) (control : σ) :
    Sound (Run.final (MutationMove.step server) moves (start control)) :=
  Run.always Sound (fun _ move sound => sound.step server move) moves (sound_start control)

theorem advanceHolder_other (s : MutationSystem σ) (holder : LockHolder) (handler : Nat)
    (other : holder.handler≠handler) :
    (MutationMove.advanceHolder server s holder).handlers[handler]?=s.handlers[handler]? := by
  obtain ⟨owner,p,stage⟩ := holder
  have kept (state : MutationHandler) :
      (s.handlers.set owner state)[handler]?=s.handlers[handler]? := List.getElem?_set_ne other
  cases stage with
  | looking =>
    cases decided : p.mutation.decision s.store with
    | answer response =>
      simp only [MutationMove.advanceHolder,decided]
      exact kept _
    | run serviceId action =>
      simp only [MutationMove.advanceHolder,decided]
      rfl
  | calling serviceId action => rfl
  | returned response =>
    cases stored : p.mutation.remember s.store response with
    | none =>
      simp only [MutationMove.advanceHolder,stored]
      rfl
    | some store =>
      simp only [MutationMove.advanceHolder,stored]
      exact kept _
  | stuck => rfl

/-- A handler that has answered has nothing more to do. -/
theorem Sound.answered_step {s : MutationSystem σ} (sound : Sound s) {handler : Nat}
    {response : Response} (here : s.handlers[handler]?=some (.answered response))
    (move : MutationMove σ) :
    (move.step server s).handlers[handler]?=some (.answered response) := by
  cases move with
  | other change => exact here
  | arrive peer localAddress request =>
    simp only [MutationMove.step]
    cases server.presented peer localAddress request with
    | none => exact here
    | some p =>
      show (s.handlers++[_])[handler]?=_
      rw [List.getElem?_append_left (List.getElem?_eq_some_iff.mp here).1,here]
  | lock other =>
    simp only [MutationMove.step]
    cases s.holder with
    | some holder => exact here
    | none =>
      cases there : s.handlers[other]? with
      | none => exact here
      | some state =>
        cases state with
        | waiting p =>
          have apart : other≠handler := by
            intro same
            rw [same,here] at there
            cases there
          exact (List.getElem?_set_ne apart).trans here
        | inside => exact here
        | answered response => exact here
  | advance =>
    simp only [MutationMove.step]
    cases held : s.holder with
    | none => exact here
    | some holder =>
      have apart : holder.handler≠handler := by
        intro same
        have inside := sound.inside holder held
        rw [same,here] at inside
        cases inside
      exact (advanceHolder_other server s holder handler apart).trans here

theorem Sound.answered_final {s : MutationSystem σ} (sound : Sound s) {handler : Nat}
    {response : Response} (here : s.handlers[handler]?=some (.answered response))
    (moves : List (MutationMove σ)) :
    (Run.final (MutationMove.step server) moves s).handlers[handler]?=
      some (.answered response) :=
  (Run.always (fun s => Sound s ∧ s.handlers[handler]?=some (.answered response))
    (fun _ move inv => ⟨inv.1.step server move,inv.1.answered_step server inv.2 move⟩)
    moves ⟨sound,here⟩).2

/-- The IDs that have run are the stored ones, and at most one in flight, which is not stored. -/
theorem Sound.inFlight_cases {s : MutationSystem σ} (sound : Sound s) :
    s.inFlight=[] ∨ ∃requestId,s.inFlight=[requestId] ∧ requestId∉s.store.entries := by
  unfold inFlight
  cases held : s.holder with
  | none => exact .inl rfl
  | some holder =>
    have knows := sound.knows holder held
    obtain ⟨handler,p,stage⟩ := holder
    cases stage with
    | returned response =>
      cases named : p.mutation.requestId with
      | none => exact .inl (by simp [named])
      | some requestId => exact .inr ⟨requestId,by simp [named],knows.2 requestId named⟩
    | _ => exact .inl rfl

theorem Sound.runs_unstored {s : MutationSystem σ} (sound : Sound s) (requestId : String)
    (unstored : requestId∉s.stored.map Prod.fst) : s.runIds.count requestId≤1 := by
  rw [sound.runs,List.count_append,List.count_eq_zero_of_not_mem unstored]
  rcases sound.inFlight_cases with none_open|⟨other,open_one,-⟩
  · rw [none_open]
    simp
  · rw [open_one]
    have bound := List.count_le_length (a := requestId) (l := [other])
    rw [List.length_singleton] at bound
    omega

/-- Since its last response a request has not run again, while the store still knows it. -/
theorem Sound.runs_stored {s : MutationSystem σ} (sound : Sound s) {requestId : String}
    {cached : CachedMutation} {earlier since : List (String × CachedMutation)}
    (split : s.stored=earlier++(requestId,cached)::since)
    (few : ((since.map Prod.fst).toFinset.erase requestId).card < idempotencyCapacity) :
    s.runIds.count requestId=(earlier.map Prod.fst).count requestId+1 := by
  obtain ⟨gone,held⟩ := sound.remembers.recalls split few
  have known : requestId∈s.store.entries := by
    rw [Std.ExtTreeMap.mem_iff_isSome_getElem?,held]
    rfl
  have quiet : s.inFlight.count requestId=0 := by
    rcases sound.inFlight_cases with none_open|⟨other,open_one,new⟩
    · rw [none_open]
      rfl
    · rw [open_one]
      apply List.count_eq_zero_of_not_mem
      intro mem
      exact new (List.mem_singleton.mp mem ▸ known)
  rw [sound.runs,split,List.count_append,quiet,List.map_append,List.map_cons,List.count_append,
    List.count_cons_self,List.count_eq_zero_of_not_mem gone]

/-- What a request gets whose ID the store knows. -/
def replayed (mutation : ServiceMutation) (cached : CachedMutation) : Response :=
  if parseMutationTarget mutation.target=parseMutationTarget cached.target ∧
      mutation.body=cached.body then cached.response
  else idempotencyConflict

/-- The owner of the lock answers a known ID from the store and calls nothing. -/
theorem Sound.replays {s : MutationSystem σ} (sound : Sound s) {requestId : String}
    {cached : CachedMutation} {earlier since : List (String × CachedMutation)}
    (split : s.stored=earlier++(requestId,cached)::since)
    (few : ((since.map Prod.fst).toFinset.erase requestId).card < idempotencyCapacity)
    {handler : Nat} {p : Presented} (held : s.holder=some ⟨handler,p,.looking⟩)
    (named : p.mutation.requestId=some requestId) :
    MutationMove.step server .advance s=
      s.answer ⟨handler,p,.looking⟩ (replayed p.mutation cached) := by
  obtain ⟨-,known⟩ := sound.remembers.recalls split few
  have parsed := sound.named (requestId,cached) (by rw [split]; simp)
  have same_target : cached.target=p.mutation.target ↔
      parseMutationTarget p.mutation.target=parseMutationTarget cached.target := by
    constructor
    · intro same
      rw [same]
    · intro same
      obtain ⟨⟨serviceId,action⟩,here⟩ := Option.ne_none_iff_exists'.mp parsed
      exact parseMutationTarget_inj here (same.trans here)
  have decided := ServiceMutation.decision_held named known
  simp only [MutationMove.step,held,MutationMove.advanceHolder,decided]
  congr 1
  unfold replayed
  by_cases same : cached.target=p.mutation.target ∧ cached.body=p.mutation.body
  · rw [if_pos same,if_pos ⟨same_target.mp same.1,same.2.symm⟩]
  · rw [if_neg same,if_neg fun both => same ⟨same_target.mpr both.1,both.2.symm⟩]

/-- Under the lock, a handler does by its steps what the sequential handler does at once. -/
theorem serveMutation_advances (s : MutationSystem σ) (handler : Nat) (p : Presented)
    (held : s.holder=some ⟨handler,p,.looking⟩) (w : ServerState σ κ)
    (control : w.control=s.control) (store : w.idempotency=s.store) :
    match (server.serveMutation p.mutation).run w with
    | .ok response after =>
      ∃t,Run.final (MutationMove.step server) [.advance,.advance,.advance] s=t ∧
        t.control=after.control ∧ t.store=after.idempotency ∧ t.holder=none ∧
        t.handlers=s.handlers.set handler (.answered (p.deliver response))
    | .error _ _ =>
      (Run.final (MutationMove.step server) [.advance,.advance,.advance] s).holder=
        some ⟨handler,p,.stuck⟩ := by
  rw [server.run_serveMutation]
  simp only [Run.final_cons,Run.final_nil,MutationMove.step,held,MutationMove.advanceHolder,store]
  cases p.mutation.decision s.store with
  | answer response => exact ⟨_,rfl,control.symm,store.symm,rfl,rfl⟩
  | run serviceId action =>
    have ran : (server.control.mutate action serviceId p.mutation.actor p.mutation.reason).run
        w.control=(server.control.mutate action serviceId p.mutation.actor
          p.mutation.reason).run s.control := by rw [control]
    simp only [MutationSystem.enter,ran]
    cases p.mutation.remember s.store (mutationResponse serviceId (StateError.answer
        ((server.control.mutate action serviceId p.mutation.actor p.mutation.reason).run
          s.control))) with
    | none => rfl
    | some after => exact ⟨_,rfl,rfl,rfl,rfl,rfl⟩

/-- Whatever the interleaving: the store is sound and its loop ends; an ID runs at most once before
its response is stored, and not again as long as fewer than `idempotencyCapacity` other IDs have been
stored since; meanwhile it is answered from the store, for good. -/
theorem mutations_idempotent (control : σ) (moves : List (MutationMove σ))
    (s : MutationSystem σ) (reached : s=Run.final (MutationMove.step server) moves (start control)) :
    FifoStore.Sound idempotencyCapacity s.store ∧
    (∀holder,s.holder=some holder → holder.stage≠.stuck) ∧
    (∀requestId,requestId∉s.stored.map Prod.fst → s.runIds.count requestId≤1) ∧
    ∀requestId cached earlier since,s.stored=earlier++(requestId,cached)::since →
      ((since.map Prod.fst).toFinset.erase requestId).card < idempotencyCapacity →
      s.runIds.count requestId=(earlier.map Prod.fst).count requestId+1 ∧
      ∀handler p,s.holder=some ⟨handler,p,.looking⟩ → p.mutation.requestId=some requestId →
        (MutationMove.step server .advance s).runs=s.runs ∧
        ∀more,(Run.final (MutationMove.step server) (.advance::more) s).handlers[handler]?=
          some (.answered (p.deliver (replayed p.mutation cached))) := by
  subst reached
  have sound := sound_final server moves control
  refine ⟨sound.store,fun holder held stuck => ?_,sound.runs_unstored,?_⟩
  · have knows := sound.knows holder held
    rw [stuck] at knows
    exact knows
  · intro requestId cached earlier since split few
    refine ⟨sound.runs_stored split few,fun handler p held named => ?_⟩
    have answers := sound.replays server split few held named
    refine ⟨by rw [answers]; rfl,fun more => ?_⟩
    rw [Run.final_cons]
    apply (sound.step server .advance).answered_final server
    rw [answers]
    exact List.getElem?_set_self (List.getElem?_eq_some_iff.mp (sound.inside _ held)).1

section Fixture

theorem fixtureToken_length :
    (TextLines.encode (String.ofList (List.replicate 64 'a'))).length=tokenLength := by decide

theorem fixtureToken_digits :
    (String.ofList (List.replicate 64 'a')).toList.all isTokenDigit=true := by decide

def fixtureToken : RuntimeToken :=
  ⟨String.ofList (List.replicate 64 'a'),fixtureToken_length,fixtureToken_digits⟩

def fixtureBody : List UInt8 :=
  TextLines.encode (JsonText.object [("actor",JsonText.string "user"),
    ("reason",JsonText.string "fixture"),("requestId",JsonText.string "retry-1")])

/-- A server whose control does what it is asked to. -/
def fixtureServer : ControlServer Nat Unit where
  token := fixtureToken
  instanceId := "instance"
  control := ⟨pure [],fun _ => pure (),fun _ _ _ _ n => .ok ⟨.restarted,none⟩ (n+1)⟩
  cooperative := none
  mcp := ⟨false,[]⟩
  views := ⟨"0.8.0",fun _ => "null","null","null",fun _ _ => .ok "[]",fun _ _ _ => .ok "null",
    fun _ _ _ _ => .ok (),fun _ => .direct .accepted,fun _ => []⟩
  deriveScoped := fun token _ => token
  addressText := fun _ => "127.0.0.1:8080"
  parseIpAddr := fun _ => none
  decodeMutation := fun body =>
    if body=fixtureBody then some ⟨.user,"fixture",some "retry-1"⟩ else none
  decodeDashboardMutation := fun _ => none

def fixtureAddress : SocketAddr := ⟨.v4 127 0 0 1,8080⟩

def fixtureRequest : HttpRequest where
  host := some "127.0.0.1:8080"
  authorization := some ("Bearer "++fixtureToken.text)
  accept := none
  contentType := some "application/json"
  origin := none
  dashboardRequest := none
  dashboardToken := none
  mcpProtocolVersion := none
  method := "POST"
  target := "/v1/services/api/restart"
  body := fixtureBody

/-- The same restart is sent twice, and the second request has got the lock. -/
def fixtureRetry : MutationSystem Nat :=
  Run.final (MutationMove.step fixtureServer)
    [.arrive fixtureAddress (.ok fixtureAddress) fixtureRequest,
      .arrive fixtureAddress (.ok fixtureAddress) fixtureRequest,
      .lock 0,.advance,.advance,.advance,.lock 1] (start 0)

def fixtureCached : CachedMutation :=
  ⟨"/v1/services/api/restart",fixtureBody,mutationResponse "api" (.ok ⟨.restarted,none⟩)⟩

def fixturePresented : Presented :=
  ⟨⟨some "retry-1","/v1/services/api/restart",fixtureBody,.userCli,fixtureReason⟩,false⟩

/-- The second request gets the answer of the first, and the control has been called once. -/
theorem mutations_idempotent_retry :
    fixtureRetry.runIds.count "retry-1"=1 ∧
      ∀more,(Run.final (MutationMove.step fixtureServer) (.advance::more)
        fixtureRetry).handlers[1]?=some (.answered (fixturePresented.deliver
          (replayed fixturePresented.mutation fixtureCached))) := by
  have stored : fixtureRetry.stored=[]++("retry-1",fixtureCached)::[] := by decide +kernel
  have held : fixtureRetry.holder=some ⟨1,fixturePresented,.looking⟩ := by decide +kernel
  obtain ⟨-,-,-,known⟩ := mutations_idempotent fixtureServer 0
    [.arrive fixtureAddress (.ok fixtureAddress) fixtureRequest,
      .arrive fixtureAddress (.ok fixtureAddress) fixtureRequest,
      .lock 0,.advance,.advance,.advance,.lock 1] fixtureRetry rfl
  obtain ⟨once,replays⟩ := known "retry-1" fixtureCached [] [] stored (by decide)
  exact ⟨once,(replays 1 fixturePresented held rfl).2⟩

end Fixture

end MutationSystem

end AkuSupervisor
