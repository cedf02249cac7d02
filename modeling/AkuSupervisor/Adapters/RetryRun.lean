import AkuSupervisor.Lib.JsonDepth
import AkuSupervisor.Adapters.ClientResponse
import AkuSupervisor.Adapters.MutationRun
import AkuSupervisor.Adapters.RemoteCommand

namespace AkuSupervisor

open ControlClient JsonDepth TextLines

/-- What the server may do with a connection before a handler takes its request to the store. -/
inductive Gate where
  | serving
  | draining
  | full
  deriving DecidableEq

/-- Where the answer to a request comes from: a handler at the store, or the server turns the
request away. A request that is no mutation is not followed. -/
inductive Reply where
  | handler (index : Nat)
  | refused (response : Response)
  | elsewhere
  deriving DecidableEq

/-- Where the command line is with one request: it is about to send it, it waits for the answer, or
it has a result. -/
inductive RetryPhase (V : Type) where
  | sending
  | waiting (reply : Reply)
  | done (result : Except (ControlClientError V) V)
  deriving DecidableEq

/-- The server with all its handlers, and a client of it that repeats one mutation. `mine` are the
handlers that the repeated request has reached. -/
structure RetrySystem (σ V : Type) where
  server : MutationSystem σ
  attempts : Nat
  phase : RetryPhase V
  mine : List Nat

/-- Anything else happens at the server; connecting or writing fails; the client has sent its
request, of which these pieces arrive; or it reads what comes back, until the stream ends. -/
inductive RetryMove (σ : Type) where
  | server (move : MutationMove σ)
  | connectFails (message : String)
  | writeFails (message : String)
  | send (gate : Gate) (chunks : List (List UInt8))
  | receive (chunks : List (List UInt8)) (ending : List ReadResult)

namespace RetrySystem

variable {σ κ V : Type}

def maxAttempts : Nat := 5

/-- What comes after the result of an attempt. -/
def afterAttempt (retrySafe : Bool) (attempts : Nat) :
    Except (ControlClientError V) V → RetryPhase V
  | .ok value => .done (.ok value)
  | .error error =>
    if retrySafe=true ∧ error.isTransient=true ∧ attempts < maxAttempts then .sending
    else .done (.error error)

def badRequest (error : RequestError) : Response := errorResponse 400 "bad_request" error.display

def connectionLimit : Response := errorResponse 503 "control_connection_limit"
  "AkuSupervisor control connection capacity is temporarily full"

/-- What the server sends on the connection of the client. -/
def offered (s : RetrySystem σ V) : List UInt8 :=
  match s.phase with
  | .waiting (.refused response) => response.written
  | .waiting (.handler index) =>
    match s.server.handlers[index]? with
    | some (.answered response) => response.written
    | _ => []
  | _ => []

variable (server : ControlServer σ κ) (parse : List UInt8 → Option V) (peer : SocketAddr)
  (localAddress : Except String SocketAddr) (retrySafe : Bool)

/-- The server gets a connection on which these pieces of the request arrive. -/
def send (s : RetrySystem σ V) (gate : Gate) (chunks : List (List UInt8)) : RetrySystem σ V :=
  let asked := { s with attempts := s.attempts+1 }
  match gate,readRequest (chunks.map .ok) with
  | .full,_ => { asked with phase := .waiting (.refused connectionLimit) }
  | _,.error error => { asked with phase := .waiting (.refused (badRequest error)) }
  | .draining,.ok _ => { asked with phase := .waiting (.refused ControlServer.draining) }
  | .serving,.ok request =>
    match server.presented peer localAddress request with
    | none => { asked with phase := .waiting .elsewhere }
    | some _ =>
      { server := MutationMove.step server (.arrive peer localAddress request) s.server
        attempts := s.attempts+1
        phase := .waiting (.handler s.server.handlers.length)
        mine := s.mine++[s.server.handlers.length] }

def step (move : RetryMove σ) (s : RetrySystem σ V) : RetrySystem σ V :=
  match move,s.phase with
  | .server move,_ => { s with server := MutationMove.step server move s.server }
  | .connectFails message,.sending =>
    { s with
      attempts := s.attempts+1
      phase := afterAttempt retrySafe (s.attempts+1) (.error (.connect message)) }
  | .send gate chunks,.sending => send server peer localAddress s gate chunks
  | .writeFails message,.waiting _ =>
    { s with phase := afterAttempt retrySafe s.attempts (.error (.write message)) }
  | .receive chunks ending,.waiting _ =>
    let result := receive (decodeJsonResponse parse) (chunks.map .ok++ending)
    { s with phase := afterAttempt retrySafe s.attempts result }
  | _,_ => s

def start (control : σ) : RetrySystem σ V := ⟨.start control,0,.sending,[]⟩

end RetrySystem

section Bodies

/-- No part of the body is a JSON text. -/
def Response.Closed (response : Response) : Prop :=
  response.Proper ∧
    ∀part,part <+: response.body → part≠response.body → ¬Balanced part

theorem closed_object (status : Nat) (fields : List (String × String)) (small : status < 65536)
    (each : ∀field∈fields,Returns .plain (encode field.2)) :
    (jsonResponse status (JsonText.object fields)).Closed := by
  refine ⟨⟨small,fun contentType mem => ?_⟩,(returns_object each).2⟩
  cases mem
  decide

theorem closed_errorResponse (status : Nat) (code message : String) (small : status < 65536) :
    (errorResponse status code message).Closed := by
  refine closed_object _ _ small fun field mem => ?_
  rw [List.mem_singleton.mp mem]
  refine (returns_object fun field mem => ?_).1
  rcases List.mem_pair.mp mem with rfl|rfl
  · exact returns_string code
  · exact returns_string message

theorem returns_numbers (pids : List Nat) :
    Returns .plain (encode (JsonText.array (pids.map Nat.repr))) := by
  refine returns_array fun item mem => ?_
  obtain ⟨n,-,rfl⟩ := List.mem_map.mp mem
  exact returns_nat n

theorem returns_report (report : TreeStopReport) : Returns .plain (encode report.jsonValue) := by
  have signal : Returns .plain
      (encode (JsonText.option (report.gracefulSignalError.map JsonText.string))) := by
    refine returns_option fun text same => ?_
    obtain ⟨error,-,rfl⟩ := Option.map_eq_some_iff.mp same
    exact returns_string error
  refine (returns_object fun field mem => ?_).1
  simp only [List.mem_cons,List.not_mem_nil,or_false] at mem
  rcases mem with rfl|rfl|rfl|rfl|rfl
  · exact returns_bool _
  · exact signal
  · exact returns_bool _
  · exact returns_numbers _
  · exact returns_numbers _

theorem closed_mutationResponse (serviceId : String)
    (result : Except ControlError ControlMutationResult) :
    (mutationResponse serviceId result).Closed := by
  cases result with
  | error error =>
    refine closed_errorResponse _ _ _ ?_
    cases error.kind <;> decide
  | ok result =>
    refine closed_object 200 _ (by decide) fun field mem => ?_
    rcases List.mem_append.mp mem with fixed|shutdown
    · rcases List.mem_pair.mp fixed with rfl|rfl
      · exact returns_string _
      · exact returns_string _
    · obtain ⟨text,stopped,rfl⟩ := List.mem_map.mp shutdown
      obtain ⟨report,-,rfl⟩ := Option.map_eq_some_iff.mp (Option.mem_toList.mp stopped)
      exact returns_report report

theorem Response.Closed.deliver {response : Response} (closed : response.Closed) (p : Presented) :
    (p.deliver response).Closed := by
  unfold Presented.deliver
  split_ifs
  · exact ⟨⟨closed.1.status,closed.1.contentType⟩,closed.2⟩
  · exact closed

theorem deliver_same (p : Presented) (response : Response) :
    (p.deliver response).status=response.status ∧ (p.deliver response).body=response.body := by
  unfold Presented.deliver
  split_ifs
  · exact ⟨rfl,rfl⟩
  · exact ⟨rfl,rfl⟩

/-- Only a mutation that has succeeded is answered as a success. -/
theorem mutationResponse_success {serviceId : String}
    {result : Except ControlError ControlMutationResult}
    (success : (mutationResponse serviceId result).status < 300) :
    ∃outcome,result=.ok outcome := by
  cases result with
  | ok outcome => exact ⟨outcome,rfl⟩
  | error error =>
    have refused : 400 ≤ error.kind.answer.1 := by
      cases error.kind <;> decide
    have shown : (mutationResponse serviceId (.error error)).status=error.kind.answer.1 := rfl
    omega

end Bodies

namespace MutationSystem

variable {σ κ : Type} (server : ControlServer σ κ)

/-- What one step does to the handlers, the lock and the log of stored answers. -/
inductive Change (move : MutationMove σ) (s t : MutationSystem σ) : Prop
  | quiet (holder : t.holder=s.holder) (handlers : t.handlers=s.handlers)
      (stored : t.stored=s.stored)
  | arrives (peer : SocketAddr) (localAddress : Except String SocketAddr) (request : HttpRequest)
      (p : Presented) (source : move=.arrive peer localAddress request)
      (presented : server.presented peer localAddress request=some p)
      (holder : t.holder=s.holder) (handlers : t.handlers=s.handlers++[.waiting p])
      (stored : t.stored=s.stored)
  | locks (index : Nat) (p : Presented) (waiting : s.handlers[index]?=some (.waiting p))
      (free : s.holder=none) (holder : t.holder=some ⟨index,p,.looking⟩)
      (handlers : t.handlers=s.handlers.set index .inside) (stored : t.stored=s.stored)
  | goesOn (index : Nat) (p : Presented) (stage next : CriticalStage)
      (held : s.holder=some ⟨index,p,stage⟩) (holder : t.holder=some ⟨index,p,next⟩)
      (handlers : t.handlers=s.handlers) (stored : t.stored=s.stored)
      (made : ∀response,next=.returned response →
        ∃serviceId result,response=mutationResponse serviceId result)
  | looksUp (index : Nat) (p : Presented) (response : Response)
      (held : s.holder=some ⟨index,p,.looking⟩)
      (decided : p.mutation.decision s.store=.answer response) (holder : t.holder=none)
      (handlers : t.handlers=s.handlers.set index (.answered (p.deliver response)))
      (stored : t.stored=s.stored)
  | returns (index : Nat) (p : Presented) (response : Response)
      (held : s.holder=some ⟨index,p,.returned response⟩) (holder : t.holder=none)
      (handlers : t.handlers=s.handlers.set index (.answered (p.deliver response)))
      (stored : t.stored=s.stored++p.mutation.requestId.toList.map fun requestId =>
        (requestId,CachedMutation.mk p.mutation.target p.mutation.body response))

theorem advanceHolder_change (s : MutationSystem σ) (holder : LockHolder)
    (held : s.holder=some holder) :
    Change server .advance s (MutationMove.advanceHolder server s holder) := by
  obtain ⟨index,p,stage⟩ := holder
  cases stage with
  | stuck => exact .quiet rfl rfl rfl
  | looking =>
    cases decided : p.mutation.decision s.store with
    | answer response =>
      simp only [MutationMove.advanceHolder,decided]
      exact .looksUp index p response held decided rfl rfl rfl
    | run serviceId action =>
      simp only [MutationMove.advanceHolder,decided]
      exact .goesOn index p .looking _ held rfl rfl rfl fun _ same => by cases same
  | calling serviceId action =>
    exact .goesOn index p (.calling serviceId action) _ held rfl rfl rfl fun response same =>
      ⟨serviceId,_,(CriticalStage.returned.inj same).symm⟩
  | returned response =>
    cases remembered : p.mutation.remember s.store response with
    | none =>
      simp only [MutationMove.advanceHolder,remembered]
      exact .goesOn index p (.returned response) .stuck held rfl rfl rfl fun _ same => by cases same
    | some store =>
      simp only [MutationMove.advanceHolder,remembered]
      exact .returns index p response held rfl rfl rfl

theorem step_change (s : MutationSystem σ) (move : MutationMove σ) :
    Change server move s (move.step server s) := by
  cases move with
  | other change => exact .quiet rfl rfl rfl
  | arrive peer localAddress request =>
    simp only [MutationMove.step]
    cases presented : server.presented peer localAddress request with
    | none => exact .quiet rfl rfl rfl
    | some p => exact .arrives peer localAddress request p rfl presented rfl rfl rfl
  | lock index =>
    simp only [MutationMove.step]
    cases free : s.holder with
    | some holder => exact .quiet rfl rfl rfl
    | none =>
      cases here : s.handlers[index]? with
      | none => exact .quiet rfl rfl rfl
      | some state =>
        cases state with
        | waiting p => exact .locks index p here free rfl rfl rfl
        | inside => exact .quiet rfl rfl rfl
        | answered response => exact .quiet rfl rfl rfl
  | advance =>
    simp only [MutationMove.step]
    cases held : s.holder with
    | none => exact .quiet rfl rfl rfl
    | some holder => exact advanceHolder_change server s holder held

section Repeated

variable (p : Presented) (requestId : String)

/-- What is stored comes from the control. -/
structure Made (s : MutationSystem σ) : Prop where
  stored : ∀entry∈s.stored,∃serviceId result,entry.2.response=mutationResponse serviceId result
  returned : ∀(index : Nat) (q : Presented) (response : Response),
    s.holder=some ⟨index,q,.returned response⟩ →
      ∃serviceId result,response=mutationResponse serviceId result

/-- What the repeated mutation may get: the stored answer, or that it has no service, or that the ID
stands for another mutation. -/
def Given (s : MutationSystem σ) (response : Response) : Prop :=
  (requestId,CachedMutation.mk p.mutation.target p.mutation.body response)∈s.stored ∨
    response=routeNotFound ∨ response=idempotencyConflict

/-- The handler has the repeated mutation, or has answered it. -/
def Serves (s : MutationSystem σ) (index : Nat) : Prop :=
  s.handlers[index]?=some (.waiting p) ∨ (∃stage,s.holder=some ⟨index,p,stage⟩) ∨
    ∃response,s.handlers[index]?=some (.answered (p.deliver response)) ∧
      Given p requestId s response

variable {p requestId} {server} {s t : MutationSystem σ} {move : MutationMove σ}

theorem made_start (control : σ) : Made (start control) where
  stored := nofun
  returned := nofun

theorem Made.step (made : Made s) (change : Change server move s t) : Made t := by
  obtain ⟨kept,returned⟩ := made
  cases change with
  | quiet holder handlers stored =>
    rw [← holder] at returned
    rw [← stored] at kept
    exact ⟨kept,returned⟩
  | arrives peer localAddress request q source presented holder handlers stored =>
    rw [← holder] at returned
    rw [← stored] at kept
    exact ⟨kept,returned⟩
  | locks index q here free holder handlers stored =>
    rw [← stored] at kept
    refine ⟨kept,fun _ _ _ held => ?_⟩
    cases holder.symm.trans held
  | goesOn index q stage next held holder handlers stored fresh =>
    rw [← stored] at kept
    refine ⟨kept,fun _ _ response held' => ?_⟩
    cases holder.symm.trans held'
    exact fresh response rfl
  | looksUp index q response held decided holder handlers stored =>
    rw [← stored] at kept
    refine ⟨kept,fun _ _ _ held' => ?_⟩
    cases holder.symm.trans held'
  | returns index q response held holder handlers stored =>
    refine ⟨fun entry mem => ?_,fun _ _ _ held' => ?_⟩
    · rw [stored] at mem
      rcases List.mem_append.mp mem with old|new
      · exact kept entry old
      · obtain ⟨id,-,rfl⟩ := List.mem_map.mp new
        exact returned index q response held
    · cases holder.symm.trans held'

theorem Change.grows (change : Change server move s t) : s.stored <+: t.stored := by
  cases change with
  | quiet holder handlers stored => exact stored ▸ List.prefix_rfl
  | arrives peer localAddress request q source presented holder handlers stored =>
    exact stored ▸ List.prefix_rfl
  | locks index q here free holder handlers stored => exact stored ▸ List.prefix_rfl
  | goesOn index q stage next held holder handlers stored fresh => exact stored ▸ List.prefix_rfl
  | looksUp index q response held decided holder handlers stored => exact stored ▸ List.prefix_rfl
  | returns index q response held holder handlers stored => exact stored ▸ List.prefix_append _ _

theorem Given.mono {response : Response} (given : Given p requestId s response)
    (grows : s.stored <+: t.stored) : Given p requestId t response :=
  given.imp_left fun mem => grows.subset mem

/-- An answer from the store is the one that is stored for the mutation. -/
theorem Sound.looksUp (sound : Sound s) (named : p.mutation.requestId=some requestId)
    {response : Response} (decided : p.mutation.decision s.store=.answer response) :
    Given p requestId s response := by
  cases held : s.store.entries[requestId]? with
  | some cached =>
    have mem := sound.remembers.held sound.store held
    have known := ServiceMutation.decision_held named held
    rw [decided] at known
    by_cases same : cached.target=p.mutation.target ∧ cached.body=p.mutation.body
    · rw [if_pos same] at known
      cases known
      refine .inl ?_
      rw [← same.1,← same.2]
      exact mem
    · rw [if_neg same] at known
      exact .inr (.inr (MutationDecision.answer.inj known))
  | none =>
    refine .inr (.inl ?_)
    simp only [ServiceMutation.decision,IdempotencyStore.lookup,named,held] at decided
    cases parsed : parseMutationTarget p.mutation.target with
    | none =>
      rw [parsed] at decided
      exact (MutationDecision.answer.inj decided).symm
    | some target =>
      rw [parsed] at decided
      cases decided

/-- The owner of the lock answers, and no other handler changes. -/
theorem Serves.settles {index other : Nat} {q : Presented} {stage : CriticalStage}
    {response : Response} (serves : Serves p requestId s index) (sound : Sound s)
    (held : s.holder=some ⟨other,q,stage⟩)
    (handlers : t.handlers=s.handlers.set other (.answered (q.deliver response)))
    (grows : s.stored <+: t.stored) (given : q=p → Given p requestId t response) :
    Serves p requestId t index := by
  have inside := sound.inside _ held
  have bound := (List.getElem?_eq_some_iff.mp inside).1
  rcases serves with waiting|⟨stage',held'⟩|⟨response',answered,given'⟩
  · refine .inl ?_
    rw [handlers,List.getElem?_set_ne,waiting]
    intro same
    rw [same,waiting] at inside
    cases inside
  · cases held.symm.trans held'
    refine .inr (.inr ⟨response,?_,given rfl⟩)
    rw [handlers]
    exact List.getElem?_set_self bound
  · refine .inr (.inr ⟨response',?_,given'.mono grows⟩)
    rw [handlers,List.getElem?_set_ne,answered]
    intro same
    rw [same,answered] at inside
    cases inside

theorem Serves.step {index : Nat} (serves : Serves p requestId s index) (sound : Sound s)
    (named : p.mutation.requestId=some requestId) (change : Change server move s t) :
    Serves p requestId t index := by
  have grows := change.grows
  cases change with
  | quiet holder handlers stored =>
    rcases serves with waiting|⟨stage,held⟩|⟨response,answered,given⟩
    · exact .inl (handlers ▸ waiting)
    · exact .inr (.inl ⟨stage,holder ▸ held⟩)
    · exact .inr (.inr ⟨response,handlers ▸ answered,given.mono grows⟩)
  | arrives peer localAddress request q source presented holder handlers stored =>
    have old {state : MutationHandler} (here : s.handlers[index]?=some state) :
        t.handlers[index]?=some state := by
      rw [handlers,List.getElem?_append_left (List.getElem?_eq_some_iff.mp here).1,here]
    rcases serves with waiting|⟨stage,held⟩|⟨response,answered,given⟩
    · exact .inl (old waiting)
    · exact .inr (.inl ⟨stage,holder ▸ held⟩)
    · exact .inr (.inr ⟨response,old answered,given.mono grows⟩)
  | locks other q here free holder handlers stored =>
    rcases serves with waiting|⟨stage,held⟩|⟨response,answered,given⟩
    · by_cases same : other=index
      · subst same
        cases here.symm.trans waiting
        exact .inr (.inl ⟨.looking,holder⟩)
      · refine .inl ?_
        rw [handlers,List.getElem?_set_ne same,waiting]
    · cases free.symm.trans held
    · refine .inr (.inr ⟨response,?_,given.mono grows⟩)
      rw [handlers,List.getElem?_set_ne,answered]
      intro same
      rw [same] at here
      cases here.symm.trans answered
  | goesOn other q stage next held holder handlers stored fresh =>
    rcases serves with waiting|⟨stage',held'⟩|⟨response,answered,given⟩
    · exact .inl (handlers ▸ waiting)
    · cases held.symm.trans held'
      exact .inr (.inl ⟨next,holder⟩)
    · exact .inr (.inr ⟨response,handlers ▸ answered,given.mono grows⟩)
  | looksUp other q response held decided holder handlers stored =>
    refine serves.settles sound held handlers grows fun same => ?_
    subst same
    exact (sound.looksUp named decided).mono grows
  | returns other q response held holder handlers stored =>
    refine serves.settles sound held handlers grows fun same => ?_
    subst same
    refine .inl ?_
    rw [stored,named]
    exact List.mem_append_right _ List.mem_cons_self

end Repeated

end MutationSystem

namespace RetrySystem

open MutationSystem

variable {σ κ V : Type} (server : ControlServer σ κ) (parse : List UInt8 → Option V)
  (peer : SocketAddr) (localAddress : Except String SocketAddr) (retrySafe : Bool)
  (address : String) (token : RuntimeToken) (call : ClientCall) (p : Presented)
  (requestId : String)

/-- What arrives is a part of what is sent, in both directions. -/
def Allowed (s : RetrySystem σ V) : RetryMove σ → Prop
  | .send _ chunks => (∀chunk∈chunks,chunk≠[]) ∧ chunks.flatten <+: call.bytes address token
  | .receive chunks ending =>
    (∀chunk∈chunks,chunk≠[]) ∧ chunks.flatten <+: s.offered ∧ Ends ending
  | _ => True

/-- What the client is told rests on a stored answer. -/
def Told (s : MutationSystem σ) (attempts : Nat) (mine : List Nat) : RetryPhase V → Prop
  | .sending => attempts < maxAttempts
  | .waiting (.handler index) => index∈mine
  | .waiting (.refused response) => response.Closed ∧ 300 ≤ response.status
  | .waiting .elsewhere => False
  | .done (.ok value) => ∃response,
      (requestId,CachedMutation.mk p.mutation.target p.mutation.body response)∈s.stored ∧
        200 ≤ response.status ∧ response.status < 300 ∧ parse response.body=some value
  | .done (.error error) =>
    retrySafe=true → error.isTransient=true → attempts=maxAttempts

structure Single (s : RetrySystem σ V) : Prop where
  sound : Sound s.server
  made : Made s.server
  mine : ∀index∈s.mine,Serves p requestId s.server index
  attempts : s.attempts ≤ maxAttempts
  told : Told parse retrySafe p requestId s.server s.attempts s.mine s.phase

variable {server parse peer localAddress retrySafe address token call p requestId}
  {s : RetrySystem σ V}

theorem single_start (control : σ) :
    Single parse retrySafe p requestId (start control : RetrySystem σ V) where
  sound := sound_start control
  made := made_start control
  mine := nofun
  attempts := Nat.zero_le _
  told := show 0 < maxAttempts by decide

/-- The client goes on after an attempt. -/
theorem Single.after (single : Single parse retrySafe p requestId s) {attempts : Nat}
    (bound : attempts ≤ maxAttempts) (result : Except (ControlClientError V) V)
    (told : ∀value,result=.ok value →
      Told parse retrySafe p requestId s.server attempts s.mine (.done (.ok value))) :
    Single parse retrySafe p requestId
      { s with attempts,phase := afterAttempt retrySafe attempts result } := by
  refine ⟨single.sound,single.made,single.mine,bound,?_⟩
  cases result with
  | ok value => exact told value rfl
  | error error =>
    show Told parse retrySafe p requestId s.server attempts s.mine
      (if retrySafe=true ∧ error.isTransient=true ∧ attempts < maxAttempts then .sending
        else .done (.error error))
    split_ifs with again
    · exact again.2.2
    · intro safe transient
      by_contra other
      exact again ⟨safe,transient,by omega⟩

/-- Any step of the server keeps what the client was told. -/
theorem Single.serverStep (single : Single parse retrySafe p requestId s)
    (named : p.mutation.requestId=some requestId) (move : MutationMove σ) :
    Single parse retrySafe p requestId
      { s with server := MutationMove.step server move s.server } := by
  have change := step_change server s.server move
  have grows := change.grows
  refine ⟨single.sound.step server move,single.made.step change,fun index mem =>
    (single.mine index mem).step single.sound named change,single.attempts,?_⟩
  have told := single.told
  show Told _ _ _ _ (MutationMove.step server move s.server) s.attempts s.mine s.phase
  cases phase : s.phase with
  | sending => rwa [phase] at told
  | waiting reply => cases reply <;> rwa [phase] at told
  | done result =>
    rw [phase] at told
    cases result with
    | error error => exact told
    | ok value =>
      obtain ⟨response,mem,answered⟩ := told
      exact ⟨response,grows.subset mem,answered⟩

theorem refusals_closed (error : RequestError) :
    ((badRequest error).Closed ∧ 300 ≤ (badRequest error).status) ∧
      (connectionLimit.Closed ∧ 300 ≤ connectionLimit.status) ∧
      ControlServer.draining.Closed ∧ 300 ≤ ControlServer.draining.status := by
  refine ⟨⟨closed_errorResponse _ _ _ (by decide),?_⟩,⟨closed_errorResponse _ _ _ (by decide),?_⟩,
    closed_errorResponse _ _ _ (by decide),?_⟩
  · exact show 300 ≤ 400 by decide
  · exact show 300 ≤ 503 by decide
  · exact show 300 ≤ 503 by decide

/-- A request that arrives as a whole comes to a new handler. -/
theorem send_whole (fits : call.Fits address token)
    (presented : server.presented peer localAddress (call.seen address token)=some p)
    (chunks : List (List UInt8)) (filled : ∀chunk∈chunks,chunk≠[])
    (whole : chunks.flatten=call.bytes address token) :
    send server peer localAddress s .serving chunks=
      { server := { s.server with handlers := s.server.handlers++[.waiting p] }
        attempts := s.attempts+1
        phase := .waiting (.handler s.server.handlers.length)
        mine := s.mine++[s.server.handlers.length] } := by
  rcases fits.read_part filled (whole ▸ List.prefix_rfl) with ⟨-,read⟩|⟨cut,-⟩
  · have got := read []
    rw [List.append_nil] at got
    simp only [send,got,presented,MutationMove.step]
  · exact absurd whole cut

/-- What is sent reaches a new handler as a whole, or is refused. -/
theorem Single.send (single : Single parse retrySafe p requestId s)
    (fits : call.Fits address token)
    (presented : server.presented peer localAddress (call.seen address token)=some p)
    (named : p.mutation.requestId=some requestId) (sending : s.phase=.sending) (gate : Gate)
    {chunks : List (List UInt8)} (filled : ∀chunk∈chunks,chunk≠[])
    (inside : chunks.flatten <+: call.bytes address token) :
    Single parse retrySafe p requestId (send server peer localAddress s gate chunks) := by
  have more : s.attempts < maxAttempts := by
    have told := single.told
    rwa [sending] at told
  have refused (response : Response) (closed : response.Closed ∧ 300 ≤ response.status) :
      Single parse retrySafe p requestId
        { s with attempts := s.attempts+1,phase := .waiting (.refused response) } :=
    ⟨single.sound,single.made,single.mine,more,closed⟩
  obtain ⟨-,full,draining⟩ := refusals_closed .unexpectedEnd
  rcases fits.read_part filled inside with ⟨joined,read⟩|⟨-,read⟩
  · have whole := read []
    rw [List.append_nil] at whole
    cases gate with
    | full =>
      simp only [RetrySystem.send]
      exact refused _ full
    | draining =>
      simp only [RetrySystem.send,whole]
      exact refused _ draining
    | serving =>
      rw [send_whole fits presented chunks filled joined]
      have arrived :=
        @Single.serverStep _ _ _ server _ _ _ _ _ single named
          (.arrive peer localAddress (call.seen address token))
      simp only [MutationMove.step,presented] at arrived
      refine ⟨arrived.sound,arrived.made,fun index mem => ?_,more,?_⟩
      · rcases List.mem_append.mp mem with old|new
        · exact arrived.mine index old
        · rw [List.mem_singleton.mp new]
          exact .inl List.getElem?_concat_length
      · exact List.mem_append_right _ List.mem_cons_self
  · cases gate with
    | full =>
      simp only [RetrySystem.send]
      exact refused _ full
    | draining =>
      simp only [RetrySystem.send,read]
      exact refused _ (refusals_closed _).1
    | serving =>
      simp only [RetrySystem.send,read]
      exact refused _ (refusals_closed _).1

/-- A result that is no failure comes from an answer with a successful status. -/
theorem received {response : Response} (closed : response.Closed)
    (balanced : ∀bytes value,parse bytes=some value → Balanced bytes)
    {chunks : List (List UInt8)} (filled : ∀chunk∈chunks,chunk≠[])
    (inside : chunks.flatten <+: response.written) {ending : List ReadResult} (ends : Ends ending)
    {value : V}
    (got : receive (decodeJsonResponse parse) (chunks.map .ok++ending)=.ok value) :
    200 ≤ response.status ∧ response.status < 300 ∧ parse response.body=some value := by
  have rejects (part : List UInt8) (inside : part <+: response.body) (short : part≠response.body) :
      Transient (decodeJsonResponse parse response.status part) := by
    refine ⟨.deserialize,?_,rfl⟩
    cases parsed : parse part with
    | none => rw [decodeJsonResponse,parsed]
    | some value => exact absurd (balanced part value parsed) (closed.2 part inside short)
  rcases (taken closed.1 rejects filled inside ends).either with whole|⟨error,failed,-⟩
  · rw [whole] at got
    cases parsed : parse response.body with
    | none =>
      rw [decodeJsonResponse,parsed] at got
      cases got
    | some value' =>
      simp only [decodeJsonResponse,parsed] at got
      split_ifs at got with success
      cases got
      exact ⟨success.1,success.2,rfl⟩
  · rw [failed] at got
    cases got

/-- The client waits for this answer, which has not come yet or comes from the server. -/
theorem Single.offered (single : Single parse retrySafe p requestId s) {reply : Reply}
    (waiting : s.phase=.waiting reply) : s.offered=[] ∨
      (∃response : Response,s.offered=response.written ∧ response.Closed ∧ 300 ≤ response.status) ∨
      ∃response,s.offered=(p.deliver response).written ∧ Given p requestId s.server response := by
  have told := single.told
  rw [waiting] at told
  rw [RetrySystem.offered,waiting]
  cases reply with
  | elsewhere => exact .inl rfl
  | refused response => exact .inr (.inl ⟨response,rfl,told⟩)
  | handler index =>
    rcases single.mine index told with here|⟨stage,held⟩|⟨response,here,given⟩
    · exact .inl (by simp only [here])
    · have here := single.sound.inside _ held
      exact .inl (by simp only [here])
    · exact .inr (.inr ⟨response,by simp only [here],given⟩)

theorem receive_nothing {chunks : List (List UInt8)} (filled : ∀chunk∈chunks,chunk≠[])
    (inside : chunks.flatten <+: []) {ending : List ReadResult} (ends : Ends ending) (value : V) :
    receive (decodeJsonResponse parse) (chunks.map .ok++ending)≠.ok value := by
  have nothing : chunks=[] := by
    cases chunks with
    | nil => rfl
    | cons chunk chunks =>
      have empty := List.prefix_nil.mp inside
      rw [List.flatten_cons,List.append_eq_nil_iff] at empty
      exact absurd empty.1 (filled chunk List.mem_cons_self)
  subst nothing
  rw [receive,List.map_nil,List.nil_append]
  intro got
  cases ends with
  | stopped => cases got
  | closed more =>
    rw [readToLimit_closed] at got
    cases got
  | failed message more =>
    rw [readToLimit_failed (by decide)] at got
    cases got

/-- What the client makes of an answer. -/
theorem Single.receive (single : Single parse retrySafe p requestId s)
    (balanced : ∀bytes value,parse bytes=some value → Balanced bytes) {reply : Reply}
    (waiting : s.phase=.waiting reply) {chunks : List (List UInt8)}
    (filled : ∀chunk∈chunks,chunk≠[]) (inside : chunks.flatten <+: s.offered)
    {ending : List ReadResult} (ends : Ends ending) {value : V}
    (got : ControlClient.receive (decodeJsonResponse parse) (chunks.map .ok++ending)=.ok value) :
    Told parse retrySafe p requestId s.server s.attempts s.mine (.done (.ok value)) := by
  rcases single.offered waiting with nothing|⟨response,offer,closed,refused⟩|⟨response,offer,given⟩
  · rw [nothing] at inside
    exact absurd got (receive_nothing filled inside ends value)
  · rw [offer] at inside
    have success := received closed balanced filled inside ends got
    omega
  · have closed : response.Closed := by
      rcases given with mem|rfl|rfl
      · obtain ⟨serviceId,result,made⟩ := single.made.stored _ mem
        change response=_ at made
        rw [made]
        exact closed_mutationResponse serviceId result
      · exact closed_errorResponse _ _ _ (by decide)
      · exact closed_errorResponse _ _ _ (by decide)
    rw [offer] at inside
    have success := received (closed.deliver p) balanced filled inside ends got
    rw [(deliver_same p response).1,(deliver_same p response).2] at success
    rcases given with mem|rfl|rfl
    · exact ⟨response,mem,success⟩
    · exact absurd success.2.1 (by decide)
    · exact absurd success.2.1 (by decide)

theorem Single.step (single : Single parse retrySafe p requestId s)
    (fits : call.Fits address token)
    (presented : server.presented peer localAddress (call.seen address token)=some p)
    (named : p.mutation.requestId=some requestId)
    (balanced : ∀bytes value,parse bytes=some value → Balanced bytes) (move : RetryMove σ)
    (allowed : Allowed address token call s move) :
    Single parse retrySafe p requestId
      (step server parse peer localAddress retrySafe move s) := by
  cases move with
  | server move => exact single.serverStep named move
  | connectFails message =>
    cases phase : s.phase with
    | sending =>
      have more := single.told
      rw [phase] at more
      simp only [RetrySystem.step,phase]
      exact single.after more _ fun value same => by cases same
    | waiting reply =>
      simp only [RetrySystem.step,phase]
      exact single
    | done result =>
      simp only [RetrySystem.step,phase]
      exact single
  | writeFails message =>
    cases phase : s.phase with
    | waiting reply =>
      simp only [RetrySystem.step,phase]
      exact single.after single.attempts _ fun value same => by cases same
    | sending =>
      simp only [RetrySystem.step,phase]
      exact single
    | done result =>
      simp only [RetrySystem.step,phase]
      exact single
  | send gate chunks =>
    cases phase : s.phase with
    | sending =>
      simp only [RetrySystem.step,phase]
      exact single.send fits presented named phase gate allowed.1 allowed.2
    | waiting reply =>
      simp only [RetrySystem.step,phase]
      exact single
    | done result =>
      simp only [RetrySystem.step,phase]
      exact single
  | receive chunks ending =>
    cases phase : s.phase with
    | waiting reply =>
      simp only [RetrySystem.step,phase]
      exact single.after single.attempts _ fun value got =>
        single.receive balanced phase allowed.1 allowed.2.1 allowed.2.2 got
    | sending =>
      simp only [RetrySystem.step,phase]
      exact single
    | done result =>
      simp only [RetrySystem.step,phase]
      exact single

theorem Single.final (fits : call.Fits address token)
    (presented : server.presented peer localAddress (call.seen address token)=some p)
    (named : p.mutation.requestId=some requestId)
    (balanced : ∀bytes value,parse bytes=some value → Balanced bytes) (control : σ)
    (moves : List (RetryMove σ))
    (allowed : Run.Along (RetrySystem.step server parse peer localAddress retrySafe)
      (Allowed address token call) moves (start control)) :
    Single parse retrySafe p requestId
      (Run.final (RetrySystem.step server parse peer localAddress retrySafe) moves
        (start control)) := by
  have keeps : Run.Keeps (RetrySystem.step server parse peer localAddress retrySafe)
      (Allowed address token call) (Single parse retrySafe p requestId) :=
    fun _ move single ok => single.step fits presented named balanced move ok
  exact keeps.final (single_start control) allowed

/-- As long as the store does not forget, an ID runs once, and has run if it is stored. -/
theorem runs_once {s : MutationSystem σ} (sound : Sound s)
    (few : ((s.stored.map Prod.fst).toFinset.erase requestId).card < idempotencyCapacity) :
    s.runIds.count requestId ≤ 1 ∧
      (requestId∈s.stored.map Prod.fst → s.runIds.count requestId=1) := by
  by_cases mem : requestId∈s.stored.map Prod.fst
  · obtain ⟨front,back,split,fresh⟩ := List.eq_append_cons_of_mem mem
    obtain ⟨earlier,rest,stored,rfl,rest_eq⟩ := List.map_eq_append_iff.mp split
    obtain ⟨⟨id,cached⟩,since,rfl,same,rfl⟩ := List.map_eq_cons_iff.mp rest_eq
    obtain rfl : requestId=id := same.symm
    have inside : (since.map Prod.fst).toFinset.erase requestId ⊆
        (s.stored.map Prod.fst).toFinset.erase requestId := by
      apply Finset.erase_subset_erase
      intro other mem
      rw [List.mem_toFinset] at mem ⊢
      rw [split]
      exact List.mem_append_right _ (List.mem_cons_of_mem _ mem)
    have once := sound.runs_stored stored (Nat.lt_of_le_of_lt (Finset.card_le_card inside) few)
    rw [List.count_eq_zero_of_not_mem fresh] at once
    exact ⟨Nat.le_of_eq once,fun _ => once⟩
  · exact ⟨sound.runs_unstored requestId mem,fun here => absurd here mem⟩

/-- The command line asks at most five times. However its requests, the answers and all other
handlers interleave, and wherever a connection breaks, the mutation runs at most once, as long as the
store does not forget; and when the client gets a value, it has run once, and the value is the answer
of that run. A client that gives up a safe request on a passing failure has made all its attempts. -/
theorem retried_mutation_runs_once (fits : call.Fits address token)
    (presented : server.presented peer localAddress (call.seen address token)=some p)
    (named : p.mutation.requestId=some requestId)
    (balanced : ∀bytes value,parse bytes=some value → Balanced bytes) (control : σ)
    (moves : List (RetryMove σ))
    (allowed : Run.Along (RetrySystem.step server parse peer localAddress retrySafe)
      (Allowed address token call) moves (start control))
    (s : RetrySystem σ V)
    (reached : s=Run.final (RetrySystem.step server parse peer localAddress retrySafe) moves
      (start control))
    (few : ((s.server.stored.map Prod.fst).toFinset.erase requestId).card < idempotencyCapacity) :
    s.attempts ≤ maxAttempts ∧ s.server.runIds.count requestId ≤ 1 ∧
    (∀value,s.phase=.done (.ok value) → s.server.runIds.count requestId=1 ∧
      ∃serviceId outcome,
        (requestId,CachedMutation.mk p.mutation.target p.mutation.body
          (mutationResponse serviceId (.ok outcome)))∈s.server.stored ∧
        parse (mutationResponse serviceId (.ok outcome)).body=some value) ∧
    ∀error,s.phase=.done (.error error) → retrySafe=true → error.isTransient=true →
      s.attempts=maxAttempts := by
  have single := Single.final fits presented named balanced control moves allowed
  rw [← reached] at single
  obtain ⟨once,stored_once⟩ := runs_once single.sound few
  refine ⟨single.attempts,once,fun value phase => ?_,fun error phase safe transient => ?_⟩
  · have told := single.told
    rw [phase] at told
    obtain ⟨response,mem,-,success,parsed⟩ := told
    refine ⟨stored_once (List.mem_map_of_mem mem),?_⟩
    obtain ⟨serviceId,result,made⟩ := single.made.stored _ mem
    change response=_ at made
    subst made
    obtain ⟨outcome,rfl⟩ := mutationResponse_success success
    exact ⟨serviceId,outcome,mem,parsed⟩
  · have told := single.told
    rw [phase] at told
    exact told safe transient

section Fixture

def fixtureCall : ClientCall := .request "POST" "/v1/services/api/restart" fixtureBody

def fixtureBytes : List UInt8 := fixtureCall.bytes "127.0.0.1:8080" fixtureToken

def parseBalanced (bytes : List UInt8) : Option Unit := if Balanced bytes then some () else none

def fixtureAnswer : List UInt8 := (mutationResponse "api" (.ok ⟨.restarted,none⟩)).written

/-- The first connection breaks behind the request, which is sent again and answered. -/
def fixtureMoves : List (RetryMove Nat) :=
  [.send .serving [fixtureBytes],.receive [] [],.send .serving [fixtureBytes]]

def fixtureMore : List (RetryMove Nat) :=
  [.server (.lock 0),.server .advance,.server .advance,.server .advance,.server (.lock 1),
    .server .advance,.receive [fixtureAnswer] []]

abbrev fixtureStep : RetryMove Nat → RetrySystem Nat Unit → RetrySystem Nat Unit :=
  step fixtureServer parseBalanced fixtureAddress (.ok fixtureAddress) true

/-- The request has reached two handlers. -/
def fixtureSent : RetrySystem Nat Unit where
  server := ⟨0,.empty,none,[.waiting fixturePresented,.waiting fixturePresented],[],[]⟩
  attempts := 2
  phase := .waiting (.handler 1)
  mine := [0,1]

theorem fixtureCall_fits : fixtureCall.Fits "127.0.0.1:8080" fixtureToken where
  host := by decide +kernel
  words method target body same := by
    cases same
    decide +kernel
  target target same := by cases same
  body := by decide +kernel
  head := by
    rw [fixtureCall,ClientCall.length_head]
    decide +kernel

theorem fixture_presented : fixtureServer.presented fixtureAddress (.ok fixtureAddress)
    (fixtureCall.seen "127.0.0.1:8080" fixtureToken)=some fixturePresented := by decide +kernel

theorem fixture_chunks : (∀chunk∈[fixtureBytes],chunk≠[]) ∧
    [fixtureBytes].flatten=fixtureCall.bytes "127.0.0.1:8080" fixtureToken := by
  have body : fixtureBody≠[] := by decide +kernel
  refine ⟨fun chunk mem => ?_,List.append_nil _⟩
  rw [List.mem_singleton.mp mem]
  exact List.append_ne_nil_of_right_ne_nil _ body

theorem fixture_sent : Run.final fixtureStep fixtureMoves (start 0)=fixtureSent := by
  have sent (s : RetrySystem Nat Unit) := @send_whole _ _ Unit fixtureServer _ _ _ _ _ _ s
    fixtureCall_fits fixture_presented [fixtureBytes] fixture_chunks.1 fixture_chunks.2
  have sends (s : RetrySystem Nat Unit) (sending : s.phase=.sending) :
      fixtureStep (.send .serving [fixtureBytes]) s=
        send fixtureServer fixtureAddress (.ok fixtureAddress) s .serving [fixtureBytes] := by
    simp only [fixtureStep,step,sending]
  have first : fixtureStep (.send .serving [fixtureBytes]) (start 0)=
      ⟨⟨0,.empty,none,[.waiting fixturePresented],[],[]⟩,1,.waiting (.handler 0),[0]⟩ := by
    rw [sends _ rfl,sent]
    rfl
  have broken : fixtureStep (.receive [] [])
      ⟨⟨0,.empty,none,[.waiting fixturePresented],[],[]⟩,1,.waiting (.handler 0),[0]⟩=
      ⟨⟨0,.empty,none,[.waiting fixturePresented],[],[]⟩,1,.sending,[0]⟩ := rfl
  have again : fixtureStep (.send .serving [fixtureBytes])
      ⟨⟨0,.empty,none,[.waiting fixturePresented],[],[]⟩,1,.sending,[0]⟩=fixtureSent := by
    rw [sends _ rfl,sent]
    rfl
  rw [fixtureMoves,Run.final_cons,first,Run.final_cons,broken,Run.final_cons,again,Run.final_nil]

theorem retried_mutation_runs_once_restart :
    (Run.final fixtureStep (fixtureMoves++fixtureMore) (start 0)).server.runIds.count "retry-1"=
      1 := by
  have balanced (bytes : List UInt8) (value : Unit) (parsed : parseBalanced bytes=some value) :
      Balanced bytes := by
    unfold parseBalanced at parsed
    split_ifs at parsed with here
    exact here
  have whole : (∀chunk∈[fixtureBytes],chunk≠[]) ∧
      [fixtureBytes].flatten <+: fixtureCall.bytes "127.0.0.1:8080" fixtureToken :=
    ⟨fixture_chunks.1,fixture_chunks.2 ▸ List.prefix_rfl⟩
  have filled : ∀chunk∈[fixtureAnswer],chunk≠[] := by decide +kernel
  have allowed : Run.Along fixtureStep (Allowed "127.0.0.1:8080" fixtureToken fixtureCall)
      (fixtureMoves++fixtureMore) (start 0) := by
    rw [Run.along_append,fixture_sent]
    simp only [fixtureMoves,fixtureMore,Run.along_cons,Run.along_nil,Allowed,and_true,true_and]
    refine ⟨⟨whole,⟨by decide,List.nil_prefix,.stopped⟩,whole⟩,filled,?_,.stopped⟩
    decide +kernel
  obtain ⟨s,reached⟩ : ∃s,s=Run.final fixtureStep (fixtureMoves++fixtureMore) (start 0) := ⟨_,rfl⟩
  have ended := reached
  rw [Run.final_append,fixture_sent] at ended
  have few : ((s.server.stored.map Prod.fst).toFinset.erase "retry-1").card <
      idempotencyCapacity := by
    rw [ended]
    decide +kernel
  have done : s.phase=.done (.ok ()) := by
    rw [ended]
    decide +kernel
  have named : fixturePresented.mutation.requestId=some "retry-1" := rfl
  have once := retried_mutation_runs_once fixtureCall_fits fixture_presented named balanced 0
    (fixtureMoves++fixtureMore) allowed s reached few
  rw [← reached]
  exact (once.2.2.1 () done).1

end Fixture

end RetrySystem

end AkuSupervisor
