import AkuSupervisor.Domain.Control
import AkuSupervisor.Lib.Run

/-! The dashboard page: its handlers run to their next await, and any of them may run in between. -/

namespace AkuSupervisor

inductive DashboardAction where
  | start
  | stop
  | restart
deriving DecidableEq

/-- A process ID as it stands in a service. -/
inductive PidField where
  | null
  | safeInteger (value : Int)
  | other
deriving DecidableEq

/-- A service as it was listed, as far as its actions depend on it; `ownedPids` when it is an array. -/
structure ListedService where
  id : String
  lifecycle : String
  rootPid : PidField
  ownedPids : Option (List PidField)
deriving DecidableEq

structure DashboardSession where
  token : String
  instanceId : String
deriving DecidableEq

/-- What decides whether an action is offered. -/
structure ActionState where
  snapshotFresh : Bool
  sessionAvailable : Bool
  mutationPending : Bool
  refreshRequired : Bool
  refreshInFlight : Bool

namespace DashboardPage

/-- The white space of `String.prototype.trim`. -/
def isTrimmed (c : Char) : Bool := (isWhitespace c && c.toNat != 0x85) || c.toNat == 0xFEFF

def trimText (text : String) : List Char :=
  ((text.toList.dropWhile isTrimmed).reverse.dropWhile isTrimmed).reverse

def normalized (text : String) : String := String.ofList ((trimText text).map Char.toLower)

def isPid : PidField → Bool
  | .safeInteger value => 0 < value
  | _ => false

def hasOwnedProcesses (service : ListedService) : Bool :=
  isPid service.rootPid || (service.ownedPids.getD []).any isPid

def ownershipIsKnownEmpty (service : ListedService) : Bool :=
  service.rootPid=.null && service.ownedPids=some []

def actionForService (service : ListedService) : Option DashboardAction :=
  let lifecycle := normalized service.lifecycle
  if (lifecycle="stopped" ∨ lifecycle="failed") ∧ ownershipIsKnownEmpty service then some .start
  else if (lifecycle="running" ∨ lifecycle="unhealthy" ∨ lifecycle="failed") ∧
      hasOwnedProcesses service then some .stop
  else none

def actionsForService (service : ListedService) : List DashboardAction :=
  match actionForService service with
  | none => []
  | some action =>
    if action=.stop ∧ normalized service.lifecycle="running" then [.stop,.restart] else [action]

def isActionDisabled (service : ListedService) (state : ActionState) (action : DashboardAction) :
    Bool :=
  !(actionsForService service).contains action || !state.snapshotFresh ||
    !state.sessionAvailable || state.mutationPending || state.refreshRequired ||
    state.refreshInFlight

def isHexDigit (c : Char) : Bool :=
  c.isDigit || ('a' ≤ c && c ≤ 'f') || ('A' ≤ c && c ≤ 'F')

def validSession (session : DashboardSession) : Bool :=
  session.token.toList.length=64 && session.token.toList.all isHexDigit &&
    !(trimText session.instanceId).isEmpty

end DashboardPage

inductive PromiseState where
  | pending
  | fulfilled
  | rejected
deriving DecidableEq

/-- A suspended `refresh`: what its three requests have given so far. `session` is the promise that
it waits for, or none where a session was held; `completedBefore` counts the mutations that had
completed when it asked for the services. -/
structure RefreshCall where
  services : Option (Option (List ListedService))
  health : Bool
  session : Option Nat
  completedBefore : Nat

/-- Where `mutateService` is suspended. -/
inductive MutationStage where
  /-- The request is in flight. -/
  | sent
  /-- The request has ended, with this status or without a response. -/
  | answered (status : Option Nat)
  | renewing (promise : Nat)
deriving DecidableEq

structure DashboardRequest where
  serviceId : String
  action : DashboardAction
  requestId : String
deriving DecidableEq

structure SentMutation where
  request : DashboardRequest
  token : String
deriving DecidableEq

/-- The variables of the page, its promises and suspended calls, and a record of what happened:
the clicks it accepted, the mutations it sent, how many of these have completed, and how many had when
the services of the snapshot were asked for. -/
structure DashboardPage where
  snapshot : List ListedService
  snapshotFresh : Bool
  refreshInFlight : Bool
  mutationRefreshRequired : Bool
  pendingMutation : Option (String × DashboardAction)
  dashboardSession : Option DashboardSession
  sessionPromise : Option Nat
  refreshTimer : Bool
  sessions : List PromiseState
  refreshes : List RefreshCall
  mutations : List MutationStage
  accepted : List DashboardRequest
  sent : List SentMutation
  completed : Nat
  snapshotAfter : Nat

inductive DashboardMove where
  | click (service : ListedService) (action : DashboardAction) (requestId : String)
  | refreshClick
  | tick
  | visibilityChange (hidden : Bool)
  /-- The reply to a request of a session, or its failure. -/
  | sessionSettles (promise : Nat) (reply : Option DashboardSession)
  /-- The services that a refresh asked for, or none where that failed. -/
  | servicesSettle (refresh : Nat) (services : Option (List ListedService))
  | healthSettles (refresh : Nat)
  /-- The response to a mutation, or none where it failed or timed out. -/
  | mutationSettles (mutation : Nat) (status : Option Nat)
  | resumeRefresh (refresh : Nat)
  | resumeMutation (mutation : Nat)

namespace DashboardPage

def actionState (p : DashboardPage) : ActionState :=
  ⟨p.snapshotFresh,p.dashboardSession.isSome,p.pendingMutation.isSome,p.mutationRefreshRequired,
    p.refreshInFlight⟩

/-- The promise that the caller waits for, or none where the session is held. -/
def fetchDashboardSession (force : Bool) (p : DashboardPage) : Option Nat × DashboardPage :=
  if p.dashboardSession.isSome && !force then (none,p)
  else match p.sessionPromise with
    | some promise => (some promise,p)
    | none => (some p.sessions.length,{ p with
        dashboardSession := none
        sessionPromise := some p.sessions.length
        sessions := p.sessions++[.pending] })

def sessionSettles (promise : Nat) (reply : Option DashboardSession) (p : DashboardPage) :
    DashboardPage :=
  if p.sessions[promise]?=some .pending then
    match reply.filter validSession with
    | some session => { p with
        dashboardSession := some session
        sessionPromise := none
        sessions := p.sessions.set promise .fulfilled }
    | none => { p with
        sessionPromise := none
        sessions := p.sessions.set promise .rejected }
  else p

/-- `refresh` up to its await. -/
def refresh (p : DashboardPage) : DashboardPage :=
  if p.refreshInFlight || p.pendingMutation.isSome then p
  else
    let fetched := fetchDashboardSession false { p with refreshInFlight := true }
    { fetched.2 with refreshes := p.refreshes++[⟨none,false,fetched.1,p.completed⟩] }

def sendServiceAction (request : DashboardRequest) (token : String) (p : DashboardPage) :
    DashboardPage :=
  { p with sent := p.sent++[⟨request,token⟩],mutations := p.mutations++[.sent] }

/-- The end of `mutateService`. -/
def finishMutation (p : DashboardPage) : DashboardPage :=
  refresh { p with pendingMutation := none,mutationRefreshRequired := true,snapshotFresh := false }

/-- `mutateService` up to its await. -/
def mutateService (service : ListedService) (action : DashboardAction) (requestId : String)
    (p : DashboardPage) : DashboardPage :=
  if isActionDisabled service p.actionState action then p
  else
    let request : DashboardRequest := ⟨service.id,action,requestId⟩
    let p := { p with
      accepted := p.accepted++[request]
      pendingMutation := some (service.id,action)
      mutationRefreshRequired := true
      snapshotFresh := false }
    match p.dashboardSession with
    | some session => sendServiceAction request session.token p
    -- without a session the token cannot be read, and the request is not sent
    | none => finishMutation p

/-- What awaits nothing, or a promise that has settled, can go on. -/
def settled (p : DashboardPage) (promise : Option Nat) : Option PromiseState :=
  match promise with
  | none => some .fulfilled
  | some promise => p.sessions[promise]?.filter (· ≠ .pending)

def finishRefresh (services : Option (List ListedService)) (session : PromiseState)
    (completedBefore : Nat) (p : DashboardPage) : DashboardPage :=
  let p := if session=.rejected then { p with dashboardSession := none } else p
  match services with
  | some snapshot => { p with
      snapshot
      snapshotFresh := true
      mutationRefreshRequired := false
      snapshotAfter := completedBefore
      refreshInFlight := false }
  | none => { p with snapshotFresh := false,refreshInFlight := false }

def resumeRefresh (index : Nat) (p : DashboardPage) : DashboardPage :=
  match p.refreshes[index]? with
  | none => p
  | some call =>
    match call.services,call.health,p.settled call.session with
    | some services,true,some session =>
      finishRefresh services session call.completedBefore
        { p with refreshes := p.refreshes.eraseIdx index }
    | _,_,_ => p

def mutationSettles (index : Nat) (status : Option Nat) (p : DashboardPage) : DashboardPage :=
  if p.mutations[index]?=some .sent then
    { p with mutations := p.mutations.set index (.answered status),completed := p.completed+1 }
  else p

def resumeMutation (index : Nat) (p : DashboardPage) : DashboardPage :=
  match p.mutations[index]? with
  | some (.answered status) =>
    if status=some 401 then
      match fetchDashboardSession true { p with dashboardSession := none } with
      | (some promise,p) => { p with mutations := p.mutations.set index (.renewing promise) }
      | (none,p) => finishMutation { p with mutations := p.mutations.eraseIdx index }
    else finishMutation { p with mutations := p.mutations.eraseIdx index }
  | some (.renewing promise) =>
    if (p.settled (some promise)).isSome then
      finishMutation { p with mutations := p.mutations.eraseIdx index }
    else p
  | _ => p

def updateRefresh (index : Nat) (change : RefreshCall → RefreshCall) (p : DashboardPage) :
    DashboardPage :=
  { p with refreshes := p.refreshes.modify index change }

def servicesSettle (index : Nat) (services : Option (List ListedService)) (p : DashboardPage) :
    DashboardPage :=
  p.updateRefresh index fun call => { call with services := some (call.services.getD services) }

def healthSettles (index : Nat) (p : DashboardPage) : DashboardPage :=
  p.updateRefresh index fun call => { call with health := true }

/-- `polling` is the option of the page. -/
def updatePolling (polling hidden : Bool) (p : DashboardPage) : DashboardPage :=
  let p := { p with refreshTimer := false }
  if hidden then p else { p.refresh with refreshTimer := polling }

def step (polling : Bool) (move : DashboardMove) (p : DashboardPage) : DashboardPage :=
  match move with
  | .click service action requestId => mutateService service action requestId p
  | .refreshClick => refresh p
  | .tick => if p.refreshTimer then refresh p else p
  | .visibilityChange hidden => updatePolling polling hidden p
  | .sessionSettles promise reply => sessionSettles promise reply p
  | .servicesSettle index services => servicesSettle index services p
  | .healthSettles index => healthSettles index p
  | .mutationSettles index status => mutationSettles index status p
  | .resumeRefresh index => resumeRefresh index p
  | .resumeMutation index => resumeMutation index p

def blank : DashboardPage :=
  ⟨[],false,false,false,none,none,none,false,[],[],[],[],[],0,0⟩

def mountDashboard (polling hidden : Bool) : DashboardPage := updatePolling polling hidden blank

/-- What the page does at any time: nothing, one refresh, or one mutation. -/
inductive Phase (p : DashboardPage) : Prop where
  | idle (mutations : p.mutations=[]) (refreshes : p.refreshes=[])
      (free : p.pendingMutation=none) (still : p.refreshInFlight=false)
      (all : p.sent.length=p.completed)
  | refreshing (call : RefreshCall) (mutations : p.mutations=[]) (refreshes : p.refreshes=[call])
      (issued : call.completedBefore=p.completed) (free : p.pendingMutation=none)
      (busy : p.refreshInFlight=true) (all : p.sent.length=p.completed)
  | mutating (stage : MutationStage) (mutations : p.mutations=[stage]) (refreshes : p.refreshes=[])
      (pending : p.pendingMutation.isSome=true) (still : p.refreshInFlight=false)
      (required : p.mutationRefreshRequired=true)
      (counted : p.sent.length=p.completed+if stage=.sent then 1 else 0)

structure Ordered (p : DashboardPage) : Prop where
  phase : Phase p
  shown : p.snapshotFresh=true → p.mutationRefreshRequired=false → p.snapshotAfter=p.completed
  told : p.sent.map SentMutation.request=p.accepted

section Operations

variable {p : DashboardPage}

/-- Nothing of the order depends on the session. -/
theorem Ordered.sessions (ordered : Ordered p) (dashboardSession : Option DashboardSession)
    (sessionPromise : Option Nat) (sessions : List PromiseState) :
    Ordered { p with dashboardSession,sessionPromise,sessions } := by
  refine ⟨?_,ordered.shown,ordered.told⟩
  cases ordered.phase with
  | idle mutations refreshes free still all => exact .idle mutations refreshes free still all
  | refreshing call mutations refreshes issued free busy all =>
    exact .refreshing call mutations refreshes issued free busy all
  | mutating stage mutations refreshes pending still required counted =>
    exact .mutating stage mutations refreshes pending still required counted

theorem fetchDashboardSession_eq (force : Bool) (p : DashboardPage) :
    ∃dashboardSession sessionPromise sessions,(fetchDashboardSession force p).2=
      { p with dashboardSession,sessionPromise,sessions } := by
  unfold fetchDashboardSession
  split_ifs
  · exact ⟨_,_,_,rfl⟩
  · cases p.sessionPromise with
    | none => exact ⟨_,_,_,rfl⟩
    | some promise => exact ⟨_,_,_,rfl⟩

theorem ordered_sessionSettles (promise : Nat) (reply : Option DashboardSession)
    (ordered : Ordered p) : Ordered (sessionSettles promise reply p) := by
  unfold sessionSettles
  split_ifs
  · cases reply.filter validSession with
    | none => exact ordered.sessions _ _ _
    | some session => exact ordered.sessions _ _ _
  · exact ordered

/-- A refresh begins only while nothing else goes on. -/
theorem ordered_refresh (ordered : Ordered p) : Ordered (refresh p) := by
  unfold refresh
  split_ifs with busy
  · exact ordered
  obtain ⟨still,free⟩ : p.refreshInFlight=false ∧ p.pendingMutation=none := by simpa using busy
  obtain ⟨session,promise,sessions,same⟩ :=
    fetchDashboardSession_eq false { p with refreshInFlight := true }
  simp only [same]
  refine ⟨?_,ordered.shown,ordered.told⟩
  cases ordered.phase with
  | idle mutations refreshes _ _ all =>
    exact .refreshing _ mutations (by rw [refreshes]; rfl) rfl free rfl all
  | refreshing _ _ _ _ _ busy _ =>
    rw [still] at busy
    cases busy
  | mutating _ _ _ pending _ _ _ =>
    rw [free] at pending
    cases pending

theorem ordered_finishMutation (mutations : p.mutations=[]) (refreshes : p.refreshes=[])
    (still : p.refreshInFlight=false) (all : p.sent.length=p.completed)
    (told : p.sent.map SentMutation.request=p.accepted) : Ordered (finishMutation p) := by
  apply ordered_refresh
  exact ⟨.idle mutations refreshes rfl still all,(fun fresh => by cases fresh),told⟩

/-- What is known where a click is accepted. -/
theorem accepted_idle {service : ListedService} {action : DashboardAction} (ordered : Ordered p)
    (enabled : isActionDisabled service p.actionState action=false) :
    (∃session,p.dashboardSession=some session) ∧ p.snapshotFresh=true ∧ p.mutations=[] ∧
      p.refreshes=[] ∧ p.refreshInFlight=false ∧ p.sent.length=p.completed ∧
      p.snapshotAfter=p.completed := by
  unfold isActionDisabled actionState at enabled
  simp only [Bool.or_eq_false_iff,Bool.not_eq_false'] at enabled
  obtain ⟨⟨⟨⟨⟨-,fresh⟩,session⟩,free⟩,required⟩,still⟩ := enabled
  refine ⟨Option.isSome_iff_exists.mp session,fresh,?_⟩
  cases ordered.phase with
  | idle mutations refreshes _ _ all =>
    exact ⟨mutations,refreshes,still,all,ordered.shown fresh required⟩
  | refreshing _ _ _ _ _ busy _ =>
    rw [still] at busy
    cases busy
  | mutating _ _ _ pending _ _ _ =>
    rw [free] at pending
    cases pending

theorem ordered_mutateService (service : ListedService) (action : DashboardAction)
    (requestId : String) (ordered : Ordered p) :
    Ordered (mutateService service action requestId p) := by
  unfold mutateService
  split_ifs with disabled
  · exact ordered
  obtain ⟨⟨session,held⟩,-,mutations,refreshes,still,all,-⟩ :=
    accepted_idle ordered ((Bool.not_eq_true _).mp disabled)
  simp only [held]
  unfold sendServiceAction
  refine ⟨?_,(fun fresh => by cases fresh),?_⟩
  · refine .mutating .sent ?_ refreshes rfl still rfl ?_
    · show p.mutations++[.sent]=[.sent]
      rw [mutations]
      rfl
    · show (p.sent++[_]).length=_
      rw [List.length_append,all]
      rfl
  · show (p.sent++[_]).map _=p.accepted++[_]
    rw [List.map_append,ordered.told]
    rfl

theorem ordered_finishRefresh {services : Option (List ListedService)} {session : PromiseState}
    {completedBefore : Nat} (mutations : p.mutations=[]) (refreshes : p.refreshes=[])
    (issued : completedBefore=p.completed) (free : p.pendingMutation=none)
    (all : p.sent.length=p.completed) (told : p.sent.map SentMutation.request=p.accepted) :
    Ordered (finishRefresh services session completedBefore p) := by
  unfold finishRefresh
  cases services with
  | none =>
    split_ifs
    · exact ⟨.idle mutations refreshes free rfl all,(fun fresh => by cases fresh),told⟩
    · exact ⟨.idle mutations refreshes free rfl all,(fun fresh => by cases fresh),told⟩
  | some snapshot =>
    split_ifs
    · exact ⟨.idle mutations refreshes free rfl all,fun _ _ => issued,told⟩
    · exact ⟨.idle mutations refreshes free rfl all,fun _ _ => issued,told⟩

end Operations

section Resumptions

variable {p : DashboardPage}

theorem getElem?_single {α : Type} {a b : α} {index : Nat} (found : [a][index]?=some b) :
    index=0 ∧ a=b := by
  cases index with
  | zero => exact ⟨rfl,Option.some.inj found⟩
  | succ index => simp at found

/-- A change of what a refresh has got so far. -/
theorem ordered_updateRefresh (index : Nat) {change : RefreshCall → RefreshCall}
    (same : ∀call,(change call).completedBefore=call.completedBefore) (ordered : Ordered p) :
    Ordered (updateRefresh index change p) := by
  refine ⟨?_,ordered.shown,ordered.told⟩
  cases ordered.phase with
  | idle mutations refreshes free still all =>
    exact .idle mutations (by rw [updateRefresh,refreshes]; simp) free still all
  | refreshing call mutations refreshes issued free busy all =>
    cases index with
    | zero =>
      refine .refreshing (change call) mutations ?_ ((same call).trans issued) free busy all
      rw [updateRefresh,refreshes]
      rfl
    | succ index =>
      refine .refreshing call mutations ?_ issued free busy all
      rw [updateRefresh,refreshes]
      simp
  | mutating stage mutations refreshes pending still required counted =>
    exact .mutating stage mutations (by rw [updateRefresh,refreshes]; simp) pending still required
      counted

/-- A refresh that is suspended is all that goes on. -/
theorem refresh_alone {index : Nat} {call : RefreshCall} (ordered : Ordered p)
    (found : p.refreshes[index]?=some call) :
    p.refreshes.eraseIdx index=[] ∧ p.mutations=[] ∧ call.completedBefore=p.completed ∧
      p.pendingMutation=none ∧ p.sent.length=p.completed := by
  cases ordered.phase with
  | idle _ refreshes _ _ _ => simp [refreshes] at found
  | mutating _ _ refreshes _ _ _ _ => simp [refreshes] at found
  | refreshing other mutations refreshes issued free _ all =>
    rw [refreshes] at found ⊢
    obtain ⟨rfl,rfl⟩ := getElem?_single found
    exact ⟨rfl,mutations,issued,free,all⟩

/-- So is a mutation. -/
theorem mutation_alone {index : Nat} {stage : MutationStage} (ordered : Ordered p)
    (found : p.mutations[index]?=some stage) :
    index=0 ∧ p.mutations=[stage] ∧ p.refreshes=[] ∧ p.pendingMutation.isSome=true ∧
      p.refreshInFlight=false ∧ p.mutationRefreshRequired=true ∧
      p.sent.length=p.completed+if stage=.sent then 1 else 0 := by
  cases ordered.phase with
  | idle mutations _ _ _ _ => simp [mutations] at found
  | refreshing _ mutations _ _ _ _ _ => simp [mutations] at found
  | mutating other mutations refreshes pending still required counted =>
    rw [mutations] at found ⊢
    obtain ⟨rfl,rfl⟩ := getElem?_single found
    exact ⟨rfl,rfl,refreshes,pending,still,required,counted⟩

theorem ordered_resumeRefresh (index : Nat) (ordered : Ordered p) :
    Ordered (resumeRefresh index p) := by
  unfold resumeRefresh
  cases found : p.refreshes[index]? with
  | none => exact ordered
  | some call =>
    obtain ⟨alone,mutations,issued,free,all⟩ := refresh_alone ordered found
    simp only
    split
    · exact ordered_finishRefresh mutations alone issued free all ordered.told
    · exact ordered

theorem ordered_mutationSettles (index : Nat) (status : Option Nat) (ordered : Ordered p) :
    Ordered (mutationSettles index status p) := by
  unfold mutationSettles
  split_ifs with found
  · obtain ⟨rfl,mutations,refreshes,pending,still,required,counted⟩ := mutation_alone ordered found
    refine ⟨.mutating (.answered status) ?_ refreshes pending still required ?_,?_,ordered.told⟩
    · show p.mutations.set 0 _=_
      rw [mutations]
      rfl
    · show p.sent.length=p.completed+1+_
      rw [counted,if_pos rfl,if_neg (by simp)]
    · intro _ unneeded
      rw [required] at unneeded
      cases unneeded
  · exact ordered

/-- A mutation whose request has ended ends itself. -/
theorem ordered_finish {stage : MutationStage} (ordered : Ordered p)
    (found : p.mutations[0]?=some stage) (ended : stage≠.sent) :
    Ordered (finishMutation { p with mutations := p.mutations.eraseIdx 0 }) := by
  obtain ⟨-,mutations,refreshes,-,still,-,counted⟩ := mutation_alone ordered found
  rw [if_neg ended] at counted
  exact ordered_finishMutation (by simp [mutations]) refreshes still counted ordered.told

theorem ordered_resumeMutation (index : Nat) (ordered : Ordered p) :
    Ordered (resumeMutation index p) := by
  unfold resumeMutation
  cases found : p.mutations[index]? with
  | none => exact ordered
  | some stage =>
    obtain ⟨rfl,mutations,refreshes,pending,still,required,counted⟩ := mutation_alone ordered found
    cases stage with
    | sent => exact ordered
    | renewing promise =>
      simp only
      split_ifs
      · exact ordered_finish ordered found (by simp)
      · exact ordered
    | answered status =>
      simp only
      split_ifs
      · obtain ⟨session,held,sessions,same⟩ :=
          fetchDashboardSession_eq true { p with dashboardSession := none }
        rcases fetched : fetchDashboardSession true { p with dashboardSession := none } with
          ⟨promise,next⟩
        rw [fetched] at same
        cases same
        have renewing := ordered.sessions session held sessions
        cases promise with
        | none => exact ordered_finish renewing found (by simp)
        | some promise =>
          refine ⟨.mutating (.renewing promise) ?_ refreshes pending still required ?_,?_,
            ordered.told⟩
          · show p.mutations.set 0 _=_
            rw [mutations]
            rfl
          · rw [counted,if_neg (by simp),if_neg (by simp)]
          · exact renewing.shown
      · exact ordered_finish ordered found (by simp)

/-- Nor does anything of the order depend on the timer. -/
theorem Ordered.timer (ordered : Ordered p) (refreshTimer : Bool) :
    Ordered { p with refreshTimer } := by
  refine ⟨?_,ordered.shown,ordered.told⟩
  cases ordered.phase with
  | idle mutations refreshes free still all => exact .idle mutations refreshes free still all
  | refreshing call mutations refreshes issued free busy all =>
    exact .refreshing call mutations refreshes issued free busy all
  | mutating stage mutations refreshes pending still required counted =>
    exact .mutating stage mutations refreshes pending still required counted

theorem ordered_updatePolling (polling hidden : Bool) (ordered : Ordered p) :
    Ordered (updatePolling polling hidden p) := by
  unfold updatePolling
  simp only
  split_ifs
  · exact ordered.timer false
  · exact (ordered_refresh (ordered.timer false)).timer polling

theorem ordered_step (polling : Bool) (move : DashboardMove) (ordered : Ordered p) :
    Ordered (step polling move p) := by
  cases move with
  | click service action requestId => exact ordered_mutateService service action requestId ordered
  | refreshClick => exact ordered_refresh ordered
  | tick =>
    show Ordered (if p.refreshTimer then refresh p else p)
    split_ifs
    · exact ordered_refresh ordered
    · exact ordered
  | visibilityChange hidden => exact ordered_updatePolling polling hidden ordered
  | sessionSettles promise reply => exact ordered_sessionSettles promise reply ordered
  | servicesSettle index services => exact ordered_updateRefresh index (fun _ => rfl) ordered
  | healthSettles index => exact ordered_updateRefresh index (fun _ => rfl) ordered
  | mutationSettles index status => exact ordered_mutationSettles index status ordered
  | resumeRefresh index => exact ordered_resumeRefresh index ordered
  | resumeMutation index => exact ordered_resumeMutation index ordered

end Resumptions

/-- At most one mutation, and none in flight with a refresh; every accepted click has sent its
mutation once. -/
structure Interlocked (p : DashboardPage) : Prop where
  single : p.mutations.length ≤ 1
  apart : .sent∈p.mutations → p.refreshes=[]
  once : p.sent.map SentMutation.request=p.accepted

/-- Only a click sends a mutation, as its own one request. It does so with the token of the session
that is held, after every other mutation has completed, and the snapshot is of services that were asked
for after that. -/
def SendsFresh (polling : Bool) (p : DashboardPage) (move : DashboardMove) : Prop :=
  (step polling move p).sent=p.sent ∧ (step polling move p).accepted=p.accepted ∨
    ∃service action requestId session,move=.click service action requestId ∧
      p.dashboardSession=some session ∧
      (step polling move p).sent=p.sent++[⟨⟨service.id,action,requestId⟩,session.token⟩] ∧
      (step polling move p).accepted=p.accepted++[⟨service.id,action,requestId⟩] ∧
      p.snapshotFresh=true ∧ p.completed=p.sent.length ∧ p.snapshotAfter=p.completed

/-- A click on an action that is not disabled sends its mutation. -/
def TakesEnabled (polling : Bool) (p : DashboardPage) (move : DashboardMove) : Prop :=
  ∀service action requestId,move=.click service action requestId →
    isActionDisabled service p.actionState action=false →
    ∃session,p.dashboardSession=some session ∧
      (step polling move p).sent=p.sent++[⟨⟨service.id,action,requestId⟩,session.token⟩] ∧
      (step polling move p).accepted=p.accepted++[⟨service.id,action,requestId⟩]

theorem Ordered.interlocked {p : DashboardPage} (ordered : Ordered p) : Interlocked p := by
  cases ordered.phase with
  | idle mutations _ _ _ _ => exact ⟨by simp [mutations],by simp [mutations],ordered.told⟩
  | refreshing _ mutations _ _ _ _ _ =>
    exact ⟨by simp [mutations],by simp [mutations],ordered.told⟩
  | mutating _ mutations refreshes _ _ _ _ =>
    exact ⟨by simp [mutations],fun _ => refreshes,ordered.told⟩

section Sends

variable {p : DashboardPage}

/-- The record of the clicks and of what they sent. -/
def sends (p : DashboardPage) : List SentMutation × List DashboardRequest := (p.sent,p.accepted)

theorem sends_fetch (force : Bool) (p : DashboardPage) :
    sends (fetchDashboardSession force p).2=sends p := by
  obtain ⟨_,_,_,same⟩ := fetchDashboardSession_eq force p
  rw [same]
  rfl

theorem sends_refresh (p : DashboardPage) : sends (refresh p)=sends p := by
  unfold refresh
  split_ifs
  · rfl
  · exact sends_fetch false { p with refreshInFlight := true }

theorem sends_finishMutation (p : DashboardPage) : sends (finishMutation p)=sends p :=
  sends_refresh _

theorem sends_updatePolling (polling hidden : Bool) (p : DashboardPage) :
    sends (updatePolling polling hidden p)=sends p := by
  unfold updatePolling
  simp only
  split_ifs
  · rfl
  · exact sends_refresh _

theorem sends_sessionSettles (promise : Nat) (reply : Option DashboardSession)
    (p : DashboardPage) : sends (sessionSettles promise reply p)=sends p := by
  unfold sessionSettles
  split_ifs
  · cases reply.filter validSession <;> rfl
  · rfl

theorem sends_finishRefresh (services : Option (List ListedService)) (session : PromiseState)
    (completedBefore : Nat) (p : DashboardPage) :
    sends (finishRefresh services session completedBefore p)=sends p := by
  unfold finishRefresh
  cases services <;> split_ifs <;> rfl

theorem sends_resumeRefresh (index : Nat) (p : DashboardPage) :
    sends (resumeRefresh index p)=sends p := by
  unfold resumeRefresh
  cases p.refreshes[index]? with
  | none => rfl
  | some call =>
    simp only
    split
    · exact sends_finishRefresh _ _ _ _
    · rfl

theorem sends_mutationSettles (index : Nat) (status : Option Nat) (p : DashboardPage) :
    sends (mutationSettles index status p)=sends p := by
  unfold mutationSettles
  split_ifs <;> rfl

/-- Whatever a mutation gave, it is not sent again. -/
theorem sends_resumeMutation (index : Nat) (p : DashboardPage) :
    sends (resumeMutation index p)=sends p := by
  unfold resumeMutation
  split
  · split_ifs
    · have fetched := sends_fetch true { p with dashboardSession := none }
      split
      · next same => rw [same] at fetched; exact fetched
      · next same => rw [same] at fetched; exact (sends_finishMutation _).trans fetched
    · exact sends_finishMutation _
  · split_ifs
    · exact sends_finishMutation _
    · rfl
  · rfl

theorem sendsFresh_of_same {polling : Bool} {move : DashboardMove}
    (same : sends (step polling move p)=sends p) : SendsFresh polling p move :=
  .inl ⟨congrArg Prod.fst same,congrArg Prod.snd same⟩

theorem mutateService_enabled {service : ListedService} {action : DashboardAction}
    {session : DashboardSession} (requestId : String)
    (enabled : isActionDisabled service p.actionState action=false)
    (held : p.dashboardSession=some session) :
    mutateService service action requestId p=
      sendServiceAction ⟨service.id,action,requestId⟩ session.token { p with
        accepted := p.accepted++[⟨service.id,action,requestId⟩]
        pendingMutation := some (service.id,action)
        mutationRefreshRequired := true
        snapshotFresh := false } := by
  unfold mutateService
  rw [if_neg ((Bool.not_eq_true _).mpr enabled)]
  simp only [held]

theorem sendsFresh_click (polling : Bool) (service : ListedService) (action : DashboardAction)
    (requestId : String) (ordered : Ordered p) :
    SendsFresh polling p (.click service action requestId) := by
  by_cases disabled : isActionDisabled service p.actionState action=true
  · apply sendsFresh_of_same
    show sends (mutateService service action requestId p)=_
    rw [mutateService,if_pos disabled]
  · have enabled := (Bool.not_eq_true _).mp disabled
    obtain ⟨⟨session,held⟩,fresh,-,-,-,all,shown⟩ := accepted_idle ordered enabled
    have sent := mutateService_enabled requestId enabled held
    exact .inr ⟨service,action,requestId,session,rfl,held,congrArg DashboardPage.sent sent,
      congrArg DashboardPage.accepted sent,fresh,all.symm,shown⟩

theorem takesEnabled_step (polling : Bool) (move : DashboardMove) (ordered : Ordered p) :
    TakesEnabled polling p move := by
  rintro service action requestId rfl enabled
  obtain ⟨⟨session,held⟩,-⟩ := accepted_idle ordered enabled
  have sent := mutateService_enabled requestId enabled held
  exact ⟨session,held,congrArg DashboardPage.sent sent,congrArg DashboardPage.accepted sent⟩

theorem sendsFresh_step (polling : Bool) (move : DashboardMove) (ordered : Ordered p) :
    SendsFresh polling p move := by
  cases move with
  | click service action requestId =>
    exact sendsFresh_click polling service action requestId ordered
  | refreshClick => exact sendsFresh_of_same (sends_refresh p)
  | tick =>
    apply sendsFresh_of_same
    show sends (if p.refreshTimer then refresh p else p)=_
    split_ifs
    · exact sends_refresh p
    · rfl
  | visibilityChange hidden => exact sendsFresh_of_same (sends_updatePolling polling hidden p)
  | sessionSettles promise reply => exact sendsFresh_of_same (sends_sessionSettles promise reply p)
  | servicesSettle index services => exact sendsFresh_of_same rfl
  | healthSettles index => exact sendsFresh_of_same rfl
  | mutationSettles index status => exact sendsFresh_of_same (sends_mutationSettles index status p)
  | resumeRefresh index => exact sendsFresh_of_same (sends_resumeRefresh index p)
  | resumeMutation index => exact sendsFresh_of_same (sends_resumeMutation index p)

end Sends

theorem ordered_mount (polling hidden : Bool) : Ordered (mountDashboard polling hidden) := by
  apply ordered_updatePolling
  exact ⟨.idle rfl rfl rfl rfl rfl,(fun fresh => by cases fresh),rfl⟩

/-- The interlock of the dashboard holds in every state that any events bring the page to, every
mutation it sends is sent as `SendsFresh` says, and no click on an enabled action is lost. -/
theorem mutation_interlock (polling hidden : Bool) (moves : List DashboardMove) :
    Interlocked (Run.final (step polling) moves (mountDashboard polling hidden)) ∧
    Run.Along (step polling) (SendsFresh polling) moves (mountDashboard polling hidden) ∧
    Run.Along (step polling) (TakesEnabled polling) moves (mountDashboard polling hidden) := by
  have keeps : Run.Keeps (step polling) (fun _ _ => True) Ordered := fun p move ordered _ =>
    ordered_step polling move ordered
  have start := ordered_mount polling hidden
  have any : Run.Along (step polling) (fun _ _ => True) moves (mountDashboard polling hidden) :=
    Run.along_true moves _
  exact ⟨(keeps.final start any).interlocked,
    keeps.along (fun p move ordered _ => sendsFresh_step polling move ordered) start any,
    keeps.along (fun p move ordered _ => takesEnabled_step polling move ordered) start any⟩

end DashboardPage

end AkuSupervisor
