import AkuSupervisor.Adapters.Dashboard

namespace AkuSupervisor

open StateError Logged

variable {σ κ α : Type} {ok : ServerCall → Prop}

/-- A part of a handler whose calls all meet `ok`. -/
abbrev OnlyCalls (ok : ServerCall → Prop) (x : Serve σ κ α) : Prop := Only ServerState.calls ok x

theorem onlyCalls_onControl (x : EStateM ControlError σ α) :
    OnlyCalls ok (onControl x : Serve σ κ _) := only_of_same fun _ => rfl

theorem onlyCalls_recordCall (call : ServerCall) (fine : ok call) :
    OnlyCalls ok (recordCall call : Serve σ κ Unit) := only_of_entry call fine fun _ => rfl

theorem OnlyCalls.withScratch {x : Serve σ κ α} (only : OnlyCalls ok x) :
    OnlyCalls ok (withScratch x) := by
  intro s
  obtain ⟨new,same,each⟩ := only { s with idempotency := .empty }
  refine ⟨new,?_,each⟩
  show (final (AkuSupervisor.withScratch x s)).calls=s.calls++new
  unfold AkuSupervisor.withScratch
  cases run : x.run { s with idempotency := .empty } with
  | ok a t =>
    rw [run] at same
    exact same
  | error error t =>
    rw [run] at same
    exact same

namespace ControlServer

variable (server : ControlServer σ κ)

theorem onlyCalls_mutate (action : ControlAction) (serviceId : String) (actor : Actor)
    (reason : Reason) (fine : ok (.mutate action serviceId actor reason)) :
    OnlyCalls ok (server.mutate action serviceId actor reason) :=
  (onlyCalls_recordCall _ fine).bind fun _ => onlyCalls_onControl _

theorem onlyCalls_requestShutdown (request : SupervisorShutdownRequest)
    (fine : ok (.shutdown request)) :
    OnlyCalls ok (requestShutdown request : Serve σ κ _) :=
  (onlyCalls_recordCall _ fine).bind fun _ => only_of_same fun _ => rfl

theorem onlyCalls_beginCooperative (operations : CooperativeOperations κ) (actor : Actor)
    (reason : Reason) (requestId : String) (fine : ok (.cooperative actor reason requestId)) :
    OnlyCalls ok (beginCooperative operations actor reason requestId : Serve σ κ _) :=
  (onlyCalls_recordCall _ fine).bind fun _ => only_of_same fun _ => rfl

/-- A service mutation calls the control for its own target, if at all. -/
theorem onlyCalls_serveMutation (mutation : ServiceMutation)
    (fine : ∀action serviceId,parseMutationTarget mutation.target=some (serviceId,action) →
      ok (.mutate action serviceId mutation.actor mutation.reason)) :
    OnlyCalls ok (server.serveMutation mutation) := by
  unfold serveMutation
  refine Only.bind only_get fun s => ?_
  cases decided : mutation.decision s.idempotency with
  | answer response => exact only_pure response
  | run serviceId action =>
    obtain ⟨parsed,-⟩ := ServiceMutation.decision_run decided
    refine Only.bind (server.onlyCalls_mutate _ _ _ _ (fine action serviceId parsed)) fun result => ?_
    refine Only.bind only_get fun t => ?_
    cases mutation.remember t.idempotency (mutationResponse serviceId result) with
    | none => exact only_throw _
    | some store => exact Only.bind (only_of_same fun _ => rfl) fun _ => only_pure _

theorem onlyCalls_routeCooperativeReload (operations : Option (CooperativeOperations κ))
    (actor : ApiActor) (reason : Reason) (requestId : Option String)
    (fine : ∀id,operations≠none → ok (.cooperative actor.domainActor reason id)) :
    OnlyCalls ok (routeCooperativeReload operations actor reason requestId : Serve σ κ _) := by
  cases requestId with
  | none => exact only_pure _
  | some id =>
    cases operations with
    | none => exact only_pure _
    | some operations =>
      refine Only.bind (onlyCalls_beginCooperative _ _ _ _ (fine id nofun)) fun result => ?_
      cases result with
      | ok operation => exact only_pure _
      | error error => cases error <;> exact only_pure _

/-- The request carries exactly the configured token as its bearer. -/
def CarriesToken (request : HttpRequest) : Prop :=
  request.authorization=some ("Bearer "++server.token.text)

theorem bearer_eq_some (request : HttpRequest) (candidate : String) :
    bearer request=some candidate ↔ request.authorization=some ("Bearer "++candidate) := by
  unfold bearer
  rw [Option.bind_eq_some_iff]
  constructor
  · intro h
    obtain ⟨value,header,stripped⟩ := h
    rw [header,(Cut.stripPrefix_eq_some _ _ _).mp stripped]
  · intro header
    exact ⟨_,header,(Cut.stripPrefix_eq_some _ _ _).mpr rfl⟩

/-- Only requests with the token are admitted. -/
theorem carriesToken_of_checkMutation {request : HttpRequest} {mutation : MutationRequest} {reason : Reason}
    (admitted : server.checkMutation request=.ok (mutation,reason)) : server.CarriesToken request := by
  unfold checkMutation at admitted
  cases here : bearer request with
  | none =>
    rw [here] at admitted
    cases admitted
  | some candidate =>
    simp only [here] at admitted
    split_ifs at admitted with refused
    have matched := Bool.not_eq_false _ ▸ refused
    have same := (server.token.bearerMatches_iff candidate).mp matched
    rw [CarriesToken,← same]
    exact (bearer_eq_some request candidate).mp here

theorem onlyCalls_routeMutation (request : HttpRequest)
    (fine : server.CarriesToken request → ∀call,ok call) :
    OnlyCalls ok (server.routeMutation request) := by
  unfold routeMutation routeMutationWithServiceActor
  cases admitted : server.checkMutation request with
  | error response => exact only_pure response
  | ok granted =>
    obtain ⟨mutation,reason⟩ := granted
    have every := fine (server.carriesToken_of_checkMutation admitted)
    refine Only.ite _ (fun _ => ?_) fun _ => Only.ite _ (fun _ => ?_) fun _ => ?_
    · exact onlyCalls_routeCooperativeReload _ _ _ _ fun _ _ => every _
    · cases mutation.requestId with
      | none => exact only_pure _
      | some requestId =>
        exact Only.bind (onlyCalls_requestShutdown _ (every _)) fun _ => only_pure _
    · exact server.onlyCalls_serveMutation _ fun _ _ _ => every _

/-- All conditions under which a dashboard request is forwarded. -/
structure DashboardAuthorized (peer address : SocketAddr) (request : HttpRequest) : Prop where
  loopbackPeer : peer.ip.isLoopback=true
  loopbackAddress : address.ip.isLoopback=true
  origin : ∃host∈validHosts address,request.host=some host ∧
    request.origin=some (sameOrigin host)
  contentType : request.contentType=some "application/json"
  token : request.dashboardToken=some (server.dashboardToken address).text

/-- The request asks for this action on this service through the dashboard. -/
def DashboardTarget (request : HttpRequest) (serviceId : String) (action : ControlAction) : Prop :=
  ∃target,request.target="/dashboard"++target ∧
    parseMutationTarget target=some (serviceId,action)

theorem dashboardMutation_ok {host : String} {address : SocketAddr}
    {request forwarded : HttpRequest}
    (accepted : server.dashboardMutation host address request=.ok forwarded) :
    request.origin=some (sameOrigin host) ∧ request.contentType=some "application/json" ∧
      request.dashboardToken=some (server.dashboardToken address).text ∧
      ∃target requestId serviceId action,request.target="/dashboard"++target ∧
        parseMutationTarget target=some (serviceId,action) ∧
        forwarded=server.forwarded request target requestId := by
  unfold dashboardMutation at accepted
  cases stripped : Cut.stripPrefix "/dashboard" request.target with
  | none =>
    rw [stripped] at accepted
    cases accepted
  | some target =>
    simp only [stripped] at accepted
    split_ifs at accepted with unknown method origin contentType token
    have named := (Cut.stripPrefix_eq_some _ _ _).mp stripped
    obtain ⟨⟨serviceId,action⟩,parsed⟩ := Option.ne_none_iff_exists'.mp
      (Option.isNone_iff_eq_none.not.mp unknown)
    have secret : request.dashboardToken=some (server.dashboardToken address).text := by
      cases here : request.dashboardToken with
      | none =>
        rw [here] at token
        cases token
      | some candidate =>
        rw [here] at token
        rw [((server.dashboardToken address).bearerMatches_iff candidate).mp token]
    refine ⟨not_not.mp origin,not_not.mp contentType,secret,?_⟩
    cases decoded : server.decodeDashboardMutation request.body with
    | none =>
      rw [decoded] at accepted
      cases accepted
    | some requestId =>
      simp only [decoded] at accepted
      split_ifs at accepted
      cases accepted
      exact ⟨target,requestId,serviceId,action,named,parsed,rfl⟩

theorem parseMutationTarget_reload : parseMutationTarget reloadTarget=none := by decide

theorem parseMutationTarget_shutdown : parseMutationTarget shutdownTarget=none := by decide

theorem ne_of_parsed {target other serviceId : String} {action : ControlAction}
    (parsed : parseMutationTarget target=some (serviceId,action))
    (unknown : parseMutationTarget other=none) : target≠other := by
  intro same
  rw [same,unknown] at parsed
  cases parsed

/-- The dashboard mutates the service that its target names, in the name of the user. -/
theorem onlyCalls_dashboardControlResponse (peer address : SocketAddr) (request : HttpRequest)
    (fine : server.DashboardAuthorized peer address request → ∀serviceId action reason,
      DashboardTarget request serviceId action → ok (.mutate action serviceId .userUi reason)) :
    OnlyCalls ok (server.dashboardControlResponse peer address request) := by
  unfold dashboardControlResponse
  cases host : request.host with
  | none => exact only_pure _
  | some host' =>
    refine Only.ite _ (fun _ => only_pure _) fun near => Only.ite _ (fun _ => only_pure _) fun _ =>
      Only.ite _ (fun _ => only_pure _) fun _ => ?_
    simp only [not_or,Bool.not_eq_false,not_not] at near
    obtain ⟨loopback,here,valid⟩ := near
    cases accepted : server.dashboardMutation host' address request with
    | error response => exact only_pure response
    | ok forwarded =>
      obtain ⟨origin,contentType,token,target,requestId,serviceId,action,named,parsed,rfl⟩ :=
        server.dashboardMutation_ok accepted
      have authorized : server.DashboardAuthorized peer address request :=
        ⟨loopback,here,⟨host',valid,host,origin⟩,contentType,token⟩
      show OnlyCalls ok (server.routeMutationWithServiceActor none
        (server.forwarded request target requestId) (some .userUi))
      unfold routeMutationWithServiceActor
      cases server.checkMutation (server.forwarded request target requestId) with
      | error response => exact only_pure response
      | ok granted =>
        obtain ⟨mutation,reason⟩ := granted
        have other := ne_of_parsed parsed parseMutationTarget_reload
        have other' := ne_of_parsed parsed parseMutationTarget_shutdown
        refine Only.ite _ (fun same => absurd same other) fun _ =>
          Only.ite _ (fun same => absurd same other') fun _ => ?_
        apply server.onlyCalls_serveMutation
        intro action' serviceId' parsed'
        exact fine authorized serviceId' action' reason ⟨target,named,parsed'⟩

section ReadOnly

theorem onlyCalls_guarded (request : HttpRequest) (view : κ → Response) :
    OnlyCalls ok (server.guarded request view) :=
  Only.ite _ (fun _ => only_pure _) fun _ => Only.bind only_get fun _ => only_pure _

theorem onlyCalls_routeGet (request : HttpRequest) : OnlyCalls ok (server.routeGet request) := by
  unfold routeGet
  have shown (f : _ → Response) : OnlyCalls ok (do
      pure (f (← (onControl server.control.snapshots : Serve σ κ _)))) :=
    Only.bind (onlyCalls_onControl _) fun _ => only_pure _
  refine Only.ite _ (fun _ => only_pure _) fun _ => Only.ite _ (fun _ => shown _) fun _ =>
    Only.ite _ (fun _ => server.onlyCalls_guarded _ _) fun _ =>
    Only.ite _ (fun _ => server.onlyCalls_guarded _ _) fun _ =>
    Only.ite _ (fun _ => server.onlyCalls_guarded _ _) fun _ => ?_
  cases parseCooperativeOperationTarget request.target with
  | some requestId => exact server.onlyCalls_guarded _ _
  | none =>
    cases parseEventsTarget request.target with
    | some page => exact server.onlyCalls_guarded _ _
    | none =>
      cases parseLogsTarget request.target with
      | some asked => exact server.onlyCalls_guarded _ _
      | none =>
        cases Cut.stripPrefix "/v1/services/" request.target with
        | none => exact only_pure _
        | some serviceId => exact Only.ite _ (fun _ => only_pure _) fun _ => shown _

theorem onlyCalls_routeMcp (request : HttpRequest) : OnlyCalls ok (server.routeMcp request) := by
  unfold routeMcp
  refine Only.ite _ (fun _ => only_pure _) fun _ => Only.ite _ (fun _ => only_pure _) fun _ =>
    Only.ite _ (fun _ => only_pure _) fun _ => Only.ite _ (fun _ => only_pure _) fun _ =>
    Only.ite _ (fun _ => only_pure _) fun _ => Only.ite _ (fun _ => only_pure _) fun _ =>
    Only.ite _ (fun _ => only_pure _) fun _ => ?_
  cases server.views.mcpMessage request.body with
  | direct response => exact only_pure _
  | services respond => exact Only.bind (onlyCalls_onControl _) fun _ => only_pure _

end ReadOnly

theorem onlyCalls_route (request : HttpRequest)
    (fine : server.CarriesToken request → ∀call,ok call) :
    OnlyCalls ok (server.route request) := by
  unfold route
  cases server.dashboardAsset request.target with
  | some asset => exact Only.ite _ (fun _ => only_pure _) fun _ => only_pure _
  | none =>
    exact Only.ite _ (fun _ => server.onlyCalls_routeMcp request) fun _ =>
      Only.ite _ (fun _ => server.onlyCalls_routeGet request) fun _ =>
      Only.ite _ (fun _ => server.onlyCalls_routeMutation request fine) fun _ => only_pure _

theorem onlyCalls_answerRequest (peer : SocketAddr) (localAddress : Except String SocketAddr)
    (stop : Bool) (request : HttpRequest)
    (bearer : server.CarriesToken request → ∀call,ok call)
    (dashboard : ∀address,localAddress=.ok address →
      server.DashboardAuthorized peer address request → ∀serviceId action reason,
        DashboardTarget request serviceId action → ok (.mutate action serviceId .userUi reason)) :
    OnlyCalls ok (server.answerRequest peer localAddress stop request) := by
  unfold answerRequest
  refine Only.ite _ (fun _ => only_pure _) fun _ => Only.ite _ (fun _ => ?_) fun _ => ?_
  · cases localAddress with
    | error error => exact only_pure _
    | ok address =>
      have inner := server.onlyCalls_dashboardControlResponse peer address request
        (dashboard address rfl)
      exact Only.bind (Only.bind inner fun _ => only_pure _) fun _ => only_pure _
  · have routed := server.onlyCalls_route request bearer
    cases liveLogRequest request with
    | some asked => exact only_pure _
    | none =>
      exact Only.ite _ (fun _ => only_pure _) fun _ =>
        Only.ite _ (fun _ => Only.bind routed fun _ => only_pure _) fun _ =>
        Only.bind routed.withScratch fun _ => only_pure _

/-- A connection causes a call only with the token itself, or with everything the dashboard asks
for, and then the call is an action on the service that the request names. -/
theorem handleConnection_authorized (connection : Connection) (stop : Bool)
    (s : ServerState σ κ) :
    ∃calls,(final ((server.handleConnection connection stop).run s)).calls=s.calls++calls ∧
      ∀call∈calls,∃request,readRequest connection.reads=.ok request ∧
        (server.CarriesToken request ∨
          ∃address,connection.localAddress=.ok address ∧
            server.DashboardAuthorized connection.peer address request ∧
            ∃serviceId action reason,DashboardTarget request serviceId action ∧
              call=.mutate action serviceId .userUi reason) := by
  unfold handleConnection
  cases read : readRequest connection.reads with
  | error error => exact ⟨[],(List.append_nil _).symm,by simp⟩
  | ok request =>
    apply server.onlyCalls_answerRequest
    · intro carries call
      exact ⟨request,rfl,.inl carries⟩
    · intro address here authorized serviceId action reason target
      exact ⟨request,rfl,.inr ⟨address,here,authorized,serviceId,action,reason,target,rfl⟩⟩

end ControlServer

end AkuSupervisor
