import AkuSupervisor.Adapters.ControlAuthorization

namespace AkuSupervisor

open StateError Logged

/-- A service mutation under way, and whether it came through the dashboard. -/
structure Presented where
  mutation : ServiceMutation
  dashboard : Bool
  deriving DecidableEq

/-- The answer as it is written back. -/
def Presented.deliver (self : Presented) (response : Response) : Response :=
  if self.dashboard then { response with dashboardSecurityHeaders := true } else response

def ServerCall.mutates : ServerCall → Bool
  | .mutate _ _ _ _ => true
  | _ => false

namespace ControlServer

variable {σ κ : Type} (server : ControlServer σ κ)

/-- The mutation of an admitted request. -/
def admitted (request : HttpRequest) (serviceActor : Option Actor) : Option ServiceMutation :=
  match server.checkMutation request with
  | .error _ => none
  | .ok (mutation,reason) => some ⟨mutation.requestId,request.target,request.body,
      serviceActor.getD mutation.actor.domainActor,reason⟩

/-- The request that the dashboard forwards, if it accepts this one. -/
def dashboardForwarded (peer address : SocketAddr) (request : HttpRequest) : Option HttpRequest :=
  match request.host with
  | none => none
  | some host =>
    if peer.ip.isLoopback=false ∨ address.ip.isLoopback=false ∨ host∉validHosts address ∨
        request.origin.any (· ≠ sameOrigin host) ∨ request.target=sessionTarget then none
    else (server.dashboardMutation host address request).toOption

/-- The service mutation that a request presents to the shared store. -/
def presented (peer : SocketAddr) (localAddress : Except String SocketAddr)
    (request : HttpRequest) : Option Presented :=
  if Cut.startsWith "/dashboard/" request.target=true then do
    let address ← localAddress.toOption
    let forwarded ← server.dashboardForwarded peer address request
    return ⟨← server.admitted forwarded (some .userUi),true⟩
  else if request.method="POST" ∧ Cut.startsWith "/v1/services/" request.target=true then do
    return ⟨← server.admitted request none,false⟩
  else none

/-- A part of a handler that neither runs a mutation nor touches the store. -/
def Passive {α : Type} (x : Serve σ κ α) : Prop :=
  OnlyCalls (fun call => call.mutates=false) x ∧
    ∀s,(final (x.run s)).idempotency=s.idempotency

theorem passive_pure {α : Type} (a : α) : Passive (pure a : Serve σ κ α) :=
  ⟨only_pure a,fun _ => rfl⟩

theorem Passive.bind {α β : Type} {x : Serve σ κ α} {f : α → Serve σ κ β} (first : Passive x)
    (next : ∀a,Passive (f a)) : Passive (x >>= f) := by
  refine ⟨first.1.bind fun a => (next a).1,fun s => ?_⟩
  have kept := first.2 s
  rw [EStateM.run_bind]
  cases run : x.run s with
  | error error t =>
    rw [run] at kept
    exact kept
  | ok a t =>
    rw [run] at kept
    exact ((next a).2 t).trans kept

theorem Passive.withScratch {α : Type} {x : Serve σ κ α}
    (only : OnlyCalls (fun call => call.mutates=false) x) : Passive (withScratch x) := by
  refine ⟨only.withScratch,fun s => ?_⟩
  show (final (AkuSupervisor.withScratch x s)).idempotency=s.idempotency
  unfold AkuSupervisor.withScratch
  cases x.run { s with idempotency := .empty } <;> rfl

/-- A mutation for no service only looks into the store. -/
theorem onlyCalls_serveMutation_unknown (mutation : ServiceMutation)
    (unknown : parseMutationTarget mutation.target=none) :
    OnlyCalls (fun call => call.mutates=false) (server.serveMutation mutation) := by
  apply server.onlyCalls_serveMutation
  intro action serviceId parsed
  rw [unknown] at parsed
  cases parsed

theorem onlyCalls_routeMutation_unknown (request : HttpRequest)
    (unknown : parseMutationTarget request.target=none) :
    OnlyCalls (fun call => call.mutates=false) (server.routeMutation request) := by
  unfold routeMutation routeMutationWithServiceActor
  cases server.checkMutation request with
  | error response => exact only_pure response
  | ok granted =>
    obtain ⟨mutation,reason⟩ := granted
    refine Only.ite _ (fun _ => ?_) fun _ => Only.ite _ (fun _ => ?_) fun _ => ?_
    · exact onlyCalls_routeCooperativeReload _ _ _ _ fun _ _ => rfl
    · cases mutation.requestId with
      | none => exact only_pure _
      | some requestId =>
        exact Only.bind (onlyCalls_requestShutdown _ rfl) fun _ => only_pure _
    · exact server.onlyCalls_serveMutation_unknown _ unknown

theorem parseMutationTarget_other {target : String}
    (other : ¬Cut.startsWith "/v1/services/" target=true) : parseMutationTarget target=none := by
  by_contra parsed
  obtain ⟨⟨serviceId,action⟩,here⟩ := Option.ne_none_iff_exists'.mp parsed
  obtain ⟨-,suffix,named,-⟩ := parseMutationTarget_eq_some here
  exact other ((Cut.startsWith_iff _ _).mpr ⟨suffix,named⟩)

theorem onlyCalls_route_unknown (request : HttpRequest)
    (unknown : request.method="POST" → parseMutationTarget request.target=none) :
    OnlyCalls (fun call => call.mutates=false) (server.route request) := by
  unfold route
  cases server.dashboardAsset request.target with
  | some asset => exact Only.ite _ (fun _ => only_pure _) fun _ => only_pure _
  | none =>
    exact Only.ite _ (fun _ => server.onlyCalls_routeMcp request) fun _ =>
      Only.ite _ (fun _ => server.onlyCalls_routeGet request) fun _ =>
      Only.ite _ (fun post => server.onlyCalls_routeMutation_unknown request (unknown post))
        fun _ => only_pure _

/-- An admitted mutation for a target under the services goes to the store. -/
theorem routeMutationWithServiceActor_service (cooperative : Option (CooperativeOperations κ))
    (request : HttpRequest) (serviceActor : Option Actor)
    (service : Cut.startsWith "/v1/services/" request.target=true) :
    server.routeMutationWithServiceActor cooperative request serviceActor=
      match server.checkMutation request with
      | .error response => pure response
      | .ok (mutation,reason) => server.serveMutation ⟨mutation.requestId,request.target,
          request.body,serviceActor.getD mutation.actor.domainActor,reason⟩ := by
  have other : request.target≠reloadTarget := by
    intro same
    rw [same] at service
    exact absurd service (by decide)
  have other' : request.target≠shutdownTarget := by
    intro same
    rw [same] at service
    exact absurd service (by decide)
  unfold routeMutationWithServiceActor
  cases server.checkMutation request with
  | error response => rfl
  | ok granted =>
    obtain ⟨mutation,reason⟩ := granted
    simp only [if_neg other,if_neg other']

theorem not_asset {target : String} (service : Cut.startsWith "/v1/services/" target=true) :
    server.dashboardAsset target=none ∧ target≠mcpEndpoint := by
  obtain ⟨rest,rfl⟩ := (Cut.startsWith_iff _ _).mp service
  have long (short : String) (bound : short.length<13) : "/v1/services/"++rest≠short := by
    intro same
    have length := congrArg String.length same
    rw [String.length_append] at length
    have prefix_length : "/v1/services/".length=13 := by decide
    omega
  constructor
  · unfold dashboardAsset
    split
    · exact absurd ‹_› (long "/" (by decide))
    · exact absurd ‹_› (long "/app.css" (by decide))
    · exact absurd ‹_› (long "/app.js" (by decide))
    · exact absurd ‹_› (long "/model.js" (by decide))
    · exact absurd ‹_› (long "/view.js" (by decide))
    · exact absurd ‹_› (long "/api.js" (by decide))
    · rfl
  · exact long mcpEndpoint (by decide)

theorem route_service (request : HttpRequest) (post : request.method="POST")
    (service : Cut.startsWith "/v1/services/" request.target=true) :
    server.route request=server.routeMutation request := by
  obtain ⟨asset,mcp⟩ := server.not_asset service
  have other : request.method≠"GET" := by
    rw [post]
    decide
  unfold route
  rw [asset]
  simp only [if_neg mcp,if_neg other,if_pos post]

/-- An admitted mutation is served from the store, any other request is refused. -/
theorem routeMutation_admitted (cooperative : Option (CooperativeOperations κ))
    (request : HttpRequest) (serviceActor : Option Actor)
    (service : Cut.startsWith "/v1/services/" request.target=true) :
    (∃mutation,server.admitted request serviceActor=some mutation ∧
      server.routeMutationWithServiceActor cooperative request serviceActor=
        server.serveMutation mutation) ∨
    ∃response,server.admitted request serviceActor=none ∧
      server.routeMutationWithServiceActor cooperative request serviceActor=pure response := by
  rw [server.routeMutationWithServiceActor_service _ _ _ service]
  unfold admitted
  cases server.checkMutation request with
  | error response => exact .inr ⟨response,rfl,rfl⟩
  | ok granted => exact .inl ⟨_,rfl,rfl⟩

/-- The dashboard forwards what it accepts, and refuses everything else at once. -/
theorem dashboardControlResponse_cases (peer address : SocketAddr) (request : HttpRequest) :
    (∃forwarded,server.dashboardForwarded peer address request=some forwarded ∧
      Cut.startsWith "/v1/services/" forwarded.target=true ∧
      server.dashboardControlResponse peer address request=
        server.routeMutationWithServiceActor none forwarded (some .userUi)) ∨
    ∃response,server.dashboardForwarded peer address request=none ∧
      server.dashboardControlResponse peer address request=pure response := by
  unfold dashboardForwarded dashboardControlResponse
  cases request.host with
  | none => exact .inr ⟨_,rfl,rfl⟩
  | some host =>
    by_cases far : peer.ip.isLoopback=false ∨ address.ip.isLoopback=false ∨ host∉validHosts address
    · refine .inr ⟨routeNotFound,if_pos ?_,if_pos far⟩
      rcases far with peer|address|host
      · exact .inl peer
      · exact .inr (.inl address)
      · exact .inr (.inr (.inl host))
    · obtain ⟨near,here,valid⟩ := not_or.mp far |>.imp id not_or.mp
      by_cases foreign : request.origin.any (· ≠ sameOrigin host)=true
      · refine .inr ⟨errorResponse 403 "origin_forbidden"
          "same-origin dashboard request required",if_pos (.inr (.inr (.inr (.inl foreign)))),?_⟩
        simp only [if_neg far,if_pos foreign]
      · by_cases session : request.target=sessionTarget
        · refine .inr ⟨server.sessionResponse address request,
            if_pos (.inr (.inr (.inr (.inr session)))),?_⟩
          simp only [if_neg far,if_neg foreign,if_pos session]
        · have accepted : ¬(peer.ip.isLoopback=false ∨ address.ip.isLoopback=false ∨
              host∉validHosts address ∨ request.origin.any (· ≠ sameOrigin host)=true ∨
              request.target=sessionTarget) := by
            simp only [not_or]
            exact ⟨near,here,valid,foreign,session⟩
          simp only [if_neg accepted,if_neg far,if_neg foreign,if_neg session]
          cases checked : server.dashboardMutation host address request with
          | error response => exact .inr ⟨response,rfl,rfl⟩
          | ok forwarded =>
            refine .inl ⟨forwarded,rfl,?_,rfl⟩
            obtain ⟨-,-,-,target,requestId,serviceId,action,-,parsed,rfl⟩ :=
              server.dashboardMutation_ok checked
            obtain ⟨-,suffix,named,-⟩ := parseMutationTarget_eq_some parsed
            exact (Cut.startsWith_iff _ _).mpr ⟨suffix,named⟩

theorem run_serveMutation (mutation : ServiceMutation) (s : ServerState σ κ) :
    (server.serveMutation mutation).run s=
      match mutation.decision s.idempotency with
      | .answer response => .ok response s
      | .run serviceId action =>
        let result := (server.control.mutate action serviceId mutation.actor mutation.reason).run
          s.control
        let response := mutationResponse serviceId (answer result)
        let called := { s with
          control := final result
          calls := s.calls++[.mutate action serviceId mutation.actor mutation.reason] }
        match mutation.remember s.idempotency response with
        | none => .error .stuck called
        | some store => .ok response { called with idempotency := store } := by
  unfold serveMutation
  rw [EStateM.run_bind,EStateM.run_get]
  dsimp only
  cases mutation.decision s.idempotency with
  | answer response => rfl
  | run serviceId action =>
    have ran : (server.mutate action serviceId mutation.actor mutation.reason).run s=
        .ok (answer ((server.control.mutate action serviceId mutation.actor
          mutation.reason).run s.control))
          { s with
            control := final ((server.control.mutate action serviceId mutation.actor
              mutation.reason).run s.control)
            calls := s.calls++[.mutate action serviceId mutation.actor mutation.reason] } := rfl
    simp only [EStateM.run_bind,ran,EStateM.run_get]
    cases mutation.remember s.idempotency (mutationResponse serviceId
        (answer ((server.control.mutate action serviceId mutation.actor
          mutation.reason).run s.control))) <;> rfl

/-- A presented mutation is served from the shared store. -/
theorem answerRequest_presented (peer : SocketAddr) (localAddress : Except String SocketAddr)
    (request : HttpRequest) (p : Presented)
    (presented : server.presented peer localAddress request=some p) :
    server.answerRequest peer localAddress false request=
      (fun response => .ok (.response (p.deliver response))) <$>
        server.serveMutation p.mutation := by
  unfold ControlServer.presented at presented
  unfold answerRequest
  rw [if_neg Bool.false_ne_true]
  by_cases dashboard : Cut.startsWith "/dashboard/" request.target=true
  · rw [if_pos dashboard] at presented
    rw [if_pos dashboard]
    obtain ⟨address,here,presented⟩ := Option.bind_eq_some_iff.mp presented
    obtain ⟨forwarded,accepted,presented⟩ := Option.bind_eq_some_iff.mp presented
    obtain ⟨mutation,admitted,presented⟩ := Option.bind_eq_some_iff.mp presented
    cases presented
    cases localAddress with
    | error error => cases here
    | ok address' =>
      cases here
      rcases server.dashboardControlResponse_cases peer address request with
        ⟨forwarded',accepted',service,routed⟩|⟨response,refused,-⟩
      · cases accepted.symm.trans accepted'
        rcases server.routeMutation_admitted none forwarded (some .userUi) service with
          ⟨mutation',admitted',served⟩|⟨response,refused,-⟩
        · cases admitted.symm.trans admitted'
          simp only [routeDashboardControl,routed,served,bind_assoc,pure_bind,map_eq_pure_bind]
          rfl
        · rw [admitted] at refused
          cases refused
      · rw [accepted] at refused
        cases refused
  · rw [if_neg dashboard] at presented
    rw [if_neg dashboard]
    by_cases service : request.method="POST" ∧ Cut.startsWith "/v1/services/" request.target=true
    · rw [if_pos service] at presented
      obtain ⟨mutation,admitted,presented⟩ := Option.bind_eq_some_iff.mp presented
      cases presented
      have other : liveLogRequest request=none := by
        rw [liveLogRequest,if_neg (by rw [service.1]; decide)]
      have asset : ¬((server.dashboardAsset request.target).isSome=true ∧
          server.dashboardRequestIsLoopback peer request.host=false) := by
        rw [(server.not_asset service.2).1]
        simp
      rw [other]
      simp only [if_neg asset,if_pos service,server.route_service request service.1 service.2,
        routeMutation]
      rcases server.routeMutation_admitted server.cooperative request none service.2 with
        ⟨mutation',admitted',served⟩|⟨response,refused,-⟩
      · cases admitted.symm.trans admitted'
        rw [served,map_eq_pure_bind]
        rfl
      · rw [admitted] at refused
        cases refused
    · rw [if_neg service] at presented
      cases presented

/-- Every other request leaves the shared store alone and runs no mutation. -/
theorem answerRequest_other (peer : SocketAddr) (localAddress : Except String SocketAddr)
    (stop : Bool) (request : HttpRequest)
    (other : stop=true ∨ server.presented peer localAddress request=none) :
    Passive (server.answerRequest peer localAddress stop request) := by
  unfold ControlServer.presented at other
  unfold answerRequest
  by_cases stopped : stop=true
  · rw [if_pos stopped]
    exact passive_pure _
  · have none_here := other.resolve_left stopped
    rw [if_neg stopped]
    by_cases dashboard : Cut.startsWith "/dashboard/" request.target=true
    · rw [if_pos dashboard] at none_here
      rw [if_pos dashboard]
      cases localAddress with
      | error error => exact passive_pure _
      | ok address =>
        refine Passive.bind ?_ fun _ => passive_pure _
        refine Passive.bind ?_ fun _ => passive_pure _
        rcases server.dashboardControlResponse_cases peer address request with
          ⟨forwarded,accepted,service,routed⟩|⟨response,-,refused⟩
        · rcases server.routeMutation_admitted none forwarded (some .userUi) service with
            ⟨mutation,admitted,-⟩|⟨response,-,refused⟩
          · simp [Except.toOption,accepted,admitted] at none_here
          · rw [routed,refused]
            exact passive_pure _
        · rw [refused]
          exact passive_pure _
    · rw [if_neg dashboard] at none_here
      rw [if_neg dashboard]
      cases liveLogRequest request with
      | some asked => exact passive_pure _
      | none =>
        dsimp only
        split_ifs with hidden service
        · exact passive_pure _
        · rw [if_pos service] at none_here
          refine Passive.bind ?_ fun _ => passive_pure _
          rw [server.route_service request service.1 service.2]
          rcases server.routeMutation_admitted server.cooperative request none service.2 with
            ⟨mutation,admitted,-⟩|⟨response,-,refused⟩
          · simp [admitted] at none_here
          · rw [routeMutation,refused]
            exact passive_pure _
        · refine Passive.bind (Passive.withScratch ?_) fun _ => passive_pure _
          apply server.onlyCalls_route_unknown
          intro post
          apply parseMutationTarget_other
          exact fun target => service ⟨post,target⟩

end ControlServer

end AkuSupervisor
