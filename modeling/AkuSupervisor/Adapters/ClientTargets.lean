import Mathlib.Algebra.Group.Nat.Defs
import AkuSupervisor.Adapters.Config
import AkuSupervisor.Adapters.MutationRun
import AkuSupervisor.Adapters.RemoteCommand

namespace AkuSupervisor

/-- What the control server can be asked to do. -/
inductive ControlOperation where
  | services
  | identity
  | registry
  | events (after limit : Nat)
  | logTail (serviceId : String) (stream : LogStream) (tail : Nat)
  | liveLogs (serviceId : String) (selection : LiveLogSelection) (tail : Nat)
      (cursor : Option LiveLogCursor)
  | mutate (serviceId : String) (action : ControlAction) (mutation : MutationRequest)
  | reload (mutation : MutationRequest)
  | extensionOperation (requestId : String)
  | shutdown (mutation : MutationRequest)
  deriving DecidableEq

/-- The answer that the store holds for the request ID, if it holds one. -/
def ServiceMutation.held (self : ServiceMutation) (store : IdempotencyStore) : Option Response :=
  match self.requestId with
  | none => none
  | some requestId =>
    match IdempotencyStore.lookup store requestId self.target self.body with
    | .replay response => some response
    | .conflict => some idempotencyConflict
    | .miss => none

namespace ControlServer

variable {σ κ : Type} (server : ControlServer σ κ)

def eventsResponse : Except String String → Response
  | .ok events => jsonResponse 200 (JsonText.object [("events",events)])
  | .error error => errorResponse 500 "journal_unavailable" error

/-- Runs the action on the service, unless the request ID has been answered before. -/
def mutateService (serviceId : String) (action : ControlAction) (mutation : ServiceMutation) :
    Serve σ κ Response := do
  match mutation.held (← get).idempotency with
  | some response => pure response
  | none =>
    let result ← server.mutate action serviceId mutation.actor mutation.reason
    let response := mutationResponse serviceId result
    match mutation.remember (← get).idempotency response with
    | none => throw .stuck
    | some store =>
      modify fun s => { s with idempotency := store }
      pure response

def shutDown (request : SupervisorShutdownRequest) : Serve σ κ Response := do
  let result ← requestShutdown request
  pure (server.shutdownResponse request.requestId result)

/-- Goes on with the reason of a mutation, if it is one. -/
def withReason (mutation : MutationRequest) (run : Reason → Serve σ κ Response) :
    Serve σ κ Response :=
  match Reason.new mutation.reason with
  | .error error => pure (errorResponse 400 "invalid_reason" error.display)
  | .ok reason => run reason

def shutdownIdRequired : Response :=
  errorResponse 400 "request_id_required"
    "Supervisor shutdown requires requestId for idempotency and audit"

/-- What the operation answers to a bearer of the token. Target and body of the request are only
compared with those under its request ID. -/
def perform (target : String) (body : List UInt8) :
    ControlOperation → Serve σ κ ConnectionAnswer
  | .services => do pure (.response (server.servicesResponse (← onControl server.control.snapshots)))
  | .identity =>
    pure (.response (jsonResponse 200 (JsonText.object [("instance",server.views.identity)])))
  | .registry =>
    pure (.response (jsonResponse 200 (JsonText.object [("registry",server.views.registry)])))
  | .events after limit => pure (.response (eventsResponse (server.views.events after limit)))
  | .logTail serviceId stream tail =>
    pure (.response (logResponse (server.views.logTail serviceId stream tail)))
  | .liveLogs serviceId selection tail cursor => pure
    (match server.views.subscribe serviceId selection tail cursor with
    | .ok _ => .liveLog serviceId selection tail cursor
    | .error (.serviceNotFound _) =>
      .response (errorResponse 404 "service_not_found" "unknown service")
    | .error (.tooManySubscribers _) => .response (errorResponse 409 "live_log_subscriber_limit"
        "too many live-log subscribers for service")
    | .error error => .response (errorResponse 500 "log_unavailable" error.display))
  | .mutate serviceId action mutation => .response <$> withReason mutation fun reason =>
      server.mutateService serviceId action
        ⟨mutation.requestId,target,body,mutation.actor.domainActor,reason⟩
  | .reload mutation => .response <$> withReason mutation fun reason =>
      routeCooperativeReload server.cooperative mutation.actor reason mutation.requestId
  | .extensionOperation requestId => do
    pure (.response (server.operationRequestResponse requestId (← get).cooperative))
  | .shutdown mutation => .response <$> withReason mutation fun reason =>
      match mutation.requestId with
      | none => pure shutdownIdRequired
      | some requestId => server.shutDown ⟨mutation.actor.domainActor,reason,requestId⟩

end ControlServer

theorem ServiceMutation.decision_of_target {self : ServiceMutation} {serviceId : String}
    {action : ControlAction} (parsed : parseMutationTarget self.target=some (serviceId,action))
    (store : IdempotencyStore) : self.decision store=
      match self.held store with
      | some response => .answer response
      | none => .run serviceId action := by
  unfold decision held
  cases self.requestId with
  | none => simp [parsed]
  | some requestId =>
    cases found : IdempotencyStore.lookup store requestId self.target self.body <;>
      simp [found,parsed]

/-- What a client asks for: a remote command, or the live logs of a service. -/
inductive ClientRequest where
  | remote (command : RemoteCommand)
  | liveLogs (serviceId : String) (selection : LiveLogSelection) (tail : Nat)
      (cursor : Option LiveLogCursor)
  deriving DecidableEq

/-- The method, the target and the body that are sent for it. -/
def ClientRequest.written : ClientRequest → Option (String × String × Option String)
  | .remote command => (prepareRemoteRequest command).map fun prepared =>
      (prepared.method,prepared.target,prepared.body)
  | .liveLogs serviceId selection tail cursor =>
    some ("GET",liveLogTarget serviceId selection.label tail cursor,none)

/-- The mutation that it sends, if it is one. -/
def ClientRequest.mutation : ClientRequest → Option MutationRequest
  | .remote (.mutate _ _ reason actor requestId) => some ⟨actor,reason,requestId⟩
  | .remote (.extensionReload reason actor requestId _)
  | .remote (.supervisorShutdown reason actor requestId) => some ⟨actor,reason,some requestId⟩
  | _ => none

/-- The operation that it stands for, with the documented bounds for limits and tails. -/
def ClientRequest.operation : ClientRequest → Option ControlOperation
  | .remote command =>
    match command with
    | .status | .simpleStatus => some .services
    | .instanceStatus => some .identity
    | .registryStatus => some .registry
    | .events after limit => some (.events after (clamp 1 200 limit))
    | .logs serviceId stream tail => some (.logTail serviceId stream (clamp 1 1000 tail))
    | .mutate _ [] _ _ _ => none
    | .mutate action (serviceId::_) reason actor requestId =>
      some (.mutate serviceId action ⟨actor,reason,requestId⟩)
    | .extensionReload reason actor requestId _ =>
      some (.reload ⟨actor,reason,some requestId⟩)
    | .extensionStatus requestId => some (.extensionOperation requestId)
    | .supervisorShutdown reason actor requestId =>
      some (.shutdown ⟨actor,reason,some requestId⟩)
  | .liveLogs serviceId selection tail cursor =>
    some (.liveLogs serviceId selection (clamp 0 1000 tail) cursor)

open SupervisorConfig in
/-- Numbers fit into 64 bits, service IDs are valid in a configuration, request IDs have passed the
check of the command line, and cursors name a hub instance. -/
def ClientRequest.Valid : ClientRequest → Prop
  | .remote command =>
    match command with
    | .status | .simpleStatus | .instanceStatus | .registryStatus => True
    | .events after limit => after < UInt64.size ∧ limit < UInt64.size
    | .logs serviceId _ tail => validServiceId serviceId=true ∧ tail < UInt64.size
    | .mutate _ serviceIds _ _ requestId =>
      (∀serviceId∈serviceIds,validServiceId serviceId=true) ∧
        ∀id∈requestId,validRequestId id=true
    | .extensionReload _ _ requestId _ | .extensionStatus requestId
    | .supervisorShutdown _ _ requestId => validRequestId requestId=true
  | .liveLogs serviceId _ tail cursor =>
    validServiceId serviceId=true ∧ tail < UInt64.size ∧
      ∀place∈cursor,validHubInstanceId place.hubInstanceId=true ∧
        place.sequence < UInt64.size

/-- The request comes with the token and has the given method, target and body. -/
structure Carries (token : RuntimeToken) (request : HttpRequest)
    (written : String × String × Option String) : Prop where
  method : request.method=written.1
  target : request.target=written.2.1
  body : request.body=TextLines.encode (written.2.2.getD "")
  authorization : request.authorization=some s!"Bearer {token.text}"

section Targets

theorem toString_text (text : String) : toString text=text := rfl

theorem logs_target (serviceId : String) (stream : LogStream) (tail : Nat) :
    s!"/v1/services/{serviceId}/logs?stream={stream.label}&tail={tail}"=
      "/v1/services/"++(serviceId++"/logs?"++
        queryText [("stream",stream.label),("tail",tail.repr)]) := by
  rw [queryText_cons,queryText_singleton]
  apply String.toList_inj.mp
  simp [toString_text]

theorem events_target (after limit : Nat) :
    s!"/v1/events?after={after}&limit={limit}"=
      "/v1/events"++("?"++queryText [("after",after.repr),("limit",limit.repr)]) := by
  rw [queryText_cons,queryText_singleton]
  apply String.toList_inj.mp
  simp [toString_text]

/-- The fields of a live-log query. -/
def liveLogFields (streamName : String) (tail : Nat) :
    Option LiveLogCursor → List (String × String)
  | none => [("stream",streamName),("tail",tail.repr)]
  | some cursor => [("stream",streamName),("tail",tail.repr),("afterHub",cursor.hubInstanceId),
      ("after",cursor.sequence.repr)]

theorem live_target (serviceId streamName : String) (tail : Nat) (cursor : Option LiveLogCursor) :
    liveLogTarget serviceId streamName tail cursor=
      "/v1/services/"++(serviceId++"/logs/live?"++
        queryText (liveLogFields streamName tail cursor)) := by
  cases cursor with
  | none =>
    show s!"/v1/services/{serviceId}/logs/live?stream={streamName}&tail={tail}"=_
    rw [liveLogFields,queryText_cons,queryText_singleton]
    apply String.toList_inj.mp
    simp [toString_text]
  | some cursor =>
    show s!"/v1/services/{serviceId}/logs/live?stream={streamName}&tail={tail}"++
      s!"&afterHub={cursor.hubInstanceId}&after={cursor.sequence}"=_
    rw [liveLogFields,queryText_cons,queryText_cons,queryText_cons,queryText_singleton]
    apply String.toList_inj.mp
    simp [toString_text]

theorem mutation_target (serviceId : String) (action : ControlAction) :
    s!"/v1/services/{serviceId}/{action.name}"="/v1/services/"++(serviceId++"/"++action.name) := by
  apply String.toList_inj.mp
  simp [toString_text]

theorem validServiceId_plain {serviceId : String}
    (valid : SupervisorConfig.validServiceId serviceId=true) :
    serviceId≠"" ∧ '/'∉serviceId.toList := by
  rw [SupervisorConfig.validServiceId,Bool.and_eq_true,decide_eq_true_eq] at valid
  refine ⟨valid.1,fun mem => ?_⟩
  have plain := List.all_eq_true.mp valid.2 '/' mem
  revert plain
  decide

theorem parse_label (stream : LogStream) : LogStream.parse stream.label=some stream := by
  cases stream <;> rfl

theorem parse_selection_label (selection : LiveLogSelection) :
    LiveLogSelection.parse selection.label=some selection := by
  cases selection <;> rfl

theorem utf8Size_digit {c : Char} (digit : c.isDigit=true) : c.utf8Size=1 := by
  have small : c.val ≤ 127 := by
    rw [Char.isDigit,Bool.and_eq_true,decide_eq_true_eq,decide_eq_true_eq] at digit
    exact UInt32.le_trans digit.2 (by decide)
  exact if_pos small

/-- The IDs that hubs get can be sent in a cursor. -/
theorem validHubInstanceId_new {processId unixTimeNs : Nat} (small : processId < 2^32)
    (later : unixTimeNs < 2^128) :
    validHubInstanceId (LiveLogHub.newInstanceId processId unixTimeNs)=true := by
  have chars : (LiveLogHub.newInstanceId processId unixTimeNs).toList=
      Nat.toDigits 10 processId ++ '-'::Nat.toDigits 10 unixTimeNs := by
    simp [LiveLogHub.newInstanceId,toString_text]
  have digit {n : Nat} {c : Char} (mem : c∈Nat.toDigits 10 n) : c.isDigit=true :=
    Nat.isDigit_of_mem_toDigits (by decide) (by decide) mem
  have each (c : Char) (mem : c∈(LiveLogHub.newInstanceId processId unixTimeNs).toList) :
      c.isDigit=true ∨ c = '-' := by
    rw [chars,List.mem_append,List.mem_cons] at mem
    obtain first | rfl | second := mem
    · exact .inl (digit first)
    · exact .inr rfl
    · exact .inl (digit second)
  have ascii (c : Char) (mem : c∈(LiveLogHub.newInstanceId processId unixTimeNs).toList) :
      c.utf8Size=1 := by
    obtain digit | rfl := each c mem
    · exact utf8Size_digit digit
    · decide
  have first : (Nat.toDigits 10 processId).length ≤ 10 :=
    (Nat.length_toDigits_le_iff (by decide) (by decide)).mpr (by omega)
  have second : (Nat.toDigits 10 unixTimeNs).length ≤ 39 :=
    (Nat.length_toDigits_le_iff (by decide) (by decide)).mpr (by omega)
  have short : (TextLines.encode (LiveLogHub.newInstanceId processId unixTimeNs)).length ≤ 128 := by
    rw [TextLines.length_encode ascii,chars,List.length_append,List.length_cons]
    omega
  have nonempty : LiveLogHub.newInstanceId processId unixTimeNs≠"" := by
    intro empty
    rw [empty] at chars
    simp at chars
  rw [validHubInstanceId,validToken,Bool.and_eq_true,Bool.and_eq_true,List.all_eq_true]
  refine ⟨⟨decide_eq_true nonempty,decide_eq_true short⟩,fun c mem => ?_⟩
  obtain digit | rfl := each c mem
  · simp [digit]
  · decide

theorem plain_label (stream : LogStream) (c : Char) (other : c∈['&','/']) :
    c∉stream.label.toList := by
  simp only [List.mem_cons,List.not_mem_nil,or_false] at other
  obtain rfl | rfl := other <;> cases stream <;> decide

theorem plain_selection_label (selection : LiveLogSelection) : '&'∉selection.label.toList := by
  cases selection <;> decide

theorem parseLogsTarget_text {serviceId : String} (stream : LogStream) {tail : Nat}
    (valid : SupervisorConfig.validServiceId serviceId=true) (fits : tail < UInt64.size) :
    parseLogsTarget ("/v1/services/"++(serviceId++"/logs?"++
        queryText [("stream",stream.label),("tail",tail.repr)]))=
      some (serviceId,stream,clamp 1 1000 tail) := by
  obtain ⟨some_id,plain⟩ := validServiceId_plain valid
  have fields : PlainFields [("stream",stream.label),("tail",tail.repr)] := by
    have label := plain_label stream '&' (by simp)
    have digits := not_mem_toDigits tail (by decide : Char.isDigit '&'=false)
    simp [PlainFields,label,digits]
  rw [parseLogsTarget,serviceQuery_text _ rfl some_id plain]
  simp only [Option.bind_eq_bind,Option.bind_some]
  rw [queryFields_text _ _ (by simp) fields]
  simp [parse_label,parseUsize_repr fits]

theorem parseEventsTarget_text {after limit : Nat} (fits : after < UInt64.size)
    (small : limit < UInt64.size) :
    parseEventsTarget ("/v1/events"++("?"++
        queryText [("after",after.repr),("limit",limit.repr)]))=
      some (after,clamp 1 200 limit) := by
  have fields : PlainFields [("after",after.repr),("limit",limit.repr)] := by
    have digits (n : Nat) := not_mem_toDigits n (by decide : Char.isDigit '&'=false)
    simp [PlainFields,digits]
  have asked : ¬"?"++queryText [("after",after.repr),("limit",limit.repr)]="" :=
    Cut.append_ne _ (by decide)
  rw [parseEventsTarget,Cut.stripPrefix_append]
  simp only [Option.bind_eq_bind,Option.bind_some]
  rw [if_neg asked,Cut.stripPrefix_append]
  simp only [Option.bind_some]
  rw [queryFields_text _ _ (by simp) fields]
  simp [parseUnsigned_repr fits,parseUsize_repr small]

/-- The fields of a cursor come after those of the selection, with its hub first. -/
theorem parseLiveLogsTarget_text {serviceId : String} (selection : LiveLogSelection) {tail : Nat}
    {cursor : Option LiveLogCursor} (valid : SupervisorConfig.validServiceId serviceId=true)
    (fits : tail < UInt64.size) (named : ∀place∈cursor,
      validHubInstanceId place.hubInstanceId=true ∧ place.sequence < UInt64.size) :
    parseLiveLogsTarget ("/v1/services/"++(serviceId++"/logs/live?"++
        queryText (liveLogFields selection.label tail cursor)))=
      some (serviceId,selection,clamp 0 1000 tail,cursor) := by
  obtain ⟨some_id,plain⟩ := validServiceId_plain valid
  have label := plain_selection_label selection
  have digits (n : Nat) := not_mem_toDigits n (by decide : Char.isDigit '&'=false)
  rw [parseLiveLogsTarget,serviceQuery_text _ rfl some_id plain]
  simp only [Option.bind_eq_bind,Option.bind_some]
  cases cursor with
  | none =>
    have fields : PlainFields (liveLogFields selection.label tail none) := by
      simp [PlainFields,liveLogFields,label,digits]
    rw [queryFields_text _ _ (by simp [liveLogFields]) fields]
    simp [liveLogFields,LiveLogQuery.field,LiveLogQuery.cursor,parse_selection_label,
      parseUsize_repr fits]
  | some place =>
    obtain ⟨hub,small⟩ := named place rfl
    have fields : PlainFields (liveLogFields selection.label tail (some place)) := by
      have hub_plain := validHubInstanceId_plain hub
      simp [PlainFields,liveLogFields,label,digits,hub_plain]
    rw [queryFields_text _ _ (by simp [liveLogFields]) fields]
    simp [liveLogFields,LiveLogQuery.field,LiveLogQuery.cursor,parse_selection_label,
      parseUsize_repr fits,parseUnsigned_repr small,hub]

theorem parseMutationTarget_text {serviceId : String} {action : ControlAction}
    (some_id : serviceId≠"") (plain : '/'∉serviceId.toList) :
    parseMutationTarget ("/v1/services/"++(serviceId++"/"++action.name))=
      some (serviceId,action) := by
  have joined : serviceId++"/"++action.name=Cut.join '/' [serviceId,action.name] := by
    apply String.toList_inj.mp
    simp [Cut.join,List.intercalate]
  have fields : Cut.split '/' (serviceId++"/"++action.name)=[serviceId,action.name] := by
    rw [joined]
    refine Cut.split_join (by simp) fun field mem => ?_
    obtain rfl | rfl := by simpa using mem
    · exact plain
    · cases action <;> decide
  have known : parseAction action.name=some action := (parseAction_eq_some _ _).mpr rfl
  simp [parseMutationTarget,Cut.stripPrefix_append,fields,known,some_id]

end Targets

namespace ControlServer

variable {σ κ α : Type} (server : ControlServer σ κ) {request : HttpRequest}

theorem serveMutation_eq {mutation : ServiceMutation} {serviceId : String}
    {action : ControlAction}
    (parsed : parseMutationTarget mutation.target=some (serviceId,action)) :
    server.serveMutation mutation=server.mutateService serviceId action mutation := by
  unfold serveMutation mutateService
  refine bind_congr fun s => ?_
  rw [ServiceMutation.decision_of_target parsed]
  cases mutation.held s.idempotency <;> rfl

theorem dashboardAsset_v1 (rest : String) : server.dashboardAsset ("/v1/"++rest)=none := by
  have apart (asset : String) (other : ¬"/v1/".toList <+: asset.toList) : "/v1/"++rest≠asset :=
    Cut.append_ne rest other
  unfold dashboardAsset
  split
  case h_7 => rfl
  all_goals
    rename_i same
    exact absurd same (apart _ (by decide))

theorem isAuthorized_bearer
    (bearer : request.authorization=some s!"Bearer {server.token.text}") :
    server.isAuthorized request=true := by
  have stripped : Cut.stripPrefix "Bearer " s!"Bearer {server.token.text}"=
      some server.token.text := Cut.stripPrefix_append "Bearer " server.token.text
  simp [isAuthorized,ControlServer.bearer,bearer,stripped,RuntimeToken.bearerMatches_iff]

theorem guarded_bearer (bearer : request.authorization=some s!"Bearer {server.token.text}")
    (view : κ → Response) :
    server.guarded request view=(do pure (view (← get).cooperative)) := by
  simp [guarded,server.isAuthorized_bearer bearer]

theorem startsWith_dashboard (rest : String) :
    Cut.startsWith "/dashboard/" ("/v1/"++rest)=false := by
  rw [Cut.startsWith,Cut.stripPrefix_apart rest (by decide) (by decide)]
  rfl

/-- A read under `/v1/` that is not for live logs is answered by the read-only routes. -/
theorem answerRequest_get (peer : SocketAddr) (localAddress : Except String SocketAddr)
    {rest : String} (read : request.method="GET") (target : request.target="/v1/"++rest)
    (quiet : parseLiveLogsTarget request.target=none) :
    server.answerRequest peer localAddress false request=
      (do pure (.ok (.response (← withScratch (server.routeGet request))))) := by
  have outside : "/v1/"++rest≠mcpEndpoint := Cut.append_ne rest (by decide)
  have routed : server.route request=server.routeGet request := by
    rw [route,target,server.dashboardAsset_v1,if_neg outside,if_pos read]
  rw [target] at quiet
  unfold answerRequest
  simp only [Bool.false_eq_true,if_false,target,startsWith_dashboard,liveLogRequest,read,if_true,
    quiet,server.dashboardAsset_v1]
  rw [if_neg (by simp),if_neg (by simp),routed]

/-- A mutation under `/v1/` is routed with the store for services, and without it otherwise. -/
theorem answerRequest_post (peer : SocketAddr) (localAddress : Except String SocketAddr)
    {rest : String} (write : request.method="POST") (target : request.target="/v1/"++rest) :
    server.answerRequest peer localAddress false request=
      (if Cut.startsWith "/v1/services/" request.target=true then
        do pure (.ok (.response (← server.routeMutation request)))
      else do pure (.ok (.response (← withScratch (server.routeMutation request))))) := by
  have outside : "/v1/"++rest≠mcpEndpoint := Cut.append_ne rest (by decide)
  have routed : server.route request=server.routeMutation request := by
    rw [route,target,server.dashboardAsset_v1,if_neg outside,if_neg (by simp [write]),
      if_pos write]
  have other : ¬"POST"="GET" := by decide
  unfold answerRequest
  simp only [Bool.false_eq_true,if_false,target,startsWith_dashboard,liveLogRequest,write,other,
    server.dashboardAsset_v1]
  rw [if_neg (by simp),routed]
  simp only [true_and]

/-- What the read-only routes answer to a target, without the store. -/
theorem answerRequest_routeGet (peer : SocketAddr) (localAddress : Except String SocketAddr)
    {rest : String} (read : request.method="GET") (target : request.target="/v1/"++rest)
    (quiet : parseLiveLogsTarget request.target=none) {x : Serve σ κ Response}
    (routed : server.routeGet request=x) (plain : withScratch x=x) :
    server.answerRequest peer localAddress false request=
      (do pure (.ok (← .response <$> x))) := by
  rw [server.answerRequest_get peer localAddress read target quiet,routed,plain]
  simp

theorem parseLiveLogsTarget_apart {front : String} (rest : String)
    (before : ¬"/v1/services/".toList <+: front.toList)
    (after : ¬front.toList <+: "/v1/services/".toList) :
    parseLiveLogsTarget (front++rest)=none := by
  simp [parseLiveLogsTarget,serviceQuery,Cut.stripPrefix_apart rest before after]

/-- A log target has no second slash behind the service. -/
theorem parseLiveLogsTarget_logs {serviceId : String} (stream : LogStream) (tail : Nat)
    (valid : SupervisorConfig.validServiceId serviceId=true) :
    parseLiveLogsTarget ("/v1/services/"++(serviceId++"/logs?"++
      queryText [("stream",stream.label),("tail",tail.repr)]))=none := by
  have plain := (validServiceId_plain valid).2
  have label := plain_label stream '/' (by simp)
  have digits := not_mem_toDigits tail (by decide : Char.isDigit '/'=false)
  have single : (serviceId++"/logs?"++
      queryText [("stream",stream.label),("tail",tail.repr)]).toList.count '/' < 2 := by
    simp [queryText_cons,queryText_singleton,List.count_eq_zero.mpr plain,
      List.count_eq_zero.mpr label,List.count_eq_zero.mpr digits]
  have uncut : Cut.splitOnce "/logs/live?" _=none := Cut.splitOnce_of_count '/' single
  simp [parseLiveLogsTarget,serviceQuery,Cut.stripPrefix_append,uncut]

theorem parseEventsTarget_apart {front : String} (rest : String)
    (before : ¬"/v1/events".toList <+: front.toList)
    (after : ¬front.toList <+: "/v1/events".toList) : parseEventsTarget (front++rest)=none := by
  simp [parseEventsTarget,Cut.stripPrefix_apart rest before after]

theorem parseCooperativeOperationTarget_apart {front : String} (rest : String)
    (before : ¬"/v1/cooperative-actions/chrome-extension/requests/".toList <+: front.toList)
    (after : ¬front.toList <+: "/v1/cooperative-actions/chrome-extension/requests/".toList) :
    parseCooperativeOperationTarget (front++rest)=none := by
  simp [parseCooperativeOperationTarget,Cut.stripPrefix_apart rest before after]

/-- Where a target goes that is none of the fixed ones. -/
theorem routeGet_open {front : String} (rest : String) (target : request.target=front++rest)
    (health : ¬front.toList <+: "/v1/health".toList)
    (services : ¬front.toList <+: "/v1/services".toList)
    (identity : ¬front.toList <+: "/v1/instance".toList)
    (registry : ¬front.toList <+: "/v1/registry".toList)
    (active : ¬front.toList <+: activeTarget.toList) :
    server.routeGet request=
      match parseCooperativeOperationTarget request.target with
      | some requestId => server.guarded request (server.operationRequestResponse requestId)
      | none =>
        match parseEventsTarget request.target with
        | some (after,limit) =>
          server.guarded request fun _ => eventsResponse (server.views.events after limit)
        | none =>
          match parseLogsTarget request.target with
          | some (serviceId,stream,tail) => server.guarded request fun _ =>
              logResponse (server.views.logTail serviceId stream tail)
          | none =>
            match Cut.stripPrefix "/v1/services/" request.target with
            | some serviceId =>
              if serviceId="" ∨ '/'∈serviceId.toList then pure routeNotFound
              else do pure (server.serviceResponse serviceId (← onControl server.control.snapshots))
            | none => pure routeNotFound := by
  unfold routeGet
  rw [target,if_neg (Cut.append_ne rest health),if_neg (Cut.append_ne rest services),
    if_neg (Cut.append_ne rest identity),if_neg (Cut.append_ne rest registry),
    if_neg (Cut.append_ne rest active)]
  rfl

/-- The request is answered as the operation is performed. -/
def Understands (peer : SocketAddr) (localAddress : Except String SocketAddr)
    (request : HttpRequest) (operation : ControlOperation) : Prop :=
  server.answerRequest peer localAddress false request=
    (do pure (.ok (← server.perform request.target request.body operation)))

section Reads

variable {peer : SocketAddr} {localAddress : Except String SocketAddr}
  (read : request.method="GET")
  (bearer : request.authorization=some s!"Bearer {server.token.text}")

include read in
theorem understands_services (target : request.target="/v1/services") :
    server.Understands peer localAddress request .services := by
  have front : request.target="/v1/"++"services" := target
  have routed : server.routeGet request=
      (do pure (server.servicesResponse (← onControl server.control.snapshots))) := by
    unfold routeGet
    simp [target]
  have quiet : parseLiveLogsTarget request.target=none := by
    rw [target]
    decide
  rw [Understands,server.answerRequest_routeGet peer localAddress read front quiet routed rfl]
  simp [perform]

include read bearer in
/-- A view behind the token, under a target that is none of the live logs. -/
theorem understands_view {rest : String} {operation : ControlOperation} {view : κ → Response}
    (target : request.target="/v1/"++rest)
    (quiet : parseLiveLogsTarget request.target=none)
    (routed : server.routeGet request=server.guarded request view)
    (performed : server.perform request.target request.body operation=
      (do pure (.response (view (← get).cooperative)))) :
    server.Understands peer localAddress request operation := by
  rw [guarded_bearer server bearer] at routed
  rw [Understands,server.answerRequest_routeGet peer localAddress read target quiet routed rfl,
    performed]
  simp

include read bearer in
theorem understands_identity (target : request.target="/v1/instance") :
    server.Understands peer localAddress request .identity := by
  have front : request.target="/v1/"++"instance" := target
  have routed : server.routeGet request=server.guarded request fun _ =>
      jsonResponse 200 (JsonText.object [("instance",server.views.identity)]) := by
    unfold routeGet
    simp [target]
  have quiet : parseLiveLogsTarget request.target=none := by
    rw [target]
    decide
  exact server.understands_view read bearer front quiet routed rfl

include read bearer in
theorem understands_registry (target : request.target="/v1/registry") :
    server.Understands peer localAddress request .registry := by
  have front : request.target="/v1/"++"registry" := target
  have routed : server.routeGet request=server.guarded request fun _ =>
      jsonResponse 200 (JsonText.object [("registry",server.views.registry)]) := by
    unfold routeGet
    simp [target]
  have quiet : parseLiveLogsTarget request.target=none := by
    rw [target]
    decide
  exact server.understands_view read bearer front quiet routed rfl

include read bearer in
theorem understands_events {after limit : Nat} (fits : after < UInt64.size)
    (small : limit < UInt64.size)
    (target : request.target=s!"/v1/events?after={after}&limit={limit}") :
    server.Understands peer localAddress request (.events after (clamp 1 200 limit)) := by
  rw [events_target] at target
  have front : request.target="/v1/"++("events?"++
      queryText [("after",after.repr),("limit",limit.repr)]) := by
    rw [target]
    simp [← String.append_assoc]
  have quiet : parseLiveLogsTarget request.target=none := by
    rw [target]
    exact parseLiveLogsTarget_apart _ (by decide) (by decide)
  have other : parseCooperativeOperationTarget request.target=none := by
    rw [target]
    exact parseCooperativeOperationTarget_apart _ (by decide) (by decide)
  have routed := server.routeGet_open _ target (by decide) (by decide) (by decide) (by decide)
    (by decide)
  rw [other,target,parseEventsTarget_text fits small] at routed
  exact server.understands_view read bearer front quiet routed rfl

include read bearer in
theorem understands_logTail {serviceId : String} {stream : LogStream} {tail : Nat}
    (valid : SupervisorConfig.validServiceId serviceId=true) (fits : tail < UInt64.size)
    (target : request.target=s!"/v1/services/{serviceId}/logs?stream={stream.label}&tail={tail}") :
    server.Understands peer localAddress request
      (.logTail serviceId stream (clamp 1 1000 tail)) := by
  rw [logs_target] at target
  have front : request.target="/v1/"++("services/"++(serviceId++"/logs?"++
      queryText [("stream",stream.label),("tail",tail.repr)])) := by
    rw [target]
    simp [← String.append_assoc]
  have quiet : parseLiveLogsTarget request.target=none := by
    rw [target]
    exact parseLiveLogsTarget_logs stream tail valid
  have other : parseCooperativeOperationTarget request.target=none := by
    rw [target]
    exact parseCooperativeOperationTarget_apart _ (by decide) (by decide)
  have elsewhere : parseEventsTarget request.target=none := by
    rw [target]
    exact parseEventsTarget_apart _ (by decide) (by decide)
  have routed := server.routeGet_open _ target (by decide) (by decide) (by decide) (by decide)
    (by decide)
  rw [other,elsewhere,target,parseLogsTarget_text stream valid fits] at routed
  exact server.understands_view read bearer front quiet routed rfl

include read bearer in
theorem understands_operation {requestId : String} (valid : validRequestId requestId=true)
    (target : request.target=
      s!"/v1/cooperative-actions/chrome-extension/requests/{requestId}") :
    server.Understands peer localAddress request (.extensionOperation requestId) := by
  have whole : request.target=
      "/v1/cooperative-actions/chrome-extension/requests/"++requestId := target
  have front : request.target=
      "/v1/"++("cooperative-actions/chrome-extension/requests/"++requestId) := by
    rw [whole]
    simp [← String.append_assoc]
  have quiet : parseLiveLogsTarget request.target=none := by
    rw [whole]
    exact parseLiveLogsTarget_apart _ (by decide) (by decide)
  have found : parseCooperativeOperationTarget request.target=some requestId := by
    rw [whole]
    simp [parseCooperativeOperationTarget,Cut.stripPrefix_append,valid]
  have routed := server.routeGet_open _ whole (by decide) (by decide) (by decide) (by decide)
    (by decide)
  rw [found] at routed
  exact server.understands_view read bearer front quiet routed rfl

include read bearer in
theorem understands_liveLogs {serviceId : String} {selection : LiveLogSelection} {tail : Nat}
    {cursor : Option LiveLogCursor} (valid : SupervisorConfig.validServiceId serviceId=true)
    (fits : tail < UInt64.size) (named : ∀place∈cursor,
      validHubInstanceId place.hubInstanceId=true ∧ place.sequence < UInt64.size)
    (target : request.target=liveLogTarget serviceId selection.label tail cursor) :
    server.Understands peer localAddress request
      (.liveLogs serviceId selection (clamp 0 1000 tail) cursor) := by
  rw [live_target] at target
  have front : request.target="/v1/"++("services/"++(serviceId++"/logs/live?"++
      queryText (liveLogFields selection.label tail cursor))) := by
    rw [target]
    simp [← String.append_assoc]
  have parsed : parseLiveLogsTarget request.target=
      some (serviceId,selection,clamp 0 1000 tail,cursor) := by
    rw [target]
    exact parseLiveLogsTarget_text selection valid fits named
  have apart : Cut.startsWith "/dashboard/" request.target=false := by
    rw [front]
    exact startsWith_dashboard _
  unfold Understands answerRequest
  simp only [Bool.false_eq_true,if_false,apart,liveLogRequest,read,if_true,parsed,liveLogAnswer,
    server.isAuthorized_bearer bearer,Bool.true_eq_false,perform]
  rfl

end Reads

section Mutations

variable {peer : SocketAddr} {localAddress : Except String SocketAddr}
  {mutation : MutationRequest} (write : request.method="POST")
  (bearer : request.authorization=some s!"Bearer {server.token.text}")
  (decoded : server.decodeMutation request.body=some mutation)
  (named : ∀id∈mutation.requestId,validRequestId id=true)

include bearer decoded named in
/-- What the checks of a mutation leave open is whether its reason is one. -/
theorem checkMutation_bearer : server.checkMutation request=
    ((Reason.new mutation.reason).mapError fun error =>
      errorResponse 400 "invalid_reason" error.display).map fun reason => (mutation,reason) := by
  have sent : ControlServer.bearer request=some server.token.text := by
    rw [ControlServer.bearer,bearer]
    exact Cut.stripPrefix_append "Bearer " server.token.text
  have matched : server.token.bearerMatches server.token.text=true :=
    (server.token.bearerMatches_iff _).mpr rfl
  have known : mutation.requestId.any (fun requestId => !validRequestId requestId)=false := by
    cases id : mutation.requestId with
    | none => rfl
    | some requestId => simp [named requestId id]
  unfold checkMutation
  simp only [sent,matched,Bool.true_eq_false,if_false,decoded,known,Bool.false_eq_true]
  cases reasoned : Reason.new mutation.reason with
  | ok reason => simp only [Except.mapError,Except.map]
  | error e => simp only [Except.mapError,Except.map]

include write bearer decoded named in
theorem understands_mutate {serviceId : String} {action : ControlAction}
    (valid : SupervisorConfig.validServiceId serviceId=true)
    (target : request.target=s!"/v1/services/{serviceId}/{action.name}") :
    server.Understands peer localAddress request (.mutate serviceId action mutation) := by
  rw [mutation_target] at target
  obtain ⟨some_id,plain⟩ := validServiceId_plain valid
  have front : request.target="/v1/"++("services/"++(serviceId++"/"++action.name)) := by
    rw [target]
    simp [← String.append_assoc]
  have service : Cut.startsWith "/v1/services/" request.target=true := by
    rw [target,Cut.startsWith,Cut.stripPrefix_append]
    rfl
  have parsed : parseMutationTarget request.target=some (serviceId,action) := by
    rw [target]
    exact parseMutationTarget_text some_id plain
  have reload : request.target≠reloadTarget := by
    rw [target]
    exact Cut.append_ne _ (by decide)
  have shutdown : request.target≠shutdownTarget := by
    rw [target]
    exact Cut.append_ne _ (by decide)
  have checked := server.checkMutation_bearer bearer decoded named
  rw [Understands,server.answerRequest_post peer localAddress write front,if_pos service]
  unfold routeMutation routeMutationWithServiceActor
  cases reasoned : Reason.new mutation.reason with
  | error error => simp [checked,reasoned,Except.mapError,Except.map,perform,withReason]
  | ok reason =>
    have served : server.serveMutation ⟨mutation.requestId,request.target,request.body,
          mutation.actor.domainActor,reason⟩=
        server.mutateService serviceId action ⟨mutation.requestId,request.target,request.body,
          mutation.actor.domainActor,reason⟩ := server.serveMutation_eq parsed
    simp [checked,reasoned,Except.mapError,Except.map,perform,withReason,reload,shutdown,served]

/-- What follows an operation without doing anything may be left out of the scratch store. -/
theorem withScratch_bind {β : Type} (x : Serve σ κ α) (f : α → Serve σ κ β)
    (quiet : ∀a,∃b,f a=pure b) : withScratch (x>>=f)=withScratch x>>=f := by
  funext s
  show (withScratch (x>>=f)).run s=(withScratch x>>=f).run s
  rw [EStateM.run_bind]
  cases ran : x.run { s with idempotency := .empty } with
  | ok a t =>
    obtain ⟨b,ended⟩ := quiet a
    simp only [EStateM.run] at ran
    simp [withScratch,EStateM.run,EStateM.bind,bind,ran,ended]
    rfl
  | error error t =>
    simp only [EStateM.run] at ran
    simp [withScratch,EStateM.run,EStateM.bind,bind,ran]

/-- Without a mutation of a service the store is not looked at. -/
theorem withScratch_reload (actor : ApiActor) (reason : Reason) (requestId : Option String) :
    withScratch (routeCooperativeReload server.cooperative actor reason requestId)=
      (routeCooperativeReload server.cooperative actor reason requestId : Serve σ κ Response) := by
  unfold routeCooperativeReload
  cases requestId with
  | none => rfl
  | some requestId =>
    cases server.cooperative with
    | none => rfl
    | some operations =>
      refine (withScratch_bind _ _ fun began => ?_).trans rfl
      cases began with
      | ok operation => exact ⟨_,rfl⟩
      | error error => cases error <;> exact ⟨_,rfl⟩

include write bearer decoded named in
theorem understands_reload (target : request.target=reloadTarget) :
    server.Understands peer localAddress request (.reload mutation) := by
  have front : request.target="/v1/"++"cooperative-actions/chrome-extension/reload-self" := target
  have service : ¬Cut.startsWith "/v1/services/" request.target=true := by
    rw [target]
    decide
  have checked := server.checkMutation_bearer bearer decoded named
  rw [Understands,server.answerRequest_post peer localAddress write front,if_neg service]
  unfold routeMutation routeMutationWithServiceActor
  cases reasoned : Reason.new mutation.reason with
  | error error =>
    simp [checked,reasoned,Except.mapError,Except.map,perform,withReason]
    rfl
  | ok reason =>
    simp [checked,reasoned,Except.mapError,Except.map,perform,withReason,target,withScratch_reload]

include write bearer decoded named in
theorem understands_shutdown (target : request.target=shutdownTarget) :
    server.Understands peer localAddress request (.shutdown mutation) := by
  have front : request.target="/v1/"++"supervisor/shutdown" := target
  have service : ¬Cut.startsWith "/v1/services/" request.target=true := by
    rw [target]
    decide
  have other : ¬shutdownTarget=reloadTarget := by decide
  have checked := server.checkMutation_bearer bearer decoded named
  rw [Understands,server.answerRequest_post peer localAddress write front,if_neg service]
  unfold routeMutation routeMutationWithServiceActor
  cases reasoned : Reason.new mutation.reason with
  | error error =>
    simp [checked,reasoned,Except.mapError,Except.map,perform,withReason]
    rfl
  | ok reason =>
    simp [checked,reasoned,Except.mapError,Except.map,perform,withReason,target,other]
    cases mutation.requestId with
    | none => rfl
    | some requestId =>
      simp [shutDown]
      rfl

end Mutations

end ControlServer

/-- Each request that a client writes is answered as its operation is performed: with the service,
action, cursor and filters that were asked for, and the limit or tail within its bounds. -/
theorem client_targets_understood {σ κ : Type} (server : ControlServer σ κ)
    (asked : ClientRequest) (valid : asked.Valid) (reads : ∀mutation∈asked.mutation,
      server.decodeMutation (TextLines.encode
        (mutationBody mutation.actor mutation.reason mutation.requestId))=some mutation) (written : String × String × Option String)
    (sent : asked.written=some written) (request : HttpRequest)
    (carries : Carries server.token request written)
    (peer : SocketAddr) (localAddress : Except String SocketAddr) :
    ∃operation,asked.operation=some operation ∧
      server.answerRequest peer localAddress false request=
        (do pure (.ok (← server.perform request.target request.body operation))) := by
  obtain ⟨method,target,body,bearer⟩ := carries
  cases asked with
  | liveLogs serviceId selection tail cursor =>
    cases sent
    obtain ⟨id,fits,named⟩ := valid
    exact ⟨_,rfl,server.understands_liveLogs method bearer id fits named target⟩
  | remote command =>
    cases command with
    | status | simpleStatus =>
      cases sent
      exact ⟨_,rfl,server.understands_services method target⟩
    | instanceStatus =>
      cases sent
      exact ⟨_,rfl,server.understands_identity method bearer target⟩
    | registryStatus =>
      cases sent
      exact ⟨_,rfl,server.understands_registry method bearer target⟩
    | events after limit =>
      cases sent
      exact ⟨_,rfl,server.understands_events method bearer valid.1 valid.2 target⟩
    | logs serviceId stream tail =>
      cases sent
      exact ⟨_,rfl,server.understands_logTail method bearer valid.1 valid.2 target⟩
    | extensionStatus requestId =>
      cases sent
      exact ⟨_,rfl,server.understands_operation method bearer valid target⟩
    | mutate action serviceIds reason actor requestId =>
      cases serviceIds with
      | nil => cases sent
      | cons serviceId others =>
        cases sent
        have decoded := reads ⟨actor,reason,requestId⟩ rfl
        exact ⟨_,rfl,server.understands_mutate method bearer (by rw [body]; exact decoded) valid.2
          (valid.1 serviceId List.mem_cons_self) target⟩
    | extensionReload reason actor requestId wait =>
      cases sent
      have decoded := reads ⟨actor,reason,some requestId⟩ rfl
      have named : ∀id∈some requestId,validRequestId id=true := by
        intro id mem
        cases mem
        exact valid
      exact ⟨_,rfl,server.understands_reload method bearer (by rw [body]; exact decoded) named
        target⟩
    | supervisorShutdown reason actor requestId =>
      cases sent
      have decoded := reads ⟨actor,reason,some requestId⟩ rfl
      have named : ∀id∈some requestId,validRequestId id=true := by
        intro id mem
        cases mem
        exact valid
      exact ⟨_,rfl,server.understands_shutdown method bearer (by rw [body]; exact decoded) named
        target⟩

open MutationSystem in
theorem client_targets_understood_restart :
    ∃operation,ClientRequest.operation
        (.remote (.mutate .restart ["api"] "fixture" .user (some "retry-1")))=some operation ∧
      fixtureServer.answerRequest fixtureAddress (.ok fixtureAddress) false fixtureRequest=
        (do pure (.ok (← fixtureServer.perform fixtureRequest.target fixtureRequest.body
          operation))) := by
  have valid : (∀serviceId∈["api"],SupervisorConfig.validServiceId serviceId=true) ∧
      validRequestId "retry-1"=true := by
    decide
  have reads : fixtureServer.decodeMutation (TextLines.encode
      (mutationBody .user "fixture" (some "retry-1")))=
        some ⟨.user,"fixture",some "retry-1"⟩ := by
    decide
  refine client_targets_understood fixtureServer
    (.remote (.mutate .restart ["api"] "fixture" .user (some "retry-1"))) ⟨valid.1,?_⟩ ?_
    ("POST","/v1/services/api/restart",some (mutationBody .user "fixture" (some "retry-1"))) rfl
    fixtureRequest ⟨rfl,rfl,rfl,rfl⟩ fixtureAddress (.ok fixtureAddress)
  · intro id mem
    cases mem
    exact valid.2
  · intro mutation mem
    cases mem
    exact reads

end AkuSupervisor
