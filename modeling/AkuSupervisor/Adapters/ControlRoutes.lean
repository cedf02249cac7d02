import AkuSupervisor.Adapters.ControlHttp

namespace AkuSupervisor

open StateError

variable {σ κ α : Type}

/-- Runs an operation of the control. -/
def onControl (x : EStateM ControlError σ α) : Serve σ κ (Except ControlError α) := fun s =>
  .ok (answer (x.run s.control)) { s with control := final (x.run s.control) }

def recordCall (call : ServerCall) : Serve σ κ Unit :=
  modify fun s => { s with calls := s.calls++[call] }

namespace ControlServer

variable (server : ControlServer σ κ)

def mutate (action : ControlAction) (serviceId : String) (actor : Actor) (reason : Reason) :
    Serve σ κ (Except ControlError ControlMutationResult) := do
  recordCall (.mutate action serviceId actor reason)
  onControl (server.control.mutate action serviceId actor reason)

def requestShutdown (request : SupervisorShutdownRequest) :
    Serve σ κ (Except SupervisorShutdownError SupervisorShutdownOutcome) := do
  recordCall (.shutdown request)
  modifyGet fun s =>
    ((s.shutdown.request request).1,{ s with shutdown := (s.shutdown.request request).2 })

def beginCooperative (operations : CooperativeOperations κ) (actor : Actor) (reason : Reason)
    (requestId : String) : Serve σ κ (Except CooperativeOperationError CooperativeOperation) := do
  recordCall (.cooperative actor reason requestId)
  modifyGet fun s =>
    let result := operations.begin actor reason requestId s.cooperative
    (result.1,{ s with cooperative := result.2 })

/-- A mutation of a service: answered from the store, or run and stored. -/
def serveMutation (mutation : ServiceMutation) : Serve σ κ Response := do
  match mutation.decision (← get).idempotency with
  | .answer response => pure response
  | .run serviceId action =>
    let result ← server.mutate action serviceId mutation.actor mutation.reason
    let response := mutationResponse serviceId result
    match mutation.remember (← get).idempotency response with
    | none => throw .stuck
    | some store =>
      modify fun s => { s with idempotency := store }
      pure response

def cooperativeDisabled : Response :=
  errorResponse 404 "cooperative_action_disabled" "Chrome extension reload is not configured"

def operationResponse (status : Nat) (json : String) : Response :=
  jsonResponse status (JsonText.object [("operation",json)])

def routeCooperativeReload (cooperative : Option (CooperativeOperations κ)) (actor : ApiActor)
    (reason : Reason) (requestId : Option String) : Serve σ κ Response :=
  match requestId,cooperative with
  | none,_ => pure (errorResponse 400 "request_id_required"
      "reload_self requires requestId for relay idempotency and audit")
  | some _,none => pure cooperativeDisabled
  | some requestId,some operations => do
    match ← beginCooperative operations actor.domainActor reason requestId with
    | .ok operation =>
      pure (operationResponse (if operation.running then 202 else 200) operation.json)
    | .error .idempotencyConflict => pure (errorResponse 409 "idempotency_conflict"
        "requestId was already used for different cooperative-action input")
    | .error (.actionInProgress _) => pure (errorResponse 409 "action_in_progress"
        "another Chrome extension cooperative action is active")
    | .error error =>
      pure (errorResponse 500 "operation_registry_unavailable" error.display)

def shutdownResponse (requestId : String) :
    Except SupervisorShutdownError SupervisorShutdownOutcome → Response
  | .ok outcome => jsonResponse 202 (JsonText.object [("instance",server.views.identity),
      ("requestId",JsonText.string requestId),
      ("status",JsonText.string (match outcome with
        | .accepted => "accepted"
        | .alreadyAccepted => "already_accepted"))])
  | .error .alreadyInProgress => errorResponse 409 "shutdown_in_progress"
      "a different Supervisor shutdown request is already active"
  | .error .lockPoisoned => errorResponse 500 "shutdown_registry_unavailable"
      "Supervisor shutdown registry is unavailable"

/-- The bearer of a request, if it has one. -/
def bearer (request : HttpRequest) : Option String :=
  request.authorization.bind (Cut.stripPrefix "Bearer ")

def isAuthorized (request : HttpRequest) : Bool :=
  (bearer request).any server.token.bearerMatches

/-- Checks the sender and the body of a mutation request. -/
def checkMutation (request : HttpRequest) : Except Response (MutationRequest × Reason) :=
  match bearer request with
  | none => .error (errorResponse 401 "unauthorized" "bearer token required")
  | some candidate =>
    if server.token.bearerMatches candidate=false then
      .error (errorResponse 401 "unauthorized" "invalid bearer token")
    else
      match server.decodeMutation request.body with
      | none => .error (errorResponse 400 "invalid_request" "invalid mutation body")
      | some mutation =>
        if mutation.requestId.any (fun requestId => !validRequestId requestId) then
          .error (errorResponse 400 "invalid_request_id"
            "requestId must be 1-128 URL-safe ASCII characters")
        else
          match Reason.new mutation.reason with
          | .error error => .error (errorResponse 400 "invalid_reason" error.display)
          | .ok reason => .ok (mutation,reason)

def reloadTarget : String := "/v1/cooperative-actions/chrome-extension/reload-self"
def shutdownTarget : String := "/v1/supervisor/shutdown"

def routeMutationWithServiceActor (cooperative : Option (CooperativeOperations κ))
    (request : HttpRequest) (serviceActor : Option Actor) : Serve σ κ Response :=
  match server.checkMutation request with
  | .error response => pure response
  | .ok (mutation,reason) =>
    if request.target=reloadTarget then
      routeCooperativeReload cooperative mutation.actor reason mutation.requestId
    else if request.target=shutdownTarget then
      match mutation.requestId with
      | none => pure (errorResponse 400 "request_id_required"
          "Supervisor shutdown requires requestId for idempotency and audit")
      | some requestId => do
        let result ← requestShutdown ⟨mutation.actor.domainActor,reason,requestId⟩
        pure (server.shutdownResponse requestId result)
    else
      server.serveMutation ⟨mutation.requestId,request.target,request.body,
        serviceActor.getD mutation.actor.domainActor,reason⟩

def routeMutation (request : HttpRequest) : Serve σ κ Response :=
  server.routeMutationWithServiceActor server.cooperative request none

def unauthorized : Response := errorResponse 401 "unauthorized" "valid bearer token required"

def mcpEndpoint : String := "/mcp"

def supportsProtocolVersion (version : String) : Bool :=
  ["2025-03-26","2025-06-18","2025-11-25"].contains version

def accepts (accept : Option String) (type : String) : Bool :=
  (Cut.split ',' (accept.getD "")).any fun value => trim value=type

def mcpResponse : McpResponse → Response
  | .json value => jsonResponse 200 value
  | .accepted => emptyResponse 202

def routeMcp (request : HttpRequest) : Serve σ κ Response :=
  if server.mcp.enabled=false then pure routeNotFound
  else if server.isAuthorized request=false then pure unauthorized
  else if request.origin.any (fun origin => !server.mcp.allowedOrigins.contains origin) then
    pure (jsonResponse 403 (JsonText.object [("error",JsonText.object [("code","-32000"),
      ("message",JsonText.string "Origin is not allowed")]),("id","null"),
      ("jsonrpc",JsonText.string "2.0")]))
  else if request.method≠"POST" then pure (emptyResponse 405)
  else if request.contentType≠some "application/json" then
    pure (errorResponse 400 "invalid_content_type" "application/json required")
  else if accepts request.accept "application/json"=false ∨
      accepts request.accept "text/event-stream"=false then
    pure (errorResponse 400 "invalid_accept"
      "Accept must include application/json and text/event-stream")
  else if request.mcpProtocolVersion.any (fun version => !supportsProtocolVersion version) then
    pure (errorResponse 400 "unsupported_protocol_version" "unsupported MCP version")
  else
    match server.views.mcpMessage request.body with
    | .direct response => pure (mcpResponse response)
    | .services respond => do
      let services ← onControl server.control.snapshots
      pure (mcpResponse (respond services))

/-- The embedded files of the dashboard, with their content types. -/
def dashboardAsset (target : String) : Option (List UInt8 × String) :=
  match target with
  | "/" => some (server.views.asset "index.html","text/html; charset=utf-8")
  | "/app.css" => some (server.views.asset "app.css","text/css; charset=utf-8")
  | "/app.js" => some (server.views.asset "app.js","text/javascript; charset=utf-8")
  | "/model.js" => some (server.views.asset "model.js","text/javascript; charset=utf-8")
  | "/view.js" => some (server.views.asset "view.js","text/javascript; charset=utf-8")
  | "/api.js" => some (server.views.asset "api.js","text/javascript; charset=utf-8")
  | _ => none

def logResponse : Except ServiceLogError String → Response
  | .ok log => jsonResponse 200 (JsonText.object [("log",log)])
  | .error (.serviceNotFound _) => errorResponse 404 "service_not_found" "unknown service"
  | .error error => errorResponse 500 "log_unavailable" error.display

def servicesResponse : Except ControlError (List ServiceSnapshot) → Response
  | .ok services => jsonResponse 200 (JsonText.object
      [("services",JsonText.array (services.map server.views.service))])
  | .error error => errorResponse 500 "internal" error.message

def serviceResponse (serviceId : String) : Except ControlError (List ServiceSnapshot) → Response
  | .ok services =>
    match services.find? fun service => service.id=serviceId with
    | none => errorResponse 404 "service_not_found" "unknown service"
    | some service =>
      jsonResponse 200 (JsonText.object [("service",server.views.service service)])
  | .error error => errorResponse 500 "internal" error.message

def operationsUnavailable (error : CooperativeOperationError) : Response :=
  errorResponse 500 "operation_registry_unavailable" error.display

def activeResponse (state : κ) : Response :=
  match server.cooperative with
  | none => cooperativeDisabled
  | some operations =>
    match operations.active state with
    | .ok operation =>
      operationResponse 200 (JsonText.option (operation.map CooperativeOperation.json))
    | .error error => operationsUnavailable error

def operationRequestResponse (requestId : String) (state : κ) : Response :=
  match server.cooperative with
  | none => cooperativeDisabled
  | some operations =>
    match operations.get requestId state with
    | .ok operation => operationResponse 200 operation.json
    | .error .notFound =>
      errorResponse 404 "operation_not_found" "cooperative operation was not found"
    | .error error => operationsUnavailable error

/-- A view that only the bearer of the token may see. -/
def guarded (request : HttpRequest) (view : κ → Response) : Serve σ κ Response := do
  if server.isAuthorized request=false then pure unauthorized
  else pure (view (← get).cooperative)

def activeTarget : String := "/v1/cooperative-actions/chrome-extension/active"

/-- The read-only routes, in the order in which they are tried. -/
def routeGet (request : HttpRequest) : Serve σ κ Response :=
  if request.target="/v1/health" then
    pure (jsonResponse 200 (JsonText.object
      [("status",JsonText.string "ok"),("version",JsonText.string server.views.version)]))
  else if request.target="/v1/services" then do
    pure (server.servicesResponse (← onControl server.control.snapshots))
  else if request.target="/v1/instance" then
    server.guarded request fun _ =>
      jsonResponse 200 (JsonText.object [("instance",server.views.identity)])
  else if request.target="/v1/registry" then
    server.guarded request fun _ =>
      jsonResponse 200 (JsonText.object [("registry",server.views.registry)])
  else if request.target=activeTarget then server.guarded request server.activeResponse
  else
    match parseCooperativeOperationTarget request.target with
    | some requestId => server.guarded request (server.operationRequestResponse requestId)
    | none =>
      match parseEventsTarget request.target with
      | some (after,limit) => server.guarded request fun _ =>
          match server.views.events after limit with
          | .ok events => jsonResponse 200 (JsonText.object [("events",events)])
          | .error error => errorResponse 500 "journal_unavailable" error
      | none =>
        match parseLogsTarget request.target with
        | some (serviceId,stream,tail) => server.guarded request fun _ =>
            logResponse (server.views.logTail serviceId stream tail)
        | none =>
          match Cut.stripPrefix "/v1/services/" request.target with
          | some serviceId =>
            if serviceId="" ∨ '/'∈serviceId.toList then pure routeNotFound
            else do pure (server.serviceResponse serviceId (← onControl server.control.snapshots))
          | none => pure routeNotFound

def route (request : HttpRequest) : Serve σ κ Response :=
  match server.dashboardAsset request.target with
  | some (body,contentType) =>
    if request.method="GET" then pure (dashboardResponse 200 body contentType)
    else pure (dashboardResponse 405 (TextLines.encode "method not allowed")
      "text/plain; charset=utf-8")
  | none =>
    if request.target=mcpEndpoint then server.routeMcp request
    else if request.method="GET" then server.routeGet request
    else if request.method="POST" then server.routeMutation request
    else pure routeNotFound

end ControlServer

end AkuSupervisor
