import AkuSupervisor.Adapters.ControlRoutes

namespace AkuSupervisor

/-- One connection: its ends, and what the reads of it give. -/
structure Connection where
  peer : SocketAddr
  localAddress : Except String SocketAddr
  reads : List ReadResult

/-- What a handler leaves on its connection. -/
inductive ConnectionAnswer where
  | response (response : Response)
  | liveLog (serviceId : String) (selection : LiveLogSelection) (tail : Nat)
      (cursor : Option LiveLogCursor)
  deriving DecidableEq

namespace ControlServer

variable {σ κ : Type} (server : ControlServer σ κ)

def isPort (port : String) : Bool := port≠"" && port.toList.all Char.isDigit

def isLoopbackText (address : String) : Bool := (server.parseIpAddr address).any IpAddr.isLoopback

def isLoopbackHost (authority : String) : Bool :=
  let authority := trim authority
  match Cut.stripPrefix "[" authority with
  | some bracketed =>
    match Cut.splitOnce "]" bracketed with
    | none => false
    | some (address,suffix) =>
      if suffix≠"" ∧ ¬(Cut.stripPrefix ":" suffix).any isPort=true then false
      else server.isLoopbackText address
  | none =>
    let host := match Cut.splitOnce ":" authority with
      | none => authority
      | some (host,port) => if isPort port then host else ""
    asciiLowercase host="localhost" || server.isLoopbackText host

def dashboardRequestIsLoopback (peer : SocketAddr) (host : Option String) : Bool :=
  peer.ip.isLoopback && host.any server.isLoopbackHost

/-- The hosts under which a browser on this machine reaches the server. -/
def validHosts (address : SocketAddr) : List String :=
  [s!"127.0.0.1:{address.port}",s!"localhost:{address.port}",s!"[::1]:{address.port}"]

def sameOrigin (host : String) : String := s!"http://{host}"

/-- The capability of the dashboard: it differs for each instance and address. -/
def dashboardToken (address : SocketAddr) : RuntimeToken :=
  server.deriveScoped server.token
    s!"dashboard-v1:{server.instanceId}:{server.addressText address}"

def sessionTarget : String := "/dashboard/v1/session"

def sessionResponse (address : SocketAddr) (request : HttpRequest) : Response :=
  if request.method≠"GET" then errorResponse 405 "method_not_allowed" "GET required"
  else if request.dashboardRequest≠some "1" then
    errorResponse 403 "dashboard_header_required" "dashboard request header required"
  else
    jsonResponse 200 (JsonText.object [("instanceId",JsonText.string server.instanceId),
      ("token",JsonText.string (server.dashboardToken address).text)])

/-- The mutation that a dashboard request stands for. -/
def forwardedBody (requestId : String) : List UInt8 :=
  TextLines.encode (JsonText.object [("actor",JsonText.string "user"),
    ("reason",JsonText.string "Dashboard service control"),
    ("requestId",JsonText.string s!"dashboard-{requestId}")])

def forwarded (request : HttpRequest) (target requestId : String) : HttpRequest :=
  { request with
    method := "POST"
    target
    authorization := some s!"Bearer {server.token.text}"
    body := forwardedBody requestId }

/-- Checks a dashboard mutation, and gives the request that is routed in its place. -/
def dashboardMutation (host : String) (address : SocketAddr) (request : HttpRequest) :
    Except Response HttpRequest :=
  match Cut.stripPrefix "/dashboard" request.target with
  | none => .error routeNotFound
  | some target =>
    if (parseMutationTarget target).isNone then .error routeNotFound
    else if request.method≠"POST" then
      .error (errorResponse 405 "method_not_allowed" "POST required")
    else if request.origin≠some (sameOrigin host) then
      .error (errorResponse 403 "origin_required" "same-origin dashboard request required")
    else if request.contentType≠some "application/json" then
      .error (errorResponse 415 "json_required" "application/json required")
    else if ¬request.dashboardToken.any (server.dashboardToken address).bearerMatches=true then
      .error (errorResponse 401 "unauthorized" "valid dashboard token required")
    else
      match server.decodeDashboardMutation request.body with
      | none => .error (errorResponse 400 "invalid_request"
          "requestId is required; no other fields are accepted")
      | some requestId =>
        if validRequestId requestId=false ∨ 118<(TextLines.encode requestId).length then
          .error (errorResponse 400 "invalid_request_id"
            "requestId must be 1-118 URL-safe ASCII characters")
        else .ok (server.forwarded request target requestId)

def dashboardControlResponse (peer address : SocketAddr) (request : HttpRequest) :
    Serve σ κ Response :=
  match request.host with
  | none => pure routeNotFound
  | some host =>
    if peer.ip.isLoopback=false ∨ address.ip.isLoopback=false ∨ host∉validHosts address then
      pure routeNotFound
    else if request.origin.any (· ≠ sameOrigin host) then
      pure (errorResponse 403 "origin_forbidden" "same-origin dashboard request required")
    else if request.target=sessionTarget then pure (server.sessionResponse address request)
    else
      match server.dashboardMutation host address request with
      | .error response => pure response
      | .ok forwarded => server.routeMutationWithServiceActor none forwarded (some .userUi)

def routeDashboardControl (peer address : SocketAddr) (request : HttpRequest) :
    Serve σ κ Response := do
  let response ← server.dashboardControlResponse peer address request
  pure { response with dashboardSecurityHeaders := true }

/-- A request for live logs is answered by a subscription, or refused. -/
def liveLogAnswer (request : HttpRequest) (serviceId : String) (selection : LiveLogSelection)
    (tail : Nat) (cursor : Option LiveLogCursor) : ConnectionAnswer :=
  if server.isAuthorized request=false then .response unauthorized
  else
    match server.views.subscribe serviceId selection tail cursor with
    | .ok _ => .liveLog serviceId selection tail cursor
    | .error (.serviceNotFound _) =>
      .response (errorResponse 404 "service_not_found" "unknown service")
    | .error (.tooManySubscribers _) => .response (errorResponse 409 "live_log_subscriber_limit"
        "too many live-log subscribers for service")
    | .error error => .response (errorResponse 500 "log_unavailable" error.display)

def draining : Response :=
  errorResponse 503 "shutdown_in_progress"
    "AkuSupervisor is draining; retry after a new instance is ready"

def liveLogRequest (request : HttpRequest) :
    Option (String × LiveLogSelection × Nat × Option LiveLogCursor) :=
  if request.method="GET" then parseLiveLogsTarget request.target else none

/-- Answers the request that a connection carried; `stop` is the stop flag. -/
def answerRequest (peer : SocketAddr) (localAddress : Except String SocketAddr) (stop : Bool)
    (request : HttpRequest) : Serve σ κ (Except RequestError ConnectionAnswer) :=
  if stop then pure (.ok (.response draining))
  else if Cut.startsWith "/dashboard/" request.target then
    match localAddress with
    | .error error => pure (.error (.read error))
    | .ok address => do
      pure (.ok (.response (← server.routeDashboardControl peer address request)))
  else
    match liveLogRequest request with
    | some (serviceId,selection,tail,cursor) =>
      pure (.ok (server.liveLogAnswer request serviceId selection tail cursor))
    | none =>
      if (server.dashboardAsset request.target).isSome=true ∧
          server.dashboardRequestIsLoopback peer request.host=false then
        pure (.ok (.response (dashboardResponse 404 (TextLines.encode "not found")
          "text/plain; charset=utf-8")))
      else if request.method="POST" ∧ Cut.startsWith "/v1/services/" request.target=true then do
        pure (.ok (.response (← server.route request)))
      else do
        pure (.ok (.response (← withScratch (server.route request))))

def handleConnection (connection : Connection) (stop : Bool) :
    Serve σ κ (Except RequestError ConnectionAnswer) :=
  match readRequest connection.reads with
  | .error error => pure (.error error)
  | .ok request => server.answerRequest connection.peer connection.localAddress stop request

end ControlServer

end AkuSupervisor
