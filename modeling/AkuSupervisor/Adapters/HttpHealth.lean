import AkuSupervisor.Lib.HttpMessage
import AkuSupervisor.Adapters.Config
import AkuSupervisor.Adapters.HttpResponse

namespace AkuSupervisor

open HttpMessage TextLines

namespace HttpHealth

variable (facts : TextFacts)

/-- The address of a health URL, as it names it, and the target of its request. -/
def parseLoopbackUrl (url : String) : Except String (SocketAddr × String × String) :=
  match Cut.stripPrefix "http://" url with
  | none => .error "health URL must use loopback HTTP"
  | some remainder =>
    let (authority,path) := match Cut.splitOnce "/" remainder with
      | some (authority,path) => (authority,"/"++path)
      | none => (remainder,"/")
    match facts.parseSocketAddr authority with
    | none => .error "health URL requires an explicit loopback IP and port"
    | some address =>
      if !address.ip.isLoopback then .error "health URL must target loopback"
      else .ok (address,authority,path)

def requestText (path authority accept : String) : String :=
  s!"GET {path} HTTP/1.1\r\nHost: {authority}\r\nAccept: {accept}\r\nConnection: close\r\n\r\n"

/-- Where a probe connects to, and the bytes it writes there. -/
def probeRequest (url accept : String) : Except String (SocketAddr × List UInt8) :=
  (parseLoopbackUrl facts url).map fun (address,authority,path) =>
    (address,encode (requestText path authority accept))

def maxResponseBytes : Nat := 1024*1024

/-- The bytes of a response, up to the end of the stream. A read that fails, or that the deadline
comes before, gives an error. -/
def readResponse : List ReadResult → List UInt8 → Except String (List UInt8)
  | [],bytes => .ok bytes
  | .error message::_,_ => .error message
  | .ok chunk::reads,bytes =>
    if chunk=[] then .ok bytes
    else if maxResponseBytes < (bytes++chunk).length then
      .error "HTTP health response exceeded 1 MiB"
    else readResponse reads (bytes++chunk)

/-- The response of a probe, from what the reads give. -/
def receiveResponse (reads : List ReadResult) : Option (Except ChunkStop HttpResponse) :=
  match readResponse reads [] with
  | .error message => some (.error (.rejected message))
  | .ok bytes => parseResponse bytes

/-- The fields that a probe is to send. -/
def probeFields (authority accept : String) : List Field :=
  [⟨encode "Host",32::encode authority⟩,⟨encode "Accept",32::encode accept⟩,
    ⟨encode "Connection",encode " close"⟩]

/-- The bytes are one request to get something from this address, and no other. -/
def OneRequest (bytes : List UInt8) (authority accept : String) : Prop :=
  ∃target,IsRequest bytes (encode "GET") target (probeFields authority accept) ∧
    ∀method target' fields,IsRequest bytes method target' fields →
      method=encode "GET" ∧ target'=target ∧ fields=probeFields authority accept

/-- The validation of a configuration finds nothing wrong with the URL of a check. -/
def UrlAccepted (url : String) (timeoutMs startupDeadlineMs : Nat) (field : String) : Prop :=
  ∀issue∈SupervisorConfig.validateHttpFields facts url timeoutMs startupDeadlineMs field,
    issue.code≠"health_url_invalid"

/-- What the accepted media types of the two kinds of HTTP check are. -/
def probeAccepts : List String := ["*/*","application/json"]

/-- A character of the text of a socket address, with the scope of an IPv6 address. -/
def isAddressChar (c : Char) : Bool :=
  c.isDigit || ('a' ≤ c && c ≤ 'f') || ('A' ≤ c && c ≤ 'F') || ['.',':','[',']','%'].contains c

variable {facts} {url : String}

/-- The validation and the probe take a URL apart in the same way. -/
theorem parseLoopbackUrl_accepted {timeoutMs startupDeadlineMs : Nat} {field : String}
    (accepted : UrlAccepted facts url timeoutMs startupDeadlineMs field) :
    ∃address authority path,facts.parseSocketAddr authority=some address ∧
      address.ip.isLoopback=true ∧ '/'∉authority.toList ∧
      (path="/" ∧ url="http://"++authority ∨
        (∃rest,path="/"++rest) ∧ url="http://"++authority++path) ∧
      parseLoopbackUrl facts url=.ok (address,authority,path) := by
  have named : ((Cut.stripPrefix "http://" url).bind fun remainder =>
      (Cut.split '/' remainder).head?).any (SupervisorConfig.loopbackAuthority facts)=true := by
    by_contra unnamed
    refine accepted ⟨s!"{field}.health.url","health_url_invalid",
      "health URL must use an explicit loopback HTTP IP and port"⟩ ?_ rfl
    rw [SupervisorConfig.validateHttpFields,SupervisorConfig.issueIf,if_pos]
    · exact List.mem_append_left _ List.mem_cons_self
    · simpa using unnamed
  cases stripped : Cut.stripPrefix "http://" url with
  | none =>
    rw [stripped] at named
    cases named
  | some remainder =>
    have start := (Cut.stripPrefix_eq_some _ _ _).mp stripped
    rw [stripped,Option.bind_some] at named
    have loopback {authority : String}
        (holds : SupervisorConfig.loopbackAuthority facts authority=true) :
        ∃address,facts.parseSocketAddr authority=some address ∧ address.ip.isLoopback=true := by
      unfold SupervisorConfig.loopbackAuthority at holds
      cases parsed : facts.parseSocketAddr authority with
      | none =>
        rw [parsed] at holds
        cases holds
      | some address =>
        rw [parsed] at holds
        exact ⟨address,rfl,holds⟩
    unfold parseLoopbackUrl
    rw [stripped]
    rcases Cut.splitOnce_head (show "/".toList=['/'] by decide) remainder with
      ⟨fresh,uncut,head⟩|⟨authority,rest,fresh,whole,cut,head⟩
    · rw [head] at named
      obtain ⟨address,parsed,near⟩ := loopback named
      refine ⟨address,remainder,"/",parsed,near,fresh,.inl ⟨rfl,start⟩,?_⟩
      simp [uncut,parsed,near]
    · rw [head] at named
      obtain ⟨address,parsed,near⟩ := loopback named
      refine ⟨address,authority,"/"++rest,parsed,near,fresh,.inr ⟨⟨rest,rfl⟩,?_⟩,?_⟩
      · rw [start,whole]
        simp [String.append_assoc]
      · simp [cut,parsed,near]

theorem encode_requestText (path authority accept : String) :
    encode (requestText path authority accept)=
      headLines (encode "GET"++32::(encode path++32::[72,84,84,80,47,49,46,49]))
        (probeFields authority accept)++emptyLine := by
  have first : encode "GET "=encode "GET"++[32] := by decide
  have host : encode " HTTP/1.1\r\nHost: "=
      32::[72,84,84,80,47,49,46,49]++13::10::(encode "Host"++[58,32]) := by decide
  have kind : encode "\r\nAccept: "=13::10::(encode "Accept"++[58,32]) := by decide
  have last : encode "\r\nConnection: close\r\n\r\n"=
      13::10::(encode "Connection"++58::encode " close")++emptyLine := by decide
  have text : requestText path authority accept="GET "++path++" HTTP/1.1\r\nHost: "++authority++
      "\r\nAccept: "++accept++"\r\nConnection: close\r\n\r\n" := by
    simp [requestText,toString]
  rw [text]
  simp only [encode_append,first,host,kind,last,headLines,probeFields,Field.line,
    List.flatMap_cons,List.flatMap_nil,List.append_assoc,List.cons_append,List.nil_append]

section Requests

variable {path authority accept : String}

/-- What is written is a request for the path, if the path can be the target of one. -/
theorem isRequest_requestText (kind : accept∈probeAccepts)
    (named : ∀b∈encode authority,isTargetByte b=true) (some : path≠"")
    (clean : ∀b∈encode path,isTargetByte b=true) :
    IsRequest (encode (requestText path authority accept)) (encode "GET") (encode path)
      (probeFields authority accept) := by
  have field {b : UInt8} (target : isTargetByte b=true) : HttpGrammar.isFieldByte b=true := by
    simp only [isTargetByte,Bool.and_eq_true,decide_eq_true_eq] at target
    simp only [HttpGrammar.isFieldByte,Bool.or_eq_true,Bool.and_eq_true,decide_eq_true_eq]
    exact .inr ⟨UInt8.le_of_lt target.1,target.2⟩
  have accepted : ∀b∈encode accept,HttpGrammar.isFieldByte b=true := by
    simp only [probeAccepts,List.mem_cons,List.not_mem_nil,or_false] at kind
    rcases kind with rfl|rfl <;> decide +kernel
  refine ⟨⟨by decide +kernel,by decide +kernel⟩,⟨?_,clean⟩,?_,encode_requestText path authority accept⟩
  · exact encode_ne_nil path (by simpa using some)
  · intro f mem
    simp only [probeFields,List.mem_cons,List.not_mem_nil,or_false] at mem
    rcases mem with rfl|rfl|rfl
    · refine ⟨⟨(by decide +kernel : encode _≠[]),(by decide +kernel : ∀b∈encode _,_)⟩,fun b mem => ?_⟩
      rcases List.mem_cons.mp mem with rfl|mem
      · decide
      · exact field (named b mem)
    · refine ⟨⟨(by decide +kernel : encode _≠[]),(by decide +kernel : ∀b∈encode _,_)⟩,fun b mem => ?_⟩
      rcases List.mem_cons.mp mem with rfl|mem
      · decide
      · exact accepted b mem
    · exact ⟨⟨by decide +kernel,by decide +kernel⟩,by decide +kernel⟩

theorem oneRequest_iff (kind : accept∈probeAccepts)
    (named : ∀b∈encode authority,isTargetByte b=true) (some : path≠"") :
    OneRequest (encode (requestText path authority accept)) authority accept ↔
      ∀b∈encode path,isTargetByte b=true := by
  constructor
  · intro ⟨target,request,_⟩
    have whole := request.whole
    rw [encode_requestText,headLines,headLines] at whole
    have starts := List.append_cancel_right (List.append_cancel_right whole)
    have targets := (List.cons.inj (List.append_cancel_left starts)).2
    rw [List.append_cancel_right targets]
    exact request.clean.2
  · intro clean
    have request := isRequest_requestText kind named some clean
    exact ⟨encode path,request,fun method target fields other => other.unique request⟩

end Requests

theorem isTargetByte_of_address : ∀n : Fin 128,
    isAddressChar (Char.ofNat n)=true → isTargetByte (UInt8.ofNat n)=true := by
  decide

theorem target_of_address {text : String} (address : ∀c∈text.toList,isAddressChar c=true) :
    ∀b∈encode text,isTargetByte b=true := by
  intro b mem
  obtain ⟨c,inside,mem⟩ := List.mem_flatMap.mp mem
  by_cases ascii : b.toNat < 128
  · have same := ascii_of_mem c b ascii mem
    have char : c=Char.ofNat b.toNat := by rw [← same,Char.ofNat_toNat]
    have target := isTargetByte_of_address ⟨b.toNat,ascii⟩ (char ▸ address c inside)
    rwa [UInt8.ofNat_toNat] at target
  · simp only [isTargetByte,Bool.and_eq_true,decide_eq_true_eq]
    constructor
    · rw [UInt8.lt_iff_toNat_lt]
      show 32 < b.toNat
      omega
    · intro same
      rw [same] at ascii
      exact ascii (by decide)

/-- A URL that is accepted is probed at the loopback address that it names, with the bytes of one
request and no other if and only if no byte of it is a space or a control character. -/
theorem probe_one_request_iff
    (addressText : ∀text address,facts.parseSocketAddr text=some address →
      ∀c∈text.toList,isAddressChar c=true)
    (timeoutMs startupDeadlineMs : Nat) (field : String)
    (accepted : UrlAccepted facts url timeoutMs startupDeadlineMs field) (accept : String)
    (kind : accept∈probeAccepts) :
    ∃address authority bytes,probeRequest facts url accept=.ok (address,bytes) ∧
      facts.parseSocketAddr authority=some address ∧ address.ip.isLoopback=true ∧
      '/'∉authority.toList ∧ (∃rest,url="http://"++authority++rest ∧
        (rest="" ∨ ∃tail,rest="/"++tail)) ∧
      (OneRequest bytes authority accept ↔ ∀b∈encode url,isTargetByte b=true) := by
  obtain ⟨address,authority,path,parsed,near,fresh,whole,read⟩ :=
    parseLoopbackUrl_accepted accepted
  have named := target_of_address (addressText authority address parsed)
  have some : path≠"" := by
    rcases whole with ⟨rfl,-⟩|⟨⟨rest,rfl⟩,-⟩
    · decide
    · simp
  refine ⟨address,authority,encode (requestText path authority accept),?_,parsed,near,fresh,?_,?_⟩
  · rw [probeRequest,read]
    rfl
  · rcases whole with ⟨-,whole⟩|⟨⟨rest,rfl⟩,whole⟩
    · exact ⟨"",by rw [whole]; simp,.inl rfl⟩
    · exact ⟨_,whole,.inr ⟨rest,rfl⟩⟩
  · rw [oneRequest_iff kind named some]
    have scheme : ∀b∈encode "http://",isTargetByte b=true := by decide +kernel
    rcases whole with ⟨rfl,rfl⟩|⟨-,rfl⟩
    · rw [encode_append]
      have root : ∀b∈encode "/",isTargetByte b=true := by decide +kernel
      refine ⟨fun _ b mem => ?_,fun _ => root⟩
      rcases List.mem_append.mp mem with mem|mem
      · exact scheme b mem
      · exact named b mem
    · rw [encode_append,encode_append]
      refine ⟨fun clean b mem => ?_,fun clean b mem => clean b (List.mem_append_right _ mem)⟩
      rcases List.mem_append.mp mem with mem|mem
      · rcases List.mem_append.mp mem with mem|mem
        · exact scheme b mem
        · exact named b mem
      · exact clean b mem

/-- An address is read from its one text. -/
def fixtureFacts : TextFacts where
  isAbsolute _ := true
  components _ := []
  parseIpAddr _ := none
  parseSocketAddr text :=
    if text="127.0.0.1:8090" then some ⟨.v4 127 0 0 1,8090⟩ else none

theorem fixtureFacts_text (text : String) (address : SocketAddr)
    (parsed : fixtureFacts.parseSocketAddr text=some address) :
    ∀c∈text.toList,isAddressChar c=true := by
  have same : text="127.0.0.1:8090" := by
    by_contra other
    simp [fixtureFacts,other] at parsed
  rw [same]
  exact List.all_eq_true.mp (by decide)

theorem accepted_fixture (url : String)
    (authority : ((Cut.stripPrefix "http://" url).bind fun remainder =>
      (Cut.split '/' remainder).head?)=some "127.0.0.1:8090") :
    UrlAccepted fixtureFacts url 1000 1000 "services.api" := by
  have valid : SupervisorConfig.validateHttpFields fixtureFacts url 1000 1000 "services.api"=[] := by
    rw [SupervisorConfig.validateHttpFields,authority]
    rfl
  rw [UrlAccepted,valid]
  simp

theorem probe_one_request_iff_fixture :
    ∃address authority bytes,
      probeRequest fixtureFacts "http://127.0.0.1:8090/health" "*/*"=.ok (address,bytes) ∧
      OneRequest bytes authority "*/*" := by
  obtain ⟨address,authority,bytes,written,-,-,-,-,one⟩ :=
    probe_one_request_iff fixtureFacts_text 1000 1000 "services.api"
      (accepted_fixture "http://127.0.0.1:8090/health" (by decide)) "*/*" (by decide)
  exact ⟨address,authority,bytes,written,one.mpr (by decide +kernel)⟩

/-- The URL of a check whose path goes on with a field. -/
def smugglingUrl : String := "http://127.0.0.1:8090/ HTTP/1.1\r\nX-Added: 1\r\nX-Rest: "

def smuggledFields : List Field :=
  [⟨encode "X-Added",encode " 1"⟩,⟨encode "X-Rest",encode "  HTTP/1.1"⟩]++
    probeFields "127.0.0.1:8090" "*/*"

theorem isRequest_smuggled : IsRequest
    (encode (requestText "/ HTTP/1.1\r\nX-Added: 1\r\nX-Rest: " "127.0.0.1:8090" "*/*"))
    (encode "GET") (encode "/") smuggledFields := by
  refine ⟨⟨by decide +kernel,by decide +kernel⟩,⟨by decide +kernel,by decide +kernel⟩,fun field mem => ?_,by decide +kernel⟩
  simp only [smuggledFields,probeFields,List.cons_append,List.nil_append,List.mem_cons,
    List.not_mem_nil,or_false] at mem
  rcases mem with rfl|rfl|rfl|rfl|rfl <;> exact ⟨⟨by decide +kernel,by decide +kernel⟩,by decide +kernel⟩

theorem probe_smuggled : UrlAccepted fixtureFacts smugglingUrl 1000 1000 "services.api" ∧
    ∃address bytes,probeRequest fixtureFacts smugglingUrl "*/*"=.ok (address,bytes) ∧
      (∀authority,¬OneRequest bytes authority "*/*") ∧
      ∃fields,IsRequest bytes (encode "GET") (encode "/") fields ∧
        ⟨encode "X-Added",encode " 1"⟩∈fields := by
  refine ⟨accepted_fixture smugglingUrl (by decide +kernel),⟨.v4 127 0 0 1,8090⟩,_,
    by decide +kernel,fun authority one => ?_,smuggledFields,isRequest_smuggled,by decide⟩
  obtain ⟨target,request,_⟩ := one
  have fields := (isRequest_smuggled.unique request).2.2
  have added : ⟨encode "X-Added",encode " 1"⟩∈probeFields authority "*/*" :=
    fields ▸ List.mem_cons_self
  simp only [probeFields,List.mem_cons,List.not_mem_nil,or_false,Field.mk.injEq] at added
  rcases added with ⟨same,-⟩|⟨same,-⟩|⟨same,-⟩ <;> exact absurd same (by decide)

end HttpHealth

end AkuSupervisor
