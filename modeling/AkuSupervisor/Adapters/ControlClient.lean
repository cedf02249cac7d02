import AkuSupervisor.Lib.HeadText
import AkuSupervisor.Adapters.ControlRoutes
import AkuSupervisor.Adapters.RequestSegments

namespace AkuSupervisor

open TextLines HeadText

def mcpProtocolVersion : String := "2025-11-25"

/-- What the clients send: a bounded request, a subscription to live logs, or an MCP message. -/
inductive ClientCall where
  | request (method target : String) (body : List UInt8)
  | liveLogs (target : String)
  | mcp (body : List UInt8)
  deriving DecidableEq

namespace ClientCall

def body : ClientCall → List UInt8
  | .request _ _ body | .mcp body => body
  | .liveLogs _ => []

/-- The head of the call, to a server at this address. -/
def head (address : String) (token : RuntimeToken) : ClientCall → String
  | .request method target body =>
    s!"{method} {target} HTTP/1.1\r\nHost: {address}\r\nAuthorization: Bearer {token.text}\r\n"++
      s!"Content-Type: application/json\r\nContent-Length: {body.length}\r\n"++
      "Connection: close\r\n\r\n"
  | .liveLogs target =>
    s!"GET {target} HTTP/1.1\r\nHost: {address}\r\nAuthorization: Bearer {token.text}\r\n"++
      "Accept: application/x-ndjson\r\nConnection: close\r\n\r\n"
  | .mcp body =>
    s!"POST {ControlServer.mcpEndpoint} HTTP/1.1\r\nHost: {address}\r\nAuthorization: Bearer {token.text}\r\n"++
      "Accept: application/json, text/event-stream\r\nContent-Type: application/json\r\n"++
      s!"MCP-Protocol-Version: {mcpProtocolVersion}\r\nContent-Length: {body.length}\r\n"++
      "Connection: close\r\n\r\n"

def bytes (address : String) (token : RuntimeToken) (call : ClientCall) : List UInt8 :=
  encode (call.head address token)++call.body

def firstLine (method target : String) : String := s!"{method} {target} HTTP/1.1"

theorem firstLine_chars (method target : String) : (firstLine method target).toList=
    method.toList++ ' ' ::(target.toList++ ' ' ::"HTTP/1.1".toList) := by
  simp [firstLine,toString]

/-- The lines of the head. -/
def lines (address : String) (token : RuntimeToken) : ClientCall → List String
  | .request method target body =>
    [firstLine method target,"Host"++": "++address,
      "Authorization"++": "++s!"Bearer {token.text}","Content-Type"++": "++"application/json",
      "Content-Length"++": "++body.length.repr,"Connection"++": "++"close"]
  | .liveLogs target =>
    [firstLine "GET" target,"Host"++": "++address,
      "Authorization"++": "++s!"Bearer {token.text}","Accept"++": "++"application/x-ndjson",
      "Connection"++": "++"close"]
  | .mcp body =>
    [firstLine "POST" ControlServer.mcpEndpoint,"Host"++": "++address,
      "Authorization"++": "++s!"Bearer {token.text}",
      "Accept"++": "++"application/json, text/event-stream",
      "Content-Type"++": "++"application/json",
      "MCP-Protocol-Version"++": "++mcpProtocolVersion,
      "Content-Length"++": "++body.length.repr,"Connection"++": "++"close"]

theorem head_lines (address : String) (token : RuntimeToken) (call : ClientCall) :
    call.head address token=headText (call.lines address token) := by
  have host : " HTTP/1.1\r\nHost: "=" HTTP/1.1"++("\r\n"++("Host"++": ")) := by decide
  have bearer : "\r\nAuthorization: Bearer "="\r\n"++("Authorization"++(": "++"Bearer ")) := by
    decide
  have close : "Connection: close\r\n\r\n"="Connection"++(": "++("close"++"\r\n\r\n")) := by decide
  cases call with
  | request method target body =>
    have json : "Content-Type: application/json\r\nContent-Length: "="Content-Type"++(": "++(
        "application/json"++("\r\n"++("Content-Length"++": ")))) := by decide
    simp only [head,lines,firstLine,headText_cons,headText_last,String.append_assoc,toString,host,bearer,json,
      close]
  | liveLogs target =>
    have get : "GET "="GET"++" " := by decide
    have accept : "Accept: application/x-ndjson\r\nConnection: close\r\n\r\n"="Accept"++(": "++(
        "application/x-ndjson"++("\r\n"++("Connection"++(": "++("close"++"\r\n\r\n")))))) := by
      decide
    simp only [head,lines,firstLine,headText_cons,headText_last,String.append_assoc,toString,host,bearer,
      get,accept]
  | mcp body =>
    have post : "POST "="POST"++" " := by decide
    have accept : "Accept: application/json, text/event-stream\r\nContent-Type: application/json\r\n"=
        "Accept"++(": "++("application/json, text/event-stream"++("\r\n"++("Content-Type"++(": "++(
          "application/json"++"\r\n")))))) := by decide
    have version : "MCP-Protocol-Version: "="MCP-Protocol-Version"++": " := by decide
    have length : "\r\nContent-Length: "="\r\n"++("Content-Length"++": ") := by decide
    simp only [head,lines,firstLine,headText_cons,headText_last,String.append_assoc,toString,host,bearer,
      post,accept,version,length,close]

/-- The call as the server has to see it. -/
def seen (address : String) (token : RuntimeToken) : ClientCall → HttpRequest
  | .request method target body =>
    ⟨⟨some address,some s!"Bearer {token.text}",none,some "application/json",none,none,none,none⟩,
      method,target,body⟩
  | .liveLogs target =>
    ⟨⟨some address,some s!"Bearer {token.text}",some "application/x-ndjson",none,none,none,none,
      none⟩,"GET",target,[]⟩
  | .mcp body =>
    ⟨⟨some address,some s!"Bearer {token.text}",some "application/json, text/event-stream",
      some "application/json",none,none,none,some mcpProtocolVersion⟩,"POST",ControlServer.mcpEndpoint,body⟩

/-- A text that is one word. -/
def IsWord (text : String) : Prop := text.toList≠[] ∧ ∀c∈text.toList,isWhitespace c=false

instance (text : String) : Decidable (IsWord text) :=
  decidable_of_iff (text.toList≠[] ∧ text.toList.all (fun c => isWhitespace c=false)=true) (by
    simp only [IsWord,List.all_eq_true,decide_eq_true_eq])

/-- The length of the body, where the head tells it. -/
def announced : ClientCall → Option Nat
  | .request _ _ body | .mcp body => some body.length
  | .liveLogs _ => none

/-- The method and the target are words, and the limits of the server hold. -/
structure Fits (address : String) (token : RuntimeToken) (call : ClientCall) : Prop where
  host : IsWord address
  words : ∀method target body,call=.request method target body → IsWord method ∧ IsWord target
  target : ∀target,call=.liveLogs target → IsWord target
  body : call.body.length ≤ maxBodyBytes
  head : (encode (call.head address token)).length ≤ maxHeaderBytes

end ClientCall

section Headers

theorem dropWhile_head {chars : List Char} (first : ∀c∈chars.head?,isWhitespace c=false) :
    chars.dropWhile isWhitespace=chars := by
  cases chars with
  | nil => rfl
  | cons c chars => rw [List.dropWhile_cons_of_neg (by simp [first c rfl])]

/-- The value of a header, as it is written behind the colon. -/
theorem trim_value {text : String} (first : ∀c∈text.toList.head?,isWhitespace c=false)
    (last : ∀c∈text.toList.getLast?,isWhitespace c=false) : trim (" "++text)=text := by
  have blank : (' '::text.toList).dropWhile isWhitespace=text.toList := by
    rw [List.dropWhile_cons_of_pos (by decide)]
    exact dropWhile_head first
  have back : text.toList.reverse.dropWhile isWhitespace=text.toList.reverse := by
    apply dropWhile_head
    rw [List.head?_reverse]
    exact last
  rw [trim,String.toList_append]
  show String.ofList (((' '::text.toList).dropWhile isWhitespace).reverse.dropWhile
    isWhitespace).reverse=text
  rw [blank,back,List.reverse_reverse,String.ofList_toList]

theorem trim_word {text : String} (word : ClientCall.IsWord text) : trim (" "++text)=text :=
  trim_value (fun c mem => word.2 c (List.mem_of_mem_head? mem))
    fun c mem => word.2 c (List.mem_of_getLast? mem)

/-- A header line is taken by the name of the header. -/
theorem line_header (scan : HeaderScan) {name : String} (value : String)
    (fresh : ':'∉name.toList) :
    scan.line (name++": "++value)=scan.header (asciiLowercase (trim name)) (" "++value) := by
  have text : name++": "++value=name++":"++(" "++value) := by
    rw [String.append_assoc,String.append_assoc]
    rfl
  have starts : ":".toList=[':'] := by decide
  have cut := Cut.splitOnce_of_not_mem starts (" "++value) fresh
  rw [text,HeaderScan.line,cut]

/-- Three words are a request line. -/
theorem requestLine_words {method target : String} (word : ClientCall.IsWord method)
    (word' : ClientCall.IsWord target) :
    requestLine (ClientCall.firstLine method target)=.ok (method,target) := by
  have chars := ClientCall.firstLine_chars method target
  have last : Words.wordsFrom isWhitespace [] "HTTP/1.1".toList=["HTTP/1.1".toList] := by decide
  have words : Words.words isWhitespace (ClientCall.firstLine method target).toList=
      [method.toList,target.toList,"HTTP/1.1".toList] := by
    rw [chars,Words.words,Words.wordsFrom_cut [] _ (by simpa using word.1) word.2 rfl,
      Words.wordsFrom_cut [] _ (by simpa using word'.1) word'.2 rfl,last]
    rfl
  rw [requestLine,words]
  simp

theorem isWhitespace_visible {c : Char} (low : 33 ≤ c.toNat) (high : c.toNat ≤ 126) :
    isWhitespace c=false := by
  simp only [isWhitespace,Bool.or_eq_false_iff,Bool.and_eq_false_iff,decide_eq_false_iff_not,
    beq_eq_false_iff_ne]
  omega

theorem isWhitespace_digit {c : Char} (digit : c.isDigit=true) : isWhitespace c=false := by
  simp only [Char.isDigit,Bool.and_eq_true,decide_eq_true_eq] at digit
  have low : 48 ≤ c.toNat := digit.1
  have high : c.toNat ≤ 57 := digit.2
  exact isWhitespace_visible (by omega) (by omega)

theorem isWord_repr (n : Nat) : ClientCall.IsWord n.repr := by
  refine ⟨?_,fun c mem => ?_⟩
  · rw [Nat.toList_repr]
    exact Nat.toDigits_ne_nil
  · rw [Nat.toList_repr] at mem
    exact isWhitespace_digit (Nat.isDigit_of_mem_toDigits (by decide) (by decide) mem)

theorem isWhitespace_token {c : Char} (digit : isTokenDigit c=true) : isWhitespace c=false := by
  simp only [isTokenDigit,Bool.or_eq_true,Bool.and_eq_true,decide_eq_true_eq] at digit
  rcases digit with digit|letter
  · exact isWhitespace_digit digit
  · have low : 97 ≤ c.toNat := letter.1
    have high : c.toNat ≤ 102 := letter.2
    exact isWhitespace_visible (by omega) (by omega)

theorem trim_bearer (token : RuntimeToken) :
    trim (" "++s!"Bearer {token.text}")=s!"Bearer {token.text}" := by
  have chars : (s!"Bearer {token.text}").toList="Bearer ".toList++token.text.toList := by
    simp [toString]
  have some_char : token.text.toList≠[] := by
    intro empty
    have length := token.length
    rw [TextLines.encode,empty] at length
    exact absurd length (by decide)
  apply trim_value
  · intro c mem
    rw [chars] at mem
    cases mem
    rfl
  · intro c mem
    rw [chars,List.getLast?_append_of_ne_nil _ some_char] at mem
    exact isWhitespace_token (List.all_eq_true.mp token.digits c (List.mem_of_getLast? mem))

variable (scan : HeaderScan)

-- Its equations are made here once, and not in each of the lemmas below while the others wait.
attribute [local simp] HeaderScan.header

theorem line_host (value : String) (fresh : scan.headers.host=none) :
    scan.line ("Host"++": "++value)=.ok { scan with headers.host := some (trim (" "++value)) } := by
  have name : asciiLowercase (trim "Host")="host" := by decide
  rw [line_header _ _ (by decide),name,HeaderScan.header,fresh]
  rfl

theorem line_authorization (value : String) (fresh : scan.headers.authorization=none) :
    scan.line ("Authorization"++": "++value)=
      .ok { scan with headers.authorization := some (trim (" "++value)) } := by
  have name : asciiLowercase (trim "Authorization")="authorization" := by decide
  rw [line_header _ _ (by decide),name,HeaderScan.header,fresh]
  rfl

theorem line_accept (value : String) (fresh : scan.headers.accept=none) :
    scan.line ("Accept"++": "++value)=.ok { scan with headers.accept := some (trim (" "++value)) } := by
  have name : asciiLowercase (trim "Accept")="accept" := by decide
  rw [line_header _ _ (by decide),name,HeaderScan.header,fresh]
  rfl

theorem line_json (fresh : scan.headers.contentType=none) :
    scan.line ("Content-Type"++": "++"application/json")=
      .ok { scan with headers.contentType := some "application/json" } := by
  have name : asciiLowercase (trim "Content-Type")="content-type" := by decide
  have media : trim (mediaType (" "++"application/json"))="application/json" := by decide
  rw [line_header _ _ (by decide),name,HeaderScan.header,fresh,setSingleHeader,media]
  rfl

theorem line_version (fresh : scan.headers.mcpProtocolVersion=none) :
    scan.line ("MCP-Protocol-Version"++": "++mcpProtocolVersion)=
      .ok { scan with headers.mcpProtocolVersion := some mcpProtocolVersion } := by
  have name : asciiLowercase (trim "MCP-Protocol-Version")="mcp-protocol-version" := by decide
  have version : trim (" "++mcpProtocolVersion)=mcpProtocolVersion := by decide
  rw [line_header _ _ (by decide),name,HeaderScan.header,fresh,setSingleHeader,version]
  rfl

theorem line_length {length : Nat} (fits : length ≤ maxBodyBytes) (fresh : scan.contentLength=none) :
    scan.line ("Content-Length"++": "++length.repr)=
      .ok { scan with contentLength := some length } := by
  have name : asciiLowercase (trim "Content-Length")="content-length" := by decide
  have small : length < UInt64.size := Nat.lt_of_le_of_lt fits (by decide)
  rw [line_header _ _ (by decide),name,HeaderScan.header,fresh,trim_word (isWord_repr length),
    parseUsize_repr small]
  simp only [Option.isSome_none,Bool.false_eq_true,if_false]
  exact if_neg (Nat.not_lt_of_le fits)

theorem line_connection : scan.line ("Connection"++": "++"close")=.ok scan := by
  have name : asciiLowercase (trim "Connection")="connection" := by decide
  rw [line_header _ _ (by decide),name,HeaderScan.header]
  all_goals decide

theorem fold_line {scan next : HeaderScan} {line : String} (lines : List String)
    (taken : scan.line line=.ok next) :
    (line::lines).foldlM HeaderScan.line scan=lines.foldlM HeaderScan.line next := by
  rw [List.foldlM_cons,taken]
  rfl

/-- A head is read line by line. -/
theorem parseHeaders_text {first method target : String} {lines : List String} {scan : HeaderScan}
    (proper : ∀line∈first::lines,IsLine line) (words : requestLine first=.ok (method,target))
    (scanned : lines.foldlM HeaderScan.line .start=.ok scan) :
    parseHeaders (encode (headText (first::lines)))=.ok ((method,target),scan) := by
  have cut : headerLines (headText (first::lines))=first::lines :=
    parts_headText (by simp) proper
  rw [parseHeaders,decode_encode]
  simp only [cut,words,scanned]
  rfl

end Headers

namespace ClientCall

variable {address : String} {token : RuntimeToken} {call : ClientCall}

theorem IsWord.single {text : String} (word : IsWord text) : '\r'∉text.toList := by
  intro mem
  exact absurd (word.2 '\r' mem) (by decide)

theorem isLine_request {method target : String} (word : IsWord method) (word' : IsWord target) :
    IsLine (firstLine method target) := by
  have chars := firstLine_chars method target
  have version : '\r'∉"HTTP/1.1".toList := by decide
  constructor
  · rw [chars]
    simp
  · rw [chars]
    simp only [List.mem_append,List.mem_cons,not_or]
    exact ⟨word.single,by decide,word'.single,by decide,version⟩

theorem isLine_header {name value : String} (named : IsLine name) (single : '\r'∉value.toList) :
    IsLine (name++": "++value) := by
  obtain ⟨some_char,fresh⟩ := named
  have colon : '\r'∉": ".toList := by decide
  constructor
  · rw [String.toList_append,String.toList_append]
    simp [some_char]
  · rw [String.toList_append,String.toList_append]
    simp only [List.mem_append,not_or]
    exact ⟨⟨fresh,colon⟩,single⟩

theorem bearer_single (token : RuntimeToken) : '\r'∉(s!"Bearer {token.text}").toList := by
  have chars : (s!"Bearer {token.text}").toList="Bearer ".toList++token.text.toList := by
    simp [toString]
  have front : '\r'∉"Bearer ".toList := by decide
  rw [chars,List.mem_append,not_or]
  refine ⟨front,fun mem => ?_⟩
  exact absurd (List.all_eq_true.mp token.digits '\r' mem) (by decide)

theorem Fits.proper (fits : call.Fits address token) :
    ∀line∈call.lines address token,IsLine line := by
  have host : IsLine ("Host"++": "++address) := isLine_header (by decide) fits.host.single
  have bearer : IsLine ("Authorization"++": "++s!"Bearer {token.text}") :=
    isLine_header (by decide) (bearer_single token)
  have length (n : Nat) : IsLine ("Content-Length"++": "++n.repr) :=
    isLine_header (by decide) (isWord_repr n).single
  intro line mem
  cases call with
  | request method target body =>
    obtain ⟨word,word'⟩ := fits.words method target body rfl
    simp only [lines,List.mem_cons,List.not_mem_nil,or_false] at mem
    rcases mem with rfl|rfl|rfl|rfl|rfl|rfl
    · exact isLine_request word word'
    · exact host
    · exact bearer
    · decide
    · exact length _
    · decide
  | liveLogs target =>
    simp only [lines,List.mem_cons,List.not_mem_nil,or_false] at mem
    rcases mem with rfl|rfl|rfl|rfl|rfl
    · exact isLine_request (show IsWord "GET" by decide) (fits.target target rfl)
    · exact host
    · exact bearer
    · decide
    · decide
  | mcp body =>
    simp only [lines,List.mem_cons,List.not_mem_nil,or_false] at mem
    rcases mem with rfl|rfl|rfl|rfl|rfl|rfl|rfl|rfl
    · decide
    · exact host
    · exact bearer
    · decide
    · decide
    · decide
    · exact length _
    · decide

/-- The server reads from the head what the client has put into it. -/
theorem Fits.parse (fits : call.Fits address token) :
    parseHeaders (encode (call.head address token))=
      .ok (((call.seen address token).method,(call.seen address token).target),
        ⟨(call.seen address token).toHttpHeaders,call.announced⟩) := by
  have proper := fits.proper
  have host := trim_word fits.host
  rw [head_lines]
  cases call with
  | request method target content =>
    obtain ⟨word,word'⟩ := fits.words method target content rfl
    have small : content.length ≤ maxBodyBytes := fits.body
    refine parseHeaders_text proper (requestLine_words word word') ?_
    rw [fold_line _ (line_host _ _ rfl),fold_line _ (line_authorization _ _ rfl),
      fold_line _ (line_json _ rfl),fold_line _ (line_length _ small rfl),
      fold_line _ (line_connection _),host,trim_bearer]
    rfl
  | liveLogs target =>
    have accept : trim (" "++"application/x-ndjson")="application/x-ndjson" := by decide
    refine parseHeaders_text proper
      (requestLine_words (show IsWord "GET" by decide) (fits.target target rfl)) ?_
    rw [fold_line _ (line_host _ _ rfl),fold_line _ (line_authorization _ _ rfl),
      fold_line _ (line_accept _ _ rfl),fold_line _ (line_connection _),host,trim_bearer,accept]
    rfl
  | mcp content =>
    have small : content.length ≤ maxBodyBytes := fits.body
    have accept : trim (" "++"application/json, text/event-stream")=
        "application/json, text/event-stream" := by decide
    refine parseHeaders_text proper
      (requestLine_words (show IsWord "POST" by decide)
        (show IsWord ControlServer.mcpEndpoint by decide)) ?_
    rw [fold_line _ (line_host _ _ rfl),fold_line _ (line_authorization _ _ rfl),
      fold_line _ (line_accept _ _ rfl),fold_line _ (line_json _ rfl),
      fold_line _ (line_version _ rfl),fold_line _ (line_length _ small rfl),
      fold_line _ (line_connection _),host,trim_bearer,accept]
    rfl

theorem announced_body (call : ClientCall) : call.announced.getD 0=call.body.length := by
  cases call <;> rfl

theorem seen_body (address : String) (token : RuntimeToken) (call : ClientCall) :
    (call.seen address token).body=call.body := by
  cases call <;> rfl

/-- The bytes of a call, as a header section and the body that it announces. -/
theorem Fits.delimited (fits : call.Fits address token) :
    ∃front,encode (call.head address token)=front++headerEnd ∧ Delimited front call.body := by
  have some_line : call.lines address token≠[] := by
    cases call <;> exact List.cons_ne_nil _ _
  have proper := fits.proper
  have text := encode_headText (call.lines address token)
  rw [← head_lines] at text
  refine ⟨_,text,?_,?_,?_⟩
  · have cut := once_headText some_line proper call.body
    rwa [← head_lines,text] at cut
  · have small := fits.head
    rwa [text] at small
  · intro fields scan parsed
    have found := fits.parse
    rw [text] at found
    cases found.symm.trans parsed
    rw [announced_body]
    exact ⟨rfl,fits.body⟩

theorem Fits.requestIn (fits : call.Fits address token) {front part : List UInt8}
    (head : encode (call.head address token)=front++headerEnd)
    (cut : Cut.once headerEnd (front++headerEnd++part)=some (front,part)) :
    requestIn (front++headerEnd++part)=
      if part.length < call.body.length then .error .unexpectedEnd
      else .ok { call.seen address token with body := part.take call.body.length } := by
  have parsed := fits.parse
  rw [head] at parsed
  rw [AkuSupervisor.requestIn,cut]
  simp only [bind,Except.bind,parsed,announced_body]
  split_ifs
  · rfl
  · rfl

/-- Of a call that has arrived the server has read all of it, or nothing. -/
theorem Fits.read_part (fits : call.Fits address token) {chunks : List (List UInt8)}
    (filled : ∀chunk∈chunks,chunk≠[]) (inside : chunks.flatten <+: call.bytes address token) :
    (chunks.flatten=call.bytes address token ∧
        ∀more,readRequest (chunks.map .ok++more)=.ok (call.seen address token)) ∨
      chunks.flatten≠call.bytes address token ∧
        readRequest (chunks.map .ok)=.error .unexpectedEnd := by
  obtain ⟨front,head,delimited⟩ := fits.delimited
  have whole : call.bytes address token=front++headerEnd++call.body := by
    rw [bytes,head]
  rw [whole] at inside ⊢
  by_cases joined : chunks.flatten=front++headerEnd++call.body
  · refine .inl ⟨joined,fun more => ?_⟩
    have read := @readRequest_eq _ _ _ delimited List.prefix_rfl _ filled joined more
      fun proper => absurd rfl proper
    rw [read,fits.requestIn head delimited.section_,if_neg (Nat.lt_irrefl _),List.take_length]
    rw [← seen_body address token]
  · refine .inr ⟨joined,?_⟩
    have read := @readRequest_eq _ _ _ delimited inside _ filled rfl [] fun _ => rfl
    rw [List.append_nil] at read
    rw [read]
    rcases delimited.sent_cases inside with ⟨body,split,short,cut⟩|⟨missing,-⟩
    · rw [split] at cut joined ⊢
      rw [fits.requestIn head cut,if_pos]
      refine Nat.lt_of_le_of_ne short.length_le fun same => joined ?_
      rw [short.eq_of_length same]
    · rw [AkuSupervisor.requestIn,missing]

/-- However a call arrives, the server reads it as the client has sent it. What arrives of a call that is
cut is no request. -/
theorem sent_call_is_read (address : String) (token : RuntimeToken) (call : ClientCall)
    (fits : call.Fits address token) (chunks : List (List UInt8))
    (filled : ∀chunk∈chunks,chunk≠[]) :
    (chunks.flatten=call.bytes address token → ∀more,
        readRequest (chunks.map .ok++more)=.ok (call.seen address token)) ∧
      (chunks.flatten <+: call.bytes address token → chunks.flatten≠call.bytes address token →
        readRequest (chunks.map .ok)=.error .unexpectedEnd) := by
  constructor
  · intro joined more
    rcases fits.read_part filled (joined ▸ List.prefix_rfl) with ⟨-,read⟩|⟨cut,-⟩
    · exact read more
    · exact absurd joined cut
  · intro part proper
    rcases fits.read_part filled part with ⟨joined,-⟩|⟨-,read⟩
    · exact absurd joined proper
    · exact read

/-- How long the head of a request is. -/
theorem length_head (address : String) (token : RuntimeToken) (method target : String)
    (body : List UInt8) :
    (encode ((ClientCall.request method target body).head address token)).length=
      (encode method).length+(encode target).length+(encode address).length+
        (encode body.length.repr).length+tokenLength+115 := by
  have space : (encode " ").length=1 := by decide
  have host : (encode " HTTP/1.1\r\nHost: ").length=17 := by decide
  have bearer : (encode "\r\nAuthorization: Bearer ").length=24 := by decide
  have line : (encode "\r\n").length=2 := by decide
  have json : (encode "Content-Type: application/json\r\nContent-Length: ").length=48 := by
    decide
  have close : (encode "Connection: close\r\n\r\n").length=21 := by decide
  have token := token.length
  simp only [head,toString,encode_append,List.length_append]
  omega

theorem cut_filled {n : Nat} {bytes : List UInt8} (some : 0 < n) (short : n < bytes.length) :
    ∀chunk∈[bytes.take n,bytes.drop n],chunk≠[] := by
  intro chunk mem
  apply List.ne_nil_of_length_pos
  rcases List.mem_pair.mp mem with rfl|rfl
  · rw [List.length_take]
    omega
  · rw [List.length_drop]
    omega

def sampleToken : RuntimeToken := ⟨String.ofList (List.replicate 64 'a'),by decide,by decide⟩

def restartCall : ClientCall := .request "POST" "/v1/services/api/restart" (encode "null")

theorem restartCall_fits : restartCall.Fits "127.0.0.1:8080" sampleToken where
  host := by decide
  words method target body same := by
    cases same
    decide
  target target same := by cases same
  body := by decide
  head := by
    rw [restartCall,length_head]
    decide

def restartBytes : List UInt8 := restartCall.bytes "127.0.0.1:8080" sampleToken

theorem restart_long : 30 < restartBytes.length := by
  rw [restartBytes,bytes,restartCall,List.length_append,length_head]
  omega

/-- The call comes in two pieces, or only the first of them comes. -/
theorem sent_call_is_read_restart :
    readRequest ([restartBytes.take 30,restartBytes.drop 30].map .ok++[])=
        .ok (restartCall.seen "127.0.0.1:8080" sampleToken) ∧
      readRequest ([restartBytes.take 30].map .ok)=.error .unexpectedEnd := by
  have filled := cut_filled (by decide) restart_long
  have whole : [restartBytes.take 30,restartBytes.drop 30].flatten=restartBytes := by
    simp only [List.flatten_cons,List.flatten_nil,List.append_nil,List.take_append_drop]
  have front : [restartBytes.take 30].flatten=restartBytes.take 30 := List.append_nil _
  have short : [restartBytes.take 30].flatten≠restartBytes := by
    intro same
    have lengths := congrArg List.length (front.symm.trans same)
    rw [List.length_take] at lengths
    have long := restart_long
    omega
  have part : [restartBytes.take 30].flatten <+: restartBytes := by
    rw [front]
    exact List.take_prefix _ _
  exact ⟨(sent_call_is_read "127.0.0.1:8080" sampleToken restartCall restartCall_fits
      [restartBytes.take 30,restartBytes.drop 30] filled).1 whole [],
    (sent_call_is_read "127.0.0.1:8080" sampleToken restartCall restartCall_fits
      [restartBytes.take 30] fun chunk mem =>
        filled chunk (List.mem_singleton.mp mem ▸ List.mem_cons_self)).2 part short⟩

end ClientCall

end AkuSupervisor
