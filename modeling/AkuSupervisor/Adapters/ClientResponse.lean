import AkuSupervisor.Lib.HeadText
import AkuSupervisor.Adapters.ControlClient
import AkuSupervisor.Adapters.HttpResponse

namespace AkuSupervisor

open TextLines HeadText

namespace Response

def reasonPhrase (status : Nat) : String :=
  match status with
  | 200 => "OK"
  | 202 => "Accepted"
  | 400 => "Bad Request"
  | 401 => "Unauthorized"
  | 403 => "Forbidden"
  | 404 => "Not Found"
  | 409 => "Conflict"
  | 405 => "Method Not Allowed"
  | 415 => "Unsupported Media Type"
  | 500 => "Internal Server Error"
  | _ => "Unknown"

def securityHeaders : List (String × String) :=
  [("Cache-Control","no-store"),("X-Content-Type-Options","nosniff"),
    ("Referrer-Policy","no-referrer"),
    ("Content-Security-Policy","default-src 'none'; script-src 'self'; "++
      "style-src 'self'; connect-src 'self'; "++"base-uri 'none'; form-action 'none'; "++
      "frame-ancestors 'none'")]

/-- The headers of a response, in their order. -/
def headers (response : Response) : List (String × String) :=
  response.contentType.toList.map (("Content-Type",·))++
    (if response.dashboardSecurityHeaders=true then securityHeaders else [])++
    [("Content-Length",response.body.length.repr),("Connection","close")]

/-- What `write_response` puts on the stream. -/
def written (response : Response) : List UInt8 :=
  encode s!"HTTP/1.1 {response.status} {reasonPhrase response.status}\r\n"++
    (response.headers.flatMap fun header => encode s!"{header.1}: {header.2}\r\n")++
    encode "\r\n"++response.body

end Response

/-- Why a client of the control server gets no value. -/
inductive ControlClientError (V : Type) where
  | connect (message : String)
  | write (message : String)
  | read (message : String)
  | serialize
  | deserialize
  | messageTooLarge
  | malformedResponse
  | deadlineExceeded
  | rejected (status : Nat) (body : V)
  deriving DecidableEq

/-- Whether an idempotent request may be retried after this failure. -/
def ControlClientError.isTransient {V : Type} : ControlClientError V → Bool
  | .serialize | .messageTooLarge | .rejected _ _ => false
  | _ => true

namespace ControlClient

variable {V : Type}

def maxResponseBytes : Nat := 1024*1024

/-- Reads to the end of the stream, or to the limit. -/
def readToLimit : List ReadResult → List UInt8 → Except (ControlClientError V) (List UInt8)
  | [],bytes => .ok bytes
  | read::reads,bytes =>
    if maxResponseBytes ≤ bytes.length then .ok bytes
    else
      match read with
      | .error message => .error (.read message)
      | .ok chunk =>
        if chunk=[] then .ok bytes
        else readToLimit reads (bytes++chunk.take (maxResponseBytes-bytes.length))

def responseParts (response : List UInt8) : Except (ControlClientError V) (Nat × List UInt8) :=
  match Cut.once headerEnd response with
  | none => .error .malformedResponse
  | some (front,body) =>
    match decode (front++headerEnd) with
    | none => .error .malformedResponse
    | some headers =>
      match responseStatus headers with
      | none => .error .malformedResponse
      | some status => .ok (status,body)

/-- `parse` reads a JSON value. -/
def decodeJsonResponse (parse : List UInt8 → Option V) (status : Nat) (body : List UInt8) :
    Except (ControlClientError V) V :=
  match parse body with
  | none => .error .deserialize
  | some value => if 200 ≤ status ∧ status < 300 then .ok value else .error (.rejected status value)

/-- A notification is accepted without a value. -/
def decodeMcpResponse (parse : List UInt8 → Option V) (status : Nat) (body : List UInt8) :
    Except (ControlClientError V) (Option V) :=
  if status=202 ∧ body=[] then .ok none else (decodeJsonResponse parse status body).map some

/-- What a client makes of what it reads: `decode` takes the status and the body. -/
def receive {W : Type} (decode : Nat → List UInt8 → Except (ControlClientError V) W)
    (reads : List ReadResult) : Except (ControlClientError V) W := do
  let response ← readToLimit reads []
  let (status,body) ← responseParts response
  decode status body

end ControlClient

namespace Response

/-- A status of 16 bits, and a content type on one line. -/
structure Proper (response : Response) : Prop where
  status : response.status < 65536
  contentType : ∀contentType∈response.contentType,'\r'∉contentType.toList

def statusLine (response : Response) : String :=
  s!"HTTP/1.1 {response.status} {reasonPhrase response.status}"

def headLines (response : Response) : List String :=
  response.headers.map fun header => header.1++": "++header.2

variable {response : Response}

theorem written_eq (response : Response) :
    response.written=encode (headText (response.statusLine::response.headLines))++
      response.body := by
  have breaks : encode "\r\n"=[13,10] := by decide
  have first : encode s!"HTTP/1.1 {response.status} {reasonPhrase response.status}\r\n"=
      encode response.statusLine++[13,10] := by
    rw [← breaks,← encode_append]
    rfl
  have line (header : String × String) : encode s!"{header.1}: {header.2}\r\n"=
      encode (header.1++": "++header.2)++[13,10] := by
    rw [← breaks,← encode_append]
    rfl
  rw [encode_breaks,written,headLines,List.flatMap_map,first,breaks]
  simp only [line]

theorem reasonPhrase_plain (status : Nat) :
    (reasonPhrase status).toList.all (fun c => c≠ '\r' ∧ c≠ '\n')=true := by
  unfold reasonPhrase
  split <;> decide

theorem statusLine_chars (response : Response) : response.statusLine.toList=
    "HTTP/1.1".toList++ ' ' ::(response.status.repr.toList++ ' ' ::
      (reasonPhrase response.status).toList) := by
  simp [statusLine,toString]

theorem statusLine_plain (response : Response) :
    IsLine response.statusLine ∧ '\n'∉response.statusLine.toList := by
  have plain := List.all_eq_true.mp (reasonPhrase_plain response.status)
  have number := isWord_repr response.status
  have apart (c : Char) (blank : isWhitespace c=true) (fresh : c∉"HTTP/1.1".toList)
      (other : c≠ ' ') (phrase : c∉(reasonPhrase response.status).toList) :
      c∉response.statusLine.toList := by
    rw [statusLine_chars]
    simp only [List.mem_append,List.mem_cons,not_or]
    refine ⟨fresh,other,fun mem => ?_,other,phrase⟩
    rw [number.2 c mem] at blank
    cases blank
  refine ⟨⟨?_,?_⟩,?_⟩
  · rw [statusLine_chars]
    simp
  · exact apart '\r' (by decide) (by decide) (by decide) fun mem => (of_decide_eq_true (plain _ mem)).1 rfl
  · exact apart '\n' (by decide) (by decide) (by decide) fun mem => (of_decide_eq_true (plain _ mem)).2 rfl

theorem securityHeaders_clean :
    ∀header∈securityHeaders,IsLine header.1 ∧ '\r'∉header.2.toList := by
  simp [securityHeaders,IsLine]

theorem Proper.lines (proper : response.Proper) :
    ∀line∈response.statusLine::response.headLines,IsLine line := by
  intro line mem
  rcases List.mem_cons.mp mem with rfl|mem
  · exact (statusLine_plain response).1
  · obtain ⟨header,inside,rfl⟩ := List.mem_map.mp mem
    unfold headers at inside
    rcases List.mem_append.mp inside with early|late
    · rcases List.mem_append.mp early with typed|security
      · obtain ⟨contentType,here,rfl⟩ := List.mem_map.mp typed
        exact ClientCall.isLine_header (show IsLine "Content-Type" by decide)
          (proper.contentType contentType (Option.mem_toList.mp here))
      · split_ifs at security with dashboard
        · have clean := securityHeaders_clean header security
          exact ClientCall.isLine_header clean.1 clean.2
        · cases security
    · rcases List.mem_cons.mp late with rfl|last
      · exact ClientCall.isLine_header (show IsLine "Content-Length" by decide)
          (isWord_repr _).single
      · rw [List.mem_singleton.mp last]
        decide

/-- The client reads the status from the head. -/
theorem Proper.responseStatus (proper : response.Proper) :
    responseStatus (headText (response.statusLine::response.headLines))=some response.status := by
  have plain : ("HTTP/1.1".toList.all fun c => isWhitespace c=false)=true := by decide
  have version (c : Char) (mem : c∈"HTTP/1.1".toList) : isWhitespace c=false :=
    of_decide_eq_true (List.all_eq_true.mp plain c mem)
  have number := isWord_repr response.status
  have words : ∃more,Words.words isWhitespace response.statusLine.toList=
      "HTTP/1.1".toList::response.status.repr.toList::more := by
    rw [statusLine_chars,Words.words,Words.wordsFrom_cut [] _ (by decide) version rfl,
      Words.wordsFrom_cut [] _ (by simp) number.2 rfl]
    exact ⟨_,rfl⟩
  obtain ⟨more,split⟩ := words
  rw [AkuSupervisor.responseStatus,textLines_headText _ _ (statusLine_plain response).2,
    Option.bind_some,split,List.map_cons,List.map_cons,List.getElem?_cons_succ,
    List.getElem?_cons_zero,Option.bind_some,String.ofList_toList]
  exact parseUnsigned_repr proper.status

end Response

namespace ControlClient

variable {V : Type} {response : Response} {parse : List UInt8 → Option V}

/-- How a stream ends: it is closed, or a read fails. -/
inductive Ends : List ReadResult → Prop
  | stopped : Ends []
  | closed (more : List ReadResult) : Ends (.ok []::more)
  | failed (message : String) (more : List ReadResult) : Ends (.error message::more)

theorem readToLimit_full {bytes : List UInt8} (full : maxResponseBytes ≤ bytes.length)
    (reads : List ReadResult) : readToLimit reads bytes=(.ok bytes : Except (ControlClientError V) _) := by
  cases reads with
  | nil => rfl
  | cons read reads => cases read <;> simp [readToLimit,full]

theorem readToLimit_more {bytes chunk : List UInt8} (short : ¬maxResponseBytes ≤ bytes.length)
    (filled : chunk≠[]) (reads : List ReadResult) :
    readToLimit (.ok chunk::reads) bytes=(readToLimit reads
      (bytes++chunk.take (maxResponseBytes-bytes.length)) : Except (ControlClientError V) _) := by
  simp [readToLimit,short,filled]

theorem readToLimit_closed (bytes : List UInt8) (more : List ReadResult) :
    readToLimit (.ok []::more) bytes=(.ok bytes : Except (ControlClientError V) _) := by
  by_cases full : maxResponseBytes ≤ bytes.length
  · exact readToLimit_full full _
  · simp [readToLimit,full]

theorem readToLimit_failed {bytes : List UInt8} (short : ¬maxResponseBytes ≤ bytes.length)
    (message : String) (more : List ReadResult) :
    readToLimit (.error message::more) bytes=
      (.error (.read message) : Except (ControlClientError V) _) := by
  simp [readToLimit,short]

/-- What the reads give, up to the limit. -/
theorem readToLimit_chunks {chunks : List (List UInt8)} (filled : ∀chunk∈chunks,chunk≠[])
    (ending : List ReadResult) {bytes : List UInt8} (room : bytes.length ≤ maxResponseBytes) :
    readToLimit (chunks.map .ok++ending) bytes=
      if maxResponseBytes ≤ (bytes++chunks.flatten).length then
        (.ok ((bytes++chunks.flatten).take maxResponseBytes) : Except (ControlClientError V) _)
      else readToLimit ending (bytes++chunks.flatten) := by
  induction chunks generalizing bytes with
  | nil =>
    rw [List.flatten_nil,List.append_nil]
    split_ifs with full
    · rw [readToLimit_full full,List.take_of_length_le room]
    · rfl
  | cons chunk chunks ih =>
    have here := filled chunk List.mem_cons_self
    have rest (c : List UInt8) (mem : c∈chunks) : c≠[] := filled c (List.mem_cons_of_mem _ mem)
    rw [List.flatten_cons,← List.append_assoc]
    by_cases full : maxResponseBytes ≤ bytes.length
    · have exact_room : bytes.length=maxResponseBytes := Nat.le_antisymm room full
      rw [readToLimit_full full,if_pos (by rw [List.length_append,List.length_append]; omega),
        List.append_assoc,List.take_left' exact_room]
    · rw [List.map_cons,List.cons_append,readToLimit_more full here]
      have fits : (bytes++chunk.take (maxResponseBytes-bytes.length)).length ≤
          maxResponseBytes := by
        rw [List.length_append,List.length_take]
        omega
      rw [ih rest fits]
      by_cases long : chunk.length ≤ maxResponseBytes-bytes.length
      · rw [List.take_of_length_le long]
      · have cut : (bytes++chunk.take (maxResponseBytes-bytes.length)).length=maxResponseBytes := by
          rw [List.length_append,List.length_take]
          omega
        rw [if_pos (by rw [List.length_append]; omega),
          if_pos (by rw [List.length_append,List.length_append]; omega),List.take_left' cut,
          List.append_assoc,List.take_append,List.take_of_length_le room,List.take_append,
          Nat.sub_eq_zero_of_le (Nat.le_of_not_le long),List.take_zero,List.append_nil]

/-- A part of a response with its whole head. -/
theorem responseParts_head (proper : response.Proper) (body : List UInt8) :
    responseParts (encode (headText (response.statusLine::response.headLines))++body)=
      (.ok (response.status,body) : Except (ControlClientError V) _) := by
  have cut := once_headText (List.cons_ne_nil _ _) proper.lines body
  have head : [13,10].intercalate ((response.statusLine::response.headLines).map encode)++headerEnd=
      encode (headText (response.statusLine::response.headLines)) := (encode_headText _).symm
  rw [responseParts,show headerEnd=[13,10,13,10] from rfl,cut]
  simp only
  rw [show [13,10,13,10]=headerEnd from rfl,head,decode_encode]
  simp only [proper.responseStatus]

section Receive

variable {W : Type} {decode : Nat → List UInt8 → Except (ControlClientError V) W}
  {chunks : List (List UInt8)} {ending : List ReadResult}

/-- The result is an error after which the request may be sent again. -/
def Transient (result : Except (ControlClientError V) W) : Prop :=
  ∃error,result=.error error ∧ error.isTransient=true

/-- A response is taken as a whole: if all of it comes, and it is within the limit, it is decoded;
otherwise it fails in a way that may be tried again. -/
structure Taken (response : Response) (chunks : List (List UInt8)) (ending : List ReadResult)
    (decode : Nat → List UInt8 → Except (ControlClientError V) W) : Prop where
  whole : chunks.flatten=response.written → response.written.length ≤ maxResponseBytes →
    (∀message more,ending≠.error message::more) →
    receive decode (chunks.map .ok++ending)=decode response.status response.body
  either : receive decode (chunks.map .ok++ending)=decode response.status response.body ∨
    Transient (receive decode (chunks.map .ok++ending))
  cut : ¬(chunks.flatten=response.written ∧ response.written.length ≤ maxResponseBytes) →
    Transient (receive decode (chunks.map .ok++ending))

theorem written_parts (proper : response.Proper) :
    (responseParts response.written : Except (ControlClientError V) _)=
      .ok (response.status,response.body) := by
  rw [response.written_eq]
  exact responseParts_head proper response.body

/-- A part of a response is no response, unless its body is decoded. -/
theorem cut_parts (proper : response.Proper)
    (rejects : ∀part,part <+: response.body → part≠response.body →
      Transient (decode response.status part))
    {part : List UInt8} (inside : part <+: response.written) (short : part≠response.written) :
    Transient (responseParts part >>= fun parts => decode parts.1 parts.2) := by
  rw [response.written_eq] at inside short
  rcases cut_headText (List.cons_ne_nil _ _) proper.lines inside with ⟨body,split,behind⟩|missing
  · rw [split,responseParts_head proper body]
    exact rejects body behind fun same => short (by rw [split,same])
  · refine ⟨.malformedResponse,?_,rfl⟩
    rw [responseParts,show headerEnd=[13,10,13,10] from rfl,missing]
    rfl

/-- A client gets a part of the response, and all of it if it is sent and within the limit; or a read
fails. -/
theorem readToLimit_part {written : List UInt8} (filled : ∀chunk∈chunks,chunk≠[])
    (inside : chunks.flatten <+: written) (ends : Ends ending) :
    (∃got,readToLimit (chunks.map .ok++ending) []=(.ok got : Except (ControlClientError V) _) ∧
        got <+: written ∧
        (got=written ↔ chunks.flatten=written ∧ written.length ≤ maxResponseBytes)) ∨
      ∃message more,ending=.error message::more ∧
        readToLimit (chunks.map .ok++ending) []=
          (.error (.read message) : Except (ControlClientError V) _) := by
  have room : ([] : List UInt8).length ≤ maxResponseBytes := Nat.zero_le _
  have read := @readToLimit_chunks V chunks filled ending [] room
  have size := inside.length_le
  rw [List.nil_append] at read
  rw [read]
  split_ifs with full
  · refine .inl ⟨_,rfl,(List.take_prefix _ _).trans inside,fun same => ?_,fun both => ?_⟩
    · have length := congrArg List.length same
      rw [List.length_take] at length
      exact ⟨inside.eq_of_length (by omega),by omega⟩
    · rw [both.1]
      exact List.take_of_length_le both.2
  · have small : ¬maxResponseBytes ≤ chunks.flatten.length := full
    have same : chunks.flatten=written ↔ chunks.flatten=written ∧
        written.length ≤ maxResponseBytes := by
      refine ⟨fun eq => ⟨eq,?_⟩,And.left⟩
      rw [← eq]
      omega
    cases ends with
    | stopped => exact .inl ⟨_,rfl,inside,same⟩
    | closed more => exact .inl ⟨_,readToLimit_closed _ _,inside,same⟩
    | failed message more => exact .inr ⟨message,more,rfl,readToLimit_failed small _ _⟩

theorem taken (proper : response.Proper)
    (rejects : ∀part,part <+: response.body → part≠response.body →
      Transient (decode response.status part))
    (filled : ∀chunk∈chunks,chunk≠[]) (inside : chunks.flatten <+: response.written)
    (ends : Ends ending) : Taken response chunks ending decode := by
  have all : (responseParts response.written >>= fun parts => decode parts.1 parts.2)=
      decode response.status response.body := by
    rw [written_parts proper]
    rfl
  rcases @readToLimit_part V chunks ending _ filled inside ends with
    ⟨got,read,part,same⟩|⟨message,more,rfl,read⟩
  · have received : receive decode (chunks.map .ok++ending)=
        (responseParts got >>= fun parts => decode parts.1 parts.2) := by
      rw [receive,read]
      rfl
    by_cases complete : got=response.written
    · rw [complete,all] at received
      exact ⟨fun _ _ _ => received,.inl received,fun short => absurd (same.mp complete) short⟩
    · have transient := cut_parts proper rejects part complete
      rw [← received] at transient
      exact ⟨fun whole fits _ => absurd (same.mpr ⟨whole,fits⟩) complete,.inr transient,
        fun _ => transient⟩
  · have transient : Transient (receive decode (chunks.map .ok++.error message::more)) := by
      refine ⟨.read message,?_,rfl⟩
      rw [receive,read]
      rfl
    exact ⟨fun _ _ open_end => absurd rfl (open_end message more),.inr transient,
      fun _ => transient⟩

/-- A client of the control server takes a response as a whole or not at all, and so does the MCP
proxy: of a body that is one JSON value no proper part is. -/
theorem responses_are_taken_whole (parse : List UInt8 → Option V) (response : Response)
    (proper : response.Proper)
    (single : ∀part,part <+: response.body → part≠response.body → parse part=none)
    (chunks : List (List UInt8)) (filled : ∀chunk∈chunks,chunk≠[])
    (inside : chunks.flatten <+: response.written) (ending : List ReadResult) (ends : Ends ending) :
    Taken response chunks ending (decodeJsonResponse parse) ∧
      ((response.status=202 → response.body=[]) →
        Taken response chunks ending (decodeMcpResponse parse)) := by
  have rejects (part : List UInt8) (inside : part <+: response.body) (short : part≠response.body) :
      decodeJsonResponse parse response.status part=.error .deserialize := by
    rw [decodeJsonResponse,single part inside short]
  refine ⟨taken proper (fun part inside short => ⟨_,rejects part inside short,rfl⟩) filled inside
    ends,fun accepted => taken proper (fun part inside short => ⟨.deserialize,?_,rfl⟩) filled inside
    ends⟩
  have apart : ¬(response.status=202 ∧ part=[]) := by
    intro both
    rw [accepted both.1] at inside
    exact short ((List.prefix_nil.mp inside).trans (accepted both.1).symm)
  rw [decodeMcpResponse,if_neg apart,rejects part inside short]
  rfl

def emptyObject : Response := jsonResponse 200 "{}"

def parseEmptyObject (bytes : List UInt8) : Option Unit :=
  if bytes=encode "{}" then some () else none

/-- An empty object in two pieces, and only the first of them before the connection fails. -/
theorem responses_are_taken_whole_object :
    receive (decodeJsonResponse parseEmptyObject)
        ([emptyObject.written.take 80,emptyObject.written.drop 80].map .ok++[])=.ok () ∧
      Transient (receive (decodeJsonResponse parseEmptyObject)
        ([emptyObject.written.take 80].map .ok++[.error "reset"])) := by
  have proper : emptyObject.Proper := by
    refine ⟨by decide,fun contentType mem => ?_⟩
    cases mem
    decide
  have single (part : List UInt8) (_ : part <+: emptyObject.body) (short : part≠emptyObject.body) :
      parseEmptyObject part=none := if_neg short
  refine ⟨?_,?_⟩
  · exact (responses_are_taken_whole parseEmptyObject emptyObject proper single
      [emptyObject.written.take 80,emptyObject.written.drop 80] (by decide +kernel)
      (by decide +kernel) [] .stopped).1.whole (by decide +kernel) (by decide +kernel)
      (fun _ _ same => by cases same)
  · exact (responses_are_taken_whole parseEmptyObject emptyObject proper single
      [emptyObject.written.take 80] (by decide +kernel) (by decide +kernel) [.error "reset"]
      (.failed "reset" [])).1.cut (by decide +kernel)

end Receive

end ControlClient

end AkuSupervisor
