import AkuSupervisor.Lib.Cut
import AkuSupervisor.Lib.TextLines
import AkuSupervisor.Lib.Words
import AkuSupervisor.Domain.Control

namespace AkuSupervisor

def maxHeaderBytes : Nat := 16*1024
def maxBodyBytes : Nat := 4*1024

/-- Why a request cannot be read or answered. -/
inductive RequestError where
  | read (message : String)
  | write (message : String)
  | unexpectedEnd
  | headerTooLarge
  | bodyTooLarge
  | malformed (message : String)
  | idempotencyPoisoned
  deriving DecidableEq

def RequestError.display : RequestError → String
  | .read error => s!"request read failed: {error}"
  | .write error => s!"response write failed: {error}"
  | .unexpectedEnd => "request ended unexpectedly"
  | .headerTooLarge => "request headers exceed limit"
  | .bodyTooLarge => "request body exceeds limit"
  | .malformed message => message
  | .idempotencyPoisoned => "control request idempotency store is unavailable"

/-- The headers that the control server looks at. -/
structure HttpHeaders where
  host : Option String
  authorization : Option String
  accept : Option String
  contentType : Option String
  origin : Option String
  dashboardRequest : Option String
  dashboardToken : Option String
  mcpProtocolVersion : Option String
  deriving DecidableEq

structure HttpRequest extends HttpHeaders where
  method : String
  target : String
  body : List UInt8
  deriving DecidableEq

def trim (text : String) : String := String.ofList (trimChars text.toList)

def asciiLowercase (text : String) : String := String.ofList (text.toList.map Char.toLower)

/-- Digits after at most one plus sign, below `bound`: `str::parse` of an unsigned integer. -/
def parseUnsigned (bound : Nat) (text : String) : Option Nat :=
  let digits := match text.toList with
    | '+'::digits => digits
    | digits => digits
  if digits=[] ∨ digits.all Char.isDigit=false then none
  else
    let value := digits.foldl (fun value c => 10*value+(c.toNat- '0'.toNat)) 0
    if value<bound then some value else none

def parseUsize (text : String) : Option Nat := parseUnsigned UInt64.size text

theorem not_mem_toDigits {c : Char} (n : Nat) (other : c.isDigit=false) :
    c∉Nat.toDigits 10 n := by
  intro mem
  have digit := Nat.isDigit_of_mem_toDigits (by decide) (by decide) mem
  rw [other] at digit
  cases digit

/-- A number that fits is read back from its digits. -/
theorem parseUnsigned_repr {bound n : Nat} (fits : n < bound) :
    parseUnsigned bound n.repr=some n := by
  have digits : (Nat.toDigits 10 n).all Char.isDigit=true := by
    rw [List.all_eq_true]
    intro c mem
    exact Nat.isDigit_of_mem_toDigits (by decide) (by decide) mem
  have value : (Nat.toDigits 10 n).foldl (fun value c => 10*value+(c.toNat- '0'.toNat)) 0=n :=
    Nat.ofDigitChars_ten_toDigits
  have unsigned : '+'∉Nat.toDigits 10 n := not_mem_toDigits n (by decide)
  unfold parseUnsigned
  rw [Nat.toList_repr]
  split
  · rename_i rest starts
    rw [starts] at unsigned
    exact absurd List.mem_cons_self unsigned
  · have kept : ¬(Nat.toDigits 10 n=[] ∨ (Nat.toDigits 10 n).all Char.isDigit=false) := by
      simp [digits]
    rw [if_neg kept,value]
    exact if_pos fits

theorem parseUsize_repr {n : Nat} (fits : n < UInt64.size) : parseUsize n.repr=some n :=
  parseUnsigned_repr fits

/-- What one read of the connection gives: bytes, of which there are none at the end of the stream,
or an error. -/
abbrev ReadResult := Except String (List UInt8)

/-- One read into the buffer. After the last of the given reads the stream has ended. -/
def readChunk (bytes : List UInt8) (read : ReadResult) : Except RequestError (List UInt8) :=
  match read with
  | .error error => .error (.read error)
  | .ok chunk => if chunk=[] then .error .unexpectedEnd else .ok (bytes++chunk)

def headerEnd : List UInt8 := [13,10,13,10]

/-- Reads until the empty line that ends the headers. Gives all bytes read, the number of them up to
and with that line, and the reads that are left. -/
def readHeader : List ReadResult → List UInt8 →
    Except RequestError (Nat × List UInt8 × List ReadResult)
  | [],bytes =>
    if maxHeaderBytes≤bytes.length then .error .headerTooLarge else .error .unexpectedEnd
  | read::reads,bytes =>
    if maxHeaderBytes≤bytes.length then .error .headerTooLarge
    else
      match readChunk bytes read with
      | .error error => .error error
      | .ok bytes =>
        match Cut.once headerEnd bytes with
        | some (before,_) => .ok (before.length+4,bytes,reads)
        | none => readHeader reads bytes

/-- Reads until there are `wanted` bytes after the headers. -/
def readBody (header wanted : Nat) : List ReadResult → List UInt8 →
    Except RequestError (List UInt8)
  | [],bytes => if wanted≤bytes.length-header then .ok bytes else .error .unexpectedEnd
  | read::reads,bytes =>
    if wanted≤bytes.length-header then .ok bytes
    else
      match readChunk bytes read with
      | .error error => .error error
      | .ok bytes =>
        if maxBodyBytes<bytes.length-header then .error .bodyTooLarge
        else readBody header wanted reads bytes

/-- A repeated host is as good as none: the empty one is never accepted. -/
def setHostHeader (host : Option String) (value : String) : Option String :=
  if host.isSome then some "" else some (trim value)

def duplicateHeader (name : String) : String :=
  match name with
  | "accept" => "duplicate accept header"
  | "content-type" => "duplicate content-type header"
  | "origin" => "duplicate origin header"
  | "mcp-protocol-version" => "duplicate mcp-protocol-version header"
  | _ => "duplicate header"

def setSingleHeader (slot : Option String) (value name : String) :
    Except RequestError (Option String) :=
  if slot.isSome then .error (.malformed (duplicateHeader name)) else .ok (some (trim value))

/-- The headers found so far, with the announced length of the body. -/
structure HeaderScan where
  headers : HttpHeaders
  contentLength : Option Nat
  deriving DecidableEq

def HeaderScan.start : HeaderScan := ⟨⟨none,none,none,none,none,none,none,none⟩,none⟩

/-- The media type of a content type, without its parameters. -/
def mediaType (value : String) : String := trim ((Cut.split ';' (trim value)).headD "")

namespace HeaderScan

/-- Takes one header, by its name in lower case. -/
def header (self : HeaderScan) (name value : String) : Except RequestError HeaderScan :=
  match name with
  | "host" => .ok { self with headers.host := setHostHeader self.headers.host value }
  | "authorization" =>
    if self.headers.authorization.isSome then .error (.malformed "duplicate authorization header")
    else .ok { self with headers.authorization := some (trim value) }
  | "accept" => do
    let accept ← setSingleHeader self.headers.accept value "accept"
    return { self with headers.accept := accept }
  | "content-type" => do
    let contentType ← setSingleHeader self.headers.contentType (mediaType value) "content-type"
    return { self with headers.contentType := contentType }
  | "origin" => do
    let origin ← setSingleHeader self.headers.origin value "origin"
    return { self with headers.origin := origin }
  | "x-dashboard-request" => do
    let request ← setSingleHeader self.headers.dashboardRequest value "x-dashboard-request"
    return { self with headers.dashboardRequest := request }
  | "x-dashboard-token" => do
    let token ← setSingleHeader self.headers.dashboardToken value "x-dashboard-token"
    return { self with headers.dashboardToken := token }
  | "mcp-protocol-version" => do
    let version ← setSingleHeader self.headers.mcpProtocolVersion value "mcp-protocol-version"
    return { self with headers.mcpProtocolVersion := version }
  | "content-length" =>
    if self.contentLength.isSome then .error (.malformed "duplicate content-length header")
    else
      match parseUsize (trim value) with
      | none => .error (.malformed "invalid content-length")
      | some length =>
        if maxBodyBytes<length then .error .bodyTooLarge
        else .ok { self with contentLength := some length }
  | "transfer-encoding" => .error (.malformed "transfer-encoding is unsupported")
  | _ => .ok self

def line (self : HeaderScan) (line : String) : Except RequestError HeaderScan :=
  match Cut.splitOnce ":" line with
  | none => .error (.malformed "invalid header")
  | some (name,value) => self.header (asciiLowercase (trim name)) value

end HeaderScan

/-- The method and the target of a request line. -/
def requestLine (line : String) : Except RequestError (String × String) :=
  match (Words.words isWhitespace line.toList).map String.ofList with
  | [method,target,version] =>
    if version="HTTP/1.1" ∨ version="HTTP/1.0" then .ok (method,target)
    else .error (.malformed "invalid request line")
  | _ => .error (.malformed "invalid request line")

/-- The lines of a header section, which ends with an empty line. -/
def headerLines (headers : String) : List String :=
  let text := headers.toList.take (headers.toList.length-4)
  (Cut.parts ['\r','\n'] text.length text).map String.ofList

/-- The request line and the headers of a header section, and the announced length of the body. -/
def parseHeaders (section_ : List UInt8) : Except RequestError ((String × String) × HeaderScan) :=
  match TextLines.decode section_ with
  | none => .error (.malformed "headers must be UTF-8")
  | some text =>
    match headerLines text with
    | [] => .error (.malformed "request line is missing")
    | first::lines => do
      let fields ← requestLine first
      let scan ← lines.foldlM HeaderScan.line HeaderScan.start
      return (fields,scan)

/-- Reads one request from what the reads of the connection give. -/
def readRequest (reads : List ReadResult) : Except RequestError HttpRequest := do
  let (header,bytes,reads) ← readHeader reads []
  let ((method,target),scan) ← parseHeaders (bytes.take header)
  let wanted := scan.contentLength.getD 0
  let bytes ← readBody header wanted reads bytes
  return { scan.headers with method, target, body := (bytes.drop header).take wanted }

end AkuSupervisor
