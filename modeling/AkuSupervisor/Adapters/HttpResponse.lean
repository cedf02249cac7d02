import AkuSupervisor.Adapters.HttpRequest

namespace AkuSupervisor

/-- Why the decoding of a body stops without one. The last two are panics: of a slice that is out of
range, and of an addition that overflows. -/
inductive ChunkStop where
  | rejected (message : String)
  | outOfRange
  | overflow
  deriving DecidableEq

def slice (bytes : List UInt8) (start finish : Nat) : Except ChunkStop (List UInt8) :=
  if start≤finish ∧ finish≤bytes.length then .ok ((bytes.take finish).drop start)
  else .error .outOfRange

/-- The sum of two indices of 64 bits. -/
def plus (a b : Nat) : Except ChunkStop Nat :=
  if a+b<UInt64.size then .ok (a+b) else .error .overflow

def orReject {α : Type} (message : String) : Option α → Except ChunkStop α
  | some a => .ok a
  | none => .error (.rejected message)

def checkedAdd (a b : Nat) : Option Nat := if a+b<UInt64.size then some (a+b) else none

def hexDigit (c : Char) : Option Nat :=
  if '0' ≤ c ∧ c ≤ '9' then some (c.toNat-48)
  else if 'a' ≤ c ∧ c ≤ 'f' then some (c.toNat-87)
  else if 'A' ≤ c ∧ c ≤ 'F' then some (c.toNat-55)
  else none

def dropPlus : List Char → List Char
  | [] => []
  | c::digits => if c= '+' then digits else c::digits

/-- `usize::from_str_radix` with the radix 16: digits after at most one plus sign. -/
def parseHex (text : String) : Option Nat :=
  let digits := dropPlus text.toList
  if digits=[] then none
  else
    (digits.mapM hexDigit).bind fun values =>
      let value := values.foldl (fun value digit => 16*value+digit) 0
      if value<UInt64.size then some value else none

def lineBreak : List UInt8 := [13,10]

/-- The size that a line announces in front of its extensions. -/
def chunkSize (sizeLine : String) : Option Nat :=
  parseHex (trim (match Cut.splitOnce ";" sizeLine with
    | some (size,_) => size
    | none => sizeLine))

/-- The size of the chunk at the cursor, and the cursor behind its line. -/
def readSizeLine (encoded : List UInt8) (cursor : Nat) : Except ChunkStop (Nat × Nat) := do
  let rest ← slice encoded cursor encoded.length
  let (before,_) ← orReject "HTTP chunk size line was incomplete" (Cut.once lineBreak rest)
  let lineEnd ← plus cursor before.length
  let line ← slice encoded cursor lineEnd
  let sizeLine ← orReject "HTTP chunk size was not ASCII" (TextLines.decode line)
  let size ← orReject "HTTP chunk size was invalid" (chunkSize sizeLine)
  let cursor ← plus lineEnd 2
  return (size,cursor)

/-- What one pass of the loop leads to: the whole body, or the next cursor with the body so far. -/
inductive ChunkProgress where
  | finished (body : List UInt8)
  | next (cursor : Nat) (decoded : List UInt8)
  deriving DecidableEq

/-- The end of the body, behind the line of the empty chunk. -/
def readTrailers (encoded : List UInt8) (cursor : Nat) (decoded : List UInt8) :
    Except ChunkStop ChunkProgress := do
  let trailers ← slice encoded cursor encoded.length
  if trailers=lineBreak ∨ headerEnd<:+trailers then return .finished decoded
  throw (.rejected "HTTP chunk trailers were incomplete")

/-- The data of a chunk of this size, behind its line. -/
def readData (encoded : List UInt8) (cursor size : Nat) (decoded : List UInt8) :
    Except ChunkStop ChunkProgress := do
  let dataEnd ← orReject "HTTP chunk size exceeded the response bound" (checkedAdd cursor size)
  let framingEnd ← orReject "HTTP chunk framing exceeded the response bound" (checkedAdd dataEnd 2)
  if encoded.length<framingEnd then throw (.rejected "HTTP chunk data was incomplete")
  if (← slice encoded dataEnd framingEnd)≠lineBreak then
    throw (.rejected "HTTP chunk data was incomplete")
  return .next framingEnd (decoded++(← slice encoded cursor dataEnd))

def chunkStep (encoded : List UInt8) (cursor : Nat) (decoded : List UInt8) :
    Except ChunkStop ChunkProgress := do
  let (size,cursor) ← readSizeLine encoded cursor
  if size=0 then readTrailers encoded cursor decoded
  else readData encoded cursor size decoded

/-- At most `fuel` passes. Gives nothing when they do not lead to an end. -/
def decodeChunks (encoded : List UInt8) : Nat → Nat → List UInt8 →
    Option (Except ChunkStop (List UInt8))
  | 0,_,_ => none
  | fuel+1,cursor,decoded =>
    match chunkStep encoded cursor decoded with
    | .error stop => some (.error stop)
    | .ok (.finished body) => some (.ok body)
    | .ok (.next cursor decoded) => decodeChunks encoded fuel cursor decoded

/-- Each pass takes a byte at least, so that these are enough passes. -/
def decodeChunkedBody (encoded : List UInt8) : Option (Except ChunkStop (List UInt8)) :=
  decodeChunks encoded (encoded.length+1) 0 []

example : decodeChunkedBody (TextLines.encode "3;x=y\r\nabc\r\n0A\r\n0123456789\r\n0\r\n\r\n")=
    some (.ok (TextLines.encode "abc0123456789")) := by decide +kernel

structure HttpResponse where
  status : Nat
  body : List UInt8
  deriving DecidableEq

/-- The status of the first line, a number of 16 bits. -/
def responseStatus (header : String) : Option Nat :=
  (TextLines.textLines header).head?.bind fun line =>
    ((Words.words isWhitespace line.toList).map String.ofList)[1]?.bind (parseUnsigned 65536)

/-- Whether a header line announces chunks. -/
def isChunkedLine (line : String) : Bool :=
  (Cut.splitOnce ":" line).any fun (name,value) =>
    asciiLowercase name="transfer-encoding" &&
      (Cut.split ',' value).any fun coding => asciiLowercase (trim coding)="chunked"

def parseResponse (bytes : List UInt8) : Option (Except ChunkStop HttpResponse) :=
  match Cut.once headerEnd bytes with
  | none => some (.error (.rejected "HTTP response headers were incomplete"))
  | some (section_,encodedBody) =>
    match TextLines.decode section_ with
    | none => some (.error (.rejected "HTTP response headers were not UTF-8"))
    | some header =>
      match responseStatus header with
      | none => some (.error (.rejected "HTTP response status was invalid"))
      | some status =>
        if ((TextLines.textLines header).drop 1).any isChunkedLine then
          (decodeChunkedBody encodedBody).map fun decoded => decoded.map fun body => ⟨status,body⟩
        else some (.ok ⟨status,encodedBody⟩)

end AkuSupervisor
