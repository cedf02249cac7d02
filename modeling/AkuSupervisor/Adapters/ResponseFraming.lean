import AkuSupervisor.Adapters.HttpHealth

/-! What the parser makes of a response whose length is announced, whole and cut short. -/

namespace AkuSupervisor

open HttpMessage HttpGrammar TextLines

namespace ResponseFraming

/-- All that a peer sends is a part of the bytes that stops early. -/
def CutShort (bytes part : List UInt8) : Prop := part <+: bytes ∧ part≠bytes

def Rejected (answer : Option (Except ChunkStop HttpResponse)) : Prop :=
  ∃message,answer=some (.error (.rejected message))

/-- The parser gives the status and the body of the whole response, and rejects it when it is cut
short; then a probe is rejected too, however the part arrives. -/
structure TruncationFails (bytes : List UInt8) (status : Nat) (body : List UInt8) : Prop where
  complete : parseResponse bytes=some (.ok ⟨status,body⟩)
  cut : ∀part,CutShort bytes part → Rejected (parseResponse part)
  probe : ∀chunks : List (List UInt8),(∀chunk∈chunks,chunk≠[]) → CutShort bytes chunks.flatten →
    Rejected (HttpHealth.receiveResponse (chunks.map .ok))

section Chars

theorem toLower_ascii : ∀b : Fin 128,
    (Char.ofNat b).toLower=Char.ofNat (lowerByte (UInt8.ofNat b)).toNat := by
  decide

theorem isDigit_ascii : ∀b : Fin 128,isDigitByte (UInt8.ofNat b)=true →
    (Char.ofNat b).isDigit=true ∧ (Char.ofNat b).toNat- '0'.toNat=(UInt8.ofNat b).toNat-48 ∧
      isWhitespace (Char.ofNat b)=false := by
  decide

theorem isDigitByte_range {b : UInt8} (digit : isDigitByte b=true) :
    48 ≤ b.toNat ∧ b.toNat ≤ 57 := by
  simpa [isDigitByte,UInt8.le_iff_toNat_le] using digit

theorem asciiLowercase_ascii {bytes : List UInt8} (ascii : ∀b∈bytes,b.toNat < 128) :
    asciiLowercase (String.ofList (asciiChars bytes))=
      String.ofList (asciiChars (bytes.map lowerByte)) := by
  rw [asciiLowercase,String.toList_ofList]
  unfold asciiChars
  rw [List.map_map,List.map_map]
  congr 1
  refine List.map_congr_left fun b mem => ?_
  simpa using toLower_ascii ⟨b.toNat,ascii b mem⟩

theorem isTokenByte_ascii {b : UInt8} (token : isTokenByte b=true) : b.toNat < 128 := by
  have small : ∀b : Fin 256,isTokenByte (UInt8.ofNat b)=true → b.val < 128 := by
    decide +kernel
  exact small ⟨b.toNat,b.toNat_lt⟩ (by simpa using token)

theorem encode_asciiChars {bytes : List UInt8} (ascii : ∀b∈bytes,b.toNat < 128) :
    encode (String.ofList (asciiChars bytes))=bytes :=
  encode_of_decode (decode_ascii ascii)

/-- A text whose bytes begin with ASCII begins with the characters of these. -/
theorem encode_ascii_append {front rest : List UInt8} {text : String}
    (ascii : ∀b∈front,b.toNat < 128) (encoded : encode text=front++rest) :
    ∃behind,text.toList=asciiChars front++behind := by
  apply decode_ascii_append ascii
  rw [← encoded,decode_encode]

theorem parseUnsigned_decimal {bound : Nat} {digits : List UInt8} (some_digit : digits≠[])
    (digit : ∀b∈digits,isDigitByte b=true) (fits : decimal digits < bound) :
    parseUnsigned bound (String.ofList (asciiChars digits))=some (decimal digits) := by
  have each {b : UInt8} (mem : b∈digits) : (Char.ofNat b.toNat).isDigit=true ∧
      (Char.ofNat b.toNat).toNat- '0'.toNat=b.toNat-48 := by
    have range := isDigitByte_range (digit b mem)
    have known := isDigit_ascii ⟨b.toNat,by omega⟩
    simp only [UInt8.ofNat_toNat] at known
    exact ⟨(known (digit b mem)).1,(known (digit b mem)).2.1⟩
  have all : (asciiChars digits).all Char.isDigit=true := by
    rw [List.all_eq_true]
    intro c mem
    obtain ⟨b,inside,rfl⟩ := List.mem_map.mp mem
    exact (each inside).1
  have value : (asciiChars digits).foldl (fun value c => 10*value+(c.toNat- '0'.toNat)) 0=
      decimal digits := by
    rw [asciiChars,List.foldl_map,decimal]
    refine List.foldl_ext _ _ _ fun n b mem => ?_
    rw [(each mem).2]
  have unsigned : '+'∉asciiChars digits := by
    intro mem
    exact absurd (List.all_eq_true.mp all '+' mem) (by decide)
  unfold parseUnsigned
  rw [String.toList_ofList]
  split
  · rename_i rest starts
    rw [starts] at unsigned
    exact absurd List.mem_cons_self unsigned
  · have kept : ¬(asciiChars digits=[] ∨ (asciiChars digits).all Char.isDigit=false) := by
      rw [all]
      simp [asciiChars,some_digit]
    rw [if_neg kept,value]
    exact if_pos fits

end Chars

section Head

variable {bytes digits reason body : List UInt8} {fields : List Field}

theorem decimal_code (response : IsResponse bytes digits reason fields body) :
    decimal digits < 65536 := by
  obtain ⟨size,digit⟩ := response.code
  obtain ⟨a,b,c,rfl⟩ := List.length_eq_three.mp size
  have first := isDigitByte_range (digit a (by simp))
  have second := isDigitByte_range (digit b (by simp))
  have third := isDigitByte_range (digit c (by simp))
  simp only [decimal,List.foldl_cons,List.foldl_nil]
  omega

/-- The status of a response is read from its first line. -/
theorem statusLine_status (response : IsResponse bytes digits reason fields body) {line : String}
    (encoded : encode line=statusLine digits reason) :
    ((Words.words isWhitespace line.toList).map String.ofList)[1]?.bind (parseUnsigned 65536)=
      some (decimal digits) := by
  obtain ⟨size,digit⟩ := response.code
  have some_digit : digits≠[] := by
    intro empty
    rw [empty] at size
    cases size
  have ascii : ∀b∈encode "HTTP/1.1 "++digits++[32],b.toNat < 128 := by
    intro b mem
    rcases List.mem_append.mp mem with mem|last
    · rcases List.mem_append.mp mem with version|code
      · have small : ∀b∈encode "HTTP/1.1 ",b.toNat < 128 := by decide +kernel
        exact small b version
      · have range := isDigitByte_range (digit b code)
        omega
    · rw [List.mem_singleton.mp last]
      decide
  obtain ⟨behind,chars⟩ := @encode_ascii_append _ reason _ ascii
    (by rw [encoded,statusLine]; simp)
  have clear : ∀c∈asciiChars digits,isWhitespace c=false := by
    intro c mem
    obtain ⟨b,inside,rfl⟩ := List.mem_map.mp mem
    have range := isDigitByte_range (digit b inside)
    have known := isDigit_ascii ⟨b.toNat,by omega⟩
    simp only [UInt8.ofNat_toNat] at known
    exact (known (digit b inside)).2.2
  have whole : line.toList="HTTP/1.1".toList++ ' ' ::(asciiChars digits++ ' ' ::behind) := by
    have version : asciiChars (encode "HTTP/1.1 ")="HTTP/1.1".toList++[' '] := by decide
    rw [chars,asciiChars,List.map_append,List.map_append]
    show asciiChars (encode "HTTP/1.1 ")++asciiChars digits++[' ']++behind=_
    rw [version]
    simp
  have words : Words.words isWhitespace line.toList=
      "HTTP/1.1".toList::asciiChars digits::Words.wordsFrom isWhitespace [] behind := by
    have plain : ("HTTP/1.1".toList.all fun c => !isWhitespace c)=true := by decide
    have version (c : Char) (mem : c∈"HTTP/1.1".toList) : isWhitespace c=false := by
      simpa using List.all_eq_true.mp plain c mem
    rw [whole,Words.words,Words.wordsFrom_cut [] _ (by decide) version (by decide),
      Words.wordsFrom_cut [] _ (by simp [asciiChars,some_digit]) clear (by decide)]
    rfl
  rw [words]
  exact parseUnsigned_decimal some_digit digit (decimal_code response)

theorem isChunkedLine_direct {field : Field} (proper : field.Proper)
    (direct : ¬field.Named "transfer-encoding") {line : String} (encoded : encode line=field.line) :
    isChunkedLine line=false := by
  have token : ∀b∈field.name,b.toNat < 128 := fun b mem => isTokenByte_ascii (proper.1.2 b mem)
  have ascii : ∀b∈field.name++[58],b.toNat < 128 := by
    intro b mem
    rcases List.mem_append.mp mem with inside|last
    · exact token b inside
    · rw [List.mem_singleton.mp last]
      decide
  obtain ⟨behind,chars⟩ := @encode_ascii_append _ field.value _ ascii
    (by rw [encoded,Field.line]; simp)
  have fresh : ':'∉asciiChars field.name := by
    intro mem
    obtain ⟨b,inside,same⟩ := List.mem_map.mp mem
    have colon : ∀b : Fin 128,Char.ofNat b= ':' → isTokenByte (UInt8.ofNat b)=false := by decide
    have wrong := colon ⟨b.toNat,token b inside⟩ same
    simp only [UInt8.ofNat_toNat] at wrong
    rw [proper.1.2 b inside] at wrong
    cases wrong
  have cut : Cut.splitOnce ":" line=
      some (String.ofList (asciiChars field.name),String.ofList behind) := by
    have found := Cut.once_of_not_mem [] behind fresh
    have colon : ":".toList=[':'] := by decide
    have whole : line.toList=asciiChars field.name++ ':' ::[]++behind := by
      rw [chars,asciiChars,List.map_append]
      rfl
    rw [Cut.splitOnce,colon,whole,found]
    rfl
  rw [isChunkedLine,cut]
  simp only [Option.any_some,Bool.and_eq_false_iff,decide_eq_false_iff_not]
  refine .inl fun same => direct ?_
  have lowered : ∀b∈field.name.map lowerByte,b.toNat < 128 := by
    intro b mem
    obtain ⟨raw,inside,rfl⟩ := List.mem_map.mp mem
    have small : ∀b : Fin 128,(lowerByte (UInt8.ofNat b)).toNat < 128 := by decide
    simpa using small ⟨raw.toNat,token raw inside⟩
  rw [asciiLowercase_ascii token] at same
  rw [Field.Named,← same,encode_asciiChars lowered]

/-- With its whole head the bytes are taken for a response, whatever part of the body is there. -/
theorem parseResponse_head (response : IsResponse bytes digits reason fields body)
    (direct : ∀field∈fields,¬field.Named "transfer-encoding") (rest : List UInt8) :
    parseResponse (headLines (statusLine digits reason) fields++(emptyLine++rest))=
      match decode (headLines (statusLine digits reason) fields) with
      | none => some (.error (.rejected "HTTP response headers were not UTF-8"))
      | some _ => some (.ok ⟨decimal digits,rest⟩) := by
  have unbroken : 13∉statusLine digits reason := response.single (by decide) (by decide)
  have single : newline∉statusLine digits reason := response.single (by decide) (by decide)
  have found := once_head unbroken response.proper rest
  rw [parseResponse,show headerEnd=emptyLine from rfl,found]
  simp only
  cases decoded : decode (headLines (statusLine digits reason) fields) with
  | none => rfl
  | some header =>
    have encoded := encode_textLines header
    rw [encode_of_decode decoded,lines_head single (by simp [statusLine]) response.proper] at encoded
    obtain ⟨first,later,split,firstLine,laterLines⟩ := List.map_eq_cons_iff.mp encoded
    have status : responseStatus header=some (decimal digits) := by
      rw [responseStatus,split]
      exact statusLine_status response firstLine
    have unchunked : ((textLines header).drop 1).any isChunkedLine=false := by
      rw [split,List.drop_one,List.tail_cons,List.any_eq_false]
      intro line mem
      have same : encode line∈fields.map Field.line := by
        rw [← laterLines]
        exact List.mem_map_of_mem mem
      obtain ⟨field,inside,line'⟩ := List.mem_map.mp same
      rw [isChunkedLine_direct (response.proper field inside) (direct field inside) line'.symm]
      simp
    simp only [status,unchunked]
    rfl

theorem parseResponse_cut (response : IsResponse bytes digits reason fields body)
    {part : List UInt8} (cut : part <+: bytes)
    (short : part.length < (headLines (statusLine digits reason) fields).length+4) :
    parseResponse part=some (.error (.rejected "HTTP response headers were incomplete")) := by
  rw [response.whole] at cut
  have unbroken : 13∉statusLine digits reason := response.single (by decide) (by decide)
  have missing := once_head_cut unbroken response.proper cut short
  rw [parseResponse,show headerEnd=emptyLine from rfl,missing]

end Head

/-- A probe takes all the bytes, or there are too many. -/
theorem readResponse_chunks (chunks : List (List UInt8)) (some : ∀chunk∈chunks,chunk≠[])
    (bytes : List UInt8) :
    HttpHealth.readResponse (chunks.map .ok) bytes=.ok (bytes++chunks.flatten) ∨
      ∃message,HttpHealth.readResponse (chunks.map .ok) bytes=.error message := by
  induction chunks generalizing bytes with
  | nil => exact .inl (by simp [HttpHealth.readResponse])
  | cons chunk chunks ih =>
    have here := some chunk List.mem_cons_self
    have later := ih (fun chunk mem => some chunk (List.mem_cons_of_mem _ mem)) (bytes++chunk)
    rw [List.map_cons,HttpHealth.readResponse,if_neg here,List.flatten_cons,← List.append_assoc]
    split_ifs with long
    · exact .inr ⟨_,rfl⟩
    · exact later

theorem rejected_probe {bytes : List UInt8}
    (cut : ∀part,CutShort bytes part → Rejected (parseResponse part)) (chunks : List (List UInt8))
    (some : ∀chunk∈chunks,chunk≠[]) (short : CutShort bytes chunks.flatten) :
    Rejected (HttpHealth.receiveResponse (chunks.map .ok)) := by
  rw [HttpHealth.receiveResponse]
  obtain read|⟨message,read⟩ := readResponse_chunks chunks some []
  · rw [read]
    exact cut _ short
  · rw [read]
    exact ⟨message,rfl⟩

/-- A response that is cut short fails if there is no body that could be cut. -/
theorem truncationFails_iff {bytes digits reason body : List UInt8} {fields : List Field}
    (response : IsResponse bytes digits reason fields body)
    (framed : FramedByLength fields body) :
    TruncationFails bytes (decimal digits) body ↔
      (decode (headLines (statusLine digits reason) fields)).isSome=true ∧ body=[] := by
  have whole := response.whole
  have parsed := parseResponse_head response framed.direct
  constructor
  · intro fails
    obtain ⟨complete,cut,-⟩ := fails
    rw [whole,parsed body] at complete
    cases decoded : decode (headLines (statusLine digits reason) fields) with
    | none =>
      rw [decoded] at complete
      cases complete
    | some header =>
      refine ⟨rfl,?_⟩
      by_contra some_body
      -- The last byte of the body is missing, and nothing tells.
      have short := parsed body.dropLast
      rw [decoded] at short
      have early : headLines (statusLine digits reason) fields++(emptyLine++body.dropLast) <+:
          bytes := by
        rw [whole,List.prefix_append_right_inj,List.prefix_append_right_inj]
        exact List.dropLast_prefix body
      have other : headLines (statusLine digits reason) fields++(emptyLine++body.dropLast)≠
          bytes := by
        intro same
        rw [whole] at same
        have lengths := congrArg List.length (List.append_cancel_left
          (List.append_cancel_left same))
        have size := List.length_pos_of_ne_nil some_body
        rw [List.length_dropLast] at lengths
        omega
      obtain ⟨message,rejected⟩ := cut _ ⟨early,other⟩
      rw [rejected] at short
      cases short
  · intro holds
    obtain ⟨decoded,empty⟩ := holds
    obtain ⟨header,decoded⟩ := Option.isSome_iff_exists.mp decoded
    have cuts : ∀part,CutShort bytes part → Rejected (parseResponse part) := by
      intro part short
      obtain ⟨cut,other⟩ := short
      refine ⟨_,parseResponse_cut response cut ?_⟩
      have shorter : part.length < bytes.length := by
        have most := cut.length_le
        rcases Nat.lt_or_ge part.length bytes.length with less|more
        · exact less
        · exact absurd (cut.eq_of_length_le more) other
      rw [whole,empty] at shorter
      simpa [emptyLine] using shorter
    refine ⟨?_,cuts,rejected_probe cuts⟩
    rw [whole,parsed body,decoded]

section Samples

def sampleFields (length : String) : List Field := [⟨encode "Content-Length",encode (" "++length)⟩]

def sampleBytes (length body : String) : List UInt8 :=
  headLines (statusLine (encode "200") (encode "OK")) (sampleFields length)++
    (emptyLine++encode body)

theorem sample_response {length : String} (digits : ∀b∈encode length,isDigitByte b=true)
    (body : String) : IsResponse (sampleBytes length body) (encode "200") (encode "OK")
      (sampleFields length) (encode body) := by
  have token : IsToken (encode "Content-Length") := ⟨by decide +kernel,by decide +kernel⟩
  refine ⟨by decide +kernel,by decide +kernel,?_,rfl⟩
  intro field mem
  rw [List.mem_singleton.mp mem]
  refine ⟨token,?_⟩
  show ∀b∈encode (" "++length),isFieldByte b=true
  rw [encode_append]
  intro b mem
  rcases List.mem_append.mp mem with blank|digit
  · rw [encode,show " ".toList=[' '] from rfl] at blank
    rw [List.mem_singleton.mp blank]
    decide
  · exact isFieldByte_digit (digits b digit)

theorem sample_framed {length body : String} (some : encode length≠[])
    (digits : ∀b∈encode length,isDigitByte b=true)
    (announced : decimal (encode length)=(encode body).length) :
    FramedByLength (sampleFields length) (encode body) := by
  have named : (encode "Content-Length").map lowerByte=encode "content-length" := by decide
  have other : encode "content-length"≠encode "transfer-encoding" := by decide
  refine ⟨?_,⟨_,List.mem_singleton_self _,named⟩,?_⟩
  · intro field mem
    rw [List.mem_singleton.mp mem]
    exact fun same => other (named.symm.trans same)
  · intro field mem _
    rw [List.mem_singleton.mp mem]
    refine ⟨[32],encode length,[],by simp [IsBlanks],some,digits,by simp [IsBlanks],?_,announced⟩
    show encode (" "++length)=_
    rw [encode_append,List.append_nil]
    rfl

theorem empty_body_fails : TruncationFails (sampleBytes "0" "") 200 [] :=
  (truncationFails_iff (sample_response (by decide +kernel) "")
    (sample_framed (by decide +kernel) (by decide +kernel) (by decide +kernel))).mpr ⟨by decide +kernel,by decide +kernel⟩

/-- One of the two bytes of the body is missing, and the parser accepts the other. -/
theorem cut_body_accepted :
    IsResponse (sampleBytes "2" "ok") (encode "200") (encode "OK") (sampleFields "2")
        (encode "ok") ∧
      FramedByLength (sampleFields "2") (encode "ok") ∧
      CutShort (sampleBytes "2" "ok") (sampleBytes "2" "o") ∧
      parseResponse (sampleBytes "2" "o")=some (.ok ⟨200,encode "o"⟩) ∧
      ¬TruncationFails (sampleBytes "2" "ok") (decimal (encode "200")) (encode "ok") := by
  have digits : ∀b∈encode "2",isDigitByte b=true := by decide +kernel
  have response := sample_response digits "ok"
  have framed : FramedByLength (sampleFields "2") (encode "ok") :=
    sample_framed (by decide) digits (by decide)
  have short : CutShort (sampleBytes "2" "ok") (sampleBytes "2" "o") :=
    ⟨⟨encode "k",by decide +kernel⟩,by decide +kernel⟩
  have accepted : parseResponse (sampleBytes "2" "o")=some (.ok ⟨200,encode "o"⟩) := by
    decide +kernel
  refine ⟨response,framed,short,accepted,?_⟩
  intro fails
  obtain ⟨message,rejected⟩ := fails.cut _ short
  rw [accepted] at rejected
  cases rejected

end Samples

end ResponseFraming

end AkuSupervisor
