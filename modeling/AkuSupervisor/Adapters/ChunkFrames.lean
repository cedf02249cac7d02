import AkuSupervisor.Adapters.ChunkedBody
import AkuSupervisor.Lib.HttpGrammar

namespace AkuSupervisor

open HttpGrammar TextLines

/-- Hexadecimal digits, and maybe extensions. -/
def IsSizeLine (line : List UInt8) : Prop :=
  ∃(numeral : HexNumeral) (extension : List UInt8),numeral≠[] ∧ IsChunkExtension extension ∧
    line=numeral.map hexByte++extension

def IsSizeLineOf (size : Nat) (line : List UInt8) : Prop :=
  ∃(numeral : HexNumeral) (extension : List UInt8),numeral≠[] ∧ numeral.value=size ∧
    IsChunkExtension extension ∧ line=numeral.map hexByte++extension

/-- The bytes are a chunked body of HTTP/1.1 with this payload. -/
inductive IsChunkedBody : List UInt8 → List UInt8 → Prop where
  | last {line trailers : List UInt8} (size : IsSizeLineOf 0 line)
      (trailing : IsTrailerSection trailers) : IsChunkedBody (line++lineBreak++trailers) []
  | chunk {line data rest payload : List UInt8} (nonempty : data≠[])
      (size : IsSizeLineOf data.length line) (later : IsChunkedBody rest payload) :
      IsChunkedBody (line++lineBreak++(data++lineBreak++rest)) (data++payload)

/-- The size that the decoder reads from a line. -/
def announced (line : List UInt8) : Option Nat := (decode line).bind chunkSize

/-- The size lines of the bytes, up to that of the empty chunk, and the bytes behind it: each chunk has
as many bytes as its line announces, and two more. -/
inductive Frames : List UInt8 → List (List UInt8) → List UInt8 → Prop where
  | last {rest line after : List UInt8} (cut : Cut.once lineBreak rest=some (line,after))
      (size : announced line=some 0) : Frames rest [line] after
  | chunk {rest line after trailers : List UInt8} {lines : List (List UInt8)} {size : Nat}
      (cut : Cut.once lineBreak rest=some (line,after)) (size_eq : announced line=some size)
      (nonempty : size≠0) (later : Frames (after.drop (size+2)) lines trailers) :
      Frames rest (line::lines) trailers

theorem takeChunk_cut {rest line after : List UInt8} {size : Nat}
    (cut : Cut.once lineBreak rest=some (line,after)) (size_eq : announced line=some size) :
    takeChunk rest=if size=0 then
        if after=lineBreak ∨ headerEnd<:+after then some none else none
      else if (after.drop size).take 2=lineBreak then
        some (some (after.take size,after.drop (size+2)))
      else none := by
  unfold announced at size_eq
  rw [Option.bind_eq_some_iff] at size_eq
  obtain ⟨text,decoded,read⟩ := size_eq
  simp only [takeChunk,cut,decoded,read,Option.bind_some]

/-- What the decoder reads from digits and an extension is the number that the digits denote. -/
theorem value_of_announced {numeral : HexNumeral} {extension : List UInt8} {size : Nat}
    (nonempty : numeral≠[]) (extended : IsChunkExtension extension)
    (size_eq : announced (numeral.map hexByte++extension)=some size) : numeral.value=size := by
  unfold announced at size_eq
  rw [Option.bind_eq_some_iff] at size_eq
  obtain ⟨text,decoded,read⟩ := size_eq
  have digits : ∀b∈numeral.map hexByte,b.toNat < 128 := by
    intro b mem
    obtain ⟨digit,-,rfl⟩ := List.mem_map.mp mem
    exact (hexByte_ascii digit).1
  have digits_eq : chunkSize text=parseHex (String.ofList (asciiChars (numeral.map hexByte))) →
      numeral.value=size := by
    intro same
    rw [same,parseHex_digits nonempty] at read
    split_ifs at read
    exact Option.some.inj read
  apply digits_eq
  rcases extended.start with rfl|⟨blanks,more,blank,rfl⟩
  · have whole : text=String.ofList (asciiChars (numeral.map hexByte)) := by
      rw [List.append_nil,decode_ascii digits] at decoded
      exact (Option.some.inj decoded).symm
    exact chunkSize_digits numeral (by rw [whole,String.toList_ofList,List.append_nil]) (.inl rfl)
  · have front : ∀b∈numeral.map hexByte++blanks++[59],b.toNat < 128 := by
      intro b mem
      rcases List.mem_append.mp mem with mem|mem
      · rcases List.mem_append.mp mem with mem|mem
        · exact digits b mem
        · rcases blank b mem with rfl|rfl <;> decide
      · rw [List.mem_singleton.mp mem]
        decide
    have split : numeral.map hexByte++(blanks++59::more)=
        numeral.map hexByte++blanks++[59]++more := by simp
    rw [split] at decoded
    obtain ⟨behind,chars⟩ := decode_ascii_append front decoded
    rw [asciiChars_append,asciiChars_append,List.append_assoc,List.append_assoc] at chars
    exact chunkSize_digits numeral chars (.inr ⟨_,behind,asciiChars_blank blank,rfl⟩)

theorem hexNumeral_single (numeral : HexNumeral) : 13∉numeral.map hexByte := by
  intro mem
  obtain ⟨digit,-,same⟩ := List.mem_map.mp mem
  exact (hexByte_ascii digit).2.1 same

theorem once_sizeLine {line : List UInt8} (sized : IsSizeLine line) (after : List UInt8) :
    Cut.once lineBreak (line++lineBreak++after)=some (line,after) := by
  obtain ⟨numeral,extension,-,extended,rfl⟩ := sized
  apply Cut.once_of_not_mem [10] after
  intro mem
  rcases List.mem_append.mp mem with digits|behind
  · exact hexNumeral_single numeral digits
  · exact extended.single behind

theorem IsSizeLineOf.plain {line : List UInt8} {size : Nat} (sized : IsSizeLineOf size line) :
    IsSizeLine line := by
  obtain ⟨numeral,extension,nonempty,-,extended,split⟩ := sized
  exact ⟨numeral,extension,nonempty,extended,split⟩

/-- The decoder reads the size of a line of a body, when it does not reject the line. -/
theorem announced_of_takeChunk {line after : List UInt8} {size : Nat}
    (sized : IsSizeLineOf size line) (found : takeChunk (line++lineBreak++after)≠none) :
    announced line=some size := by
  have cut := once_sizeLine sized.plain after
  have read : announced line≠none := by
    intro nothing
    unfold announced at nothing
    apply found
    rw [takeChunk,cut,Option.bind_some]
    show (decode line).bind _=_
    rw [Option.bind_eq_none_iff] at nothing ⊢
    intro text decoded
    rw [nothing text decoded]
    rfl
  obtain ⟨other,size_eq⟩ := Option.ne_none_iff_exists'.mp read
  obtain ⟨numeral,extension,nonempty,value,extended,rfl⟩ := sized
  rw [size_eq,← value_of_announced nonempty extended size_eq,value]

theorem takeChunk_ne_none {rest payload : List UInt8} (reads : Reads rest (some payload)) :
    takeChunk rest≠none := by
  intro nothing
  exact absurd (reads.unique (.rejected nothing)) (Option.some_ne_none payload)

theorem Reads.later {rest data more payload : List UInt8} (reads : Reads rest (some payload))
    (found : takeChunk rest=some (some (data,more))) :
    ∃body,Reads more (some body) ∧ payload=data++body := by
  generalize given : some payload=result at reads
  cases reads with
  | rejected nothing => simp [nothing] at found
  | finished last => simp [last] at found
  | @chunk _ _ _ body first later =>
    rw [first] at found
    cases found
    cases body with
    | none => cases given
    | some body =>
      cases given
      exact ⟨body,later,rfl⟩

theorem Reads.ends {rest payload : List UInt8} (reads : Reads rest (some payload))
    (found : takeChunk rest=some none) : payload=[] :=
  Option.some.inj (reads.unique (.finished found))

/-- The lines of a body that the decoder accepts are the lines that it frames. -/
theorem frames_of_body {encoded payload other : List UInt8} (body : IsChunkedBody encoded payload)
    (reads : Reads encoded (some other)) :
    ∃lines trailers,Frames encoded lines trailers ∧ (∀line∈lines,IsSizeLine line) ∧
      IsTrailerSection trailers := by
  induction body generalizing other with
  | @last line trailers size trailing =>
    have size_eq := announced_of_takeChunk size (takeChunk_ne_none reads)
    refine ⟨[line],trailers,.last (once_sizeLine size.plain trailers) size_eq,?_,trailing⟩
    intro l mem
    rw [List.mem_singleton.mp mem]
    exact size.plain
  | @chunk line data rest payload nonempty size later ih =>
    have size_eq := announced_of_takeChunk size (takeChunk_ne_none reads)
    have cut := once_sizeLine size.plain (data++lineBreak++rest)
    have some : data.length≠0 := fun zero => nonempty (List.length_eq_zero_iff.mp zero)
    have behind : (data++lineBreak++rest).drop (data.length+2)=rest := by
      rw [List.append_assoc,← List.drop_drop,List.drop_left]
      rfl
    have framing : ((data++lineBreak++rest).drop data.length).take 2=lineBreak := by
      rw [List.append_assoc,List.drop_left]
      rfl
    have found := takeChunk_cut cut size_eq
    rw [if_neg some,if_pos framing,behind] at found
    obtain ⟨body,more,-⟩ := reads.later found
    obtain ⟨lines,trailers,frames,plain,trailing⟩ := ih more
    have next : Frames ((data++lineBreak++rest).drop (data.length+2)) lines trailers := by
      rw [behind]
      exact frames
    refine ⟨line::lines,trailers,.chunk cut size_eq some next,?_,trailing⟩
    intro l mem
    rcases List.mem_cons.mp mem with rfl|mem
    · exact size.plain
    · exact plain l mem

theorem IsSizeLine.of {line : List UInt8} {size : Nat} (plain : IsSizeLine line)
    (size_eq : announced line=some size) : IsSizeLineOf size line := by
  obtain ⟨numeral,extension,nonempty,extended,rfl⟩ := plain
  exact ⟨numeral,extension,nonempty,value_of_announced nonempty extended size_eq,extended,rfl⟩

/-- What the decoder accepts is a body if its lines and what is behind them are those of a body. -/
theorem body_of_frames {encoded trailers payload : List UInt8} {lines : List (List UInt8)}
    (frames : Frames encoded lines trailers) (reads : Reads encoded (some payload))
    (plain : ∀line∈lines,IsSizeLine line) (trailing : IsTrailerSection trailers) :
    IsChunkedBody encoded payload := by
  induction frames generalizing payload with
  | @last rest line after cut size_eq =>
    have found := takeChunk_cut cut size_eq
    have split := Cut.once_append cut
    rw [if_pos rfl] at found
    have complete : after=lineBreak ∨ headerEnd<:+after := by
      by_contra cutOff
      rw [if_neg cutOff] at found
      exact takeChunk_ne_none reads found
    rw [if_pos complete] at found
    rw [reads.ends found,split]
    exact .last ((plain line List.mem_cons_self).of size_eq) trailing
  | @chunk rest line after trailers lines size cut size_eq nonempty later ih =>
    have found := takeChunk_cut cut size_eq
    have split := Cut.once_append cut
    rw [if_neg nonempty] at found
    have framing : (after.drop size).take 2=lineBreak := by
      by_contra other
      rw [if_neg other] at found
      exact takeChunk_ne_none reads found
    rw [if_pos framing] at found
    obtain ⟨body,more,payload_eq⟩ := reads.later found
    have rest_body := ih more (fun l mem => plain l (List.mem_cons_of_mem line mem)) trailing
    have long : size+2≤after.length := by
      have lengths := congrArg List.length framing
      simp at lengths
      omega
    have length : (after.take size).length=size := by
      rw [List.length_take]
      omega
    have pieces : after=after.take size++lineBreak++after.drop (size+2) := by
      rw [← framing,← List.drop_drop,List.append_assoc,List.take_append_drop,
        List.take_append_drop]
    have sized : IsSizeLineOf (after.take size).length line := by
      rw [length]
      exact (plain line List.mem_cons_self).of size_eq
    have data : after.take size≠[] := by
      intro none
      rw [none] at length
      exact nonempty length.symm
    have whole := IsChunkedBody.chunk data sized rest_body
    rw [← pieces] at whole
    rw [split,payload_eq]
    exact whole

/-- What the decoder accepts is a well-formed body with the payload that it gives exactly when the
lines that it takes for size lines are digits and extensions, and what is behind the last of them is a
trailer section. -/
theorem decodeChunkedBody_sound (encoded payload : List UInt8)
    (bounded : encoded.length ≤ maxSliceBytes)
    (accepted : decodeChunkedBody encoded=some (.ok payload)) :
    IsChunkedBody encoded payload ↔
      ∃lines trailers,Frames encoded lines trailers ∧ (∀line∈lines,IsSizeLine line) ∧
        IsTrailerSection trailers := by
  obtain ⟨body,result,reads,gives,run⟩ :=
    decodeChunks_gives (encoded.length+1) [] encoded [] bounded (Nat.lt_succ_self _)
  have same : some result=some (.ok payload) := run.symm.trans accepted
  cases same
  have read : Reads encoded (some payload) := by
    cases body with
    | none =>
      obtain ⟨message,other⟩ := gives
      cases other
    | some body =>
      have payload_eq : Except.ok payload=Except.ok ([]++body) := gives
      cases payload_eq
      exact reads
  constructor
  · intro wellFormed
    exact frames_of_body wellFormed read
  · rintro ⟨lines,trailers,frames,plain,trailing⟩
    exact body_of_frames frames read plain trailing

theorem decodeChunkedBody_sound_abc :
    IsChunkedBody (encode "3\r\nabc\r\n0\r\n\r\n") (encode "abc") := by
  have digit (n : Fin 16) : IsSizeLine [hexByte (n,false)] :=
    ⟨[(n,false)],[],List.cons_ne_nil _ _,.nothing,rfl⟩
  have cut : Cut.once lineBreak (encode "3\r\nabc\r\n0\r\n\r\n")=
      some ([51],encode "abc\r\n0\r\n\r\n") := by decide
  have size_eq : announced [51]=some 3 := by decide +kernel
  have last : Frames ((encode "abc\r\n0\r\n\r\n").drop (3+2)) [[48]] lineBreak :=
    .last (by decide) (by decide +kernel)
  have frames : Frames (encode "3\r\nabc\r\n0\r\n\r\n") [[51],[48]] lineBreak :=
    .chunk cut size_eq (by decide) last
  apply (decodeChunkedBody_sound (encode "3\r\nabc\r\n0\r\n\r\n") (encode "abc") (by decide)
    (by decide +kernel)).mpr
  refine ⟨_,_,frames,fun line mem => ?_,[],by simp,rfl⟩
  rcases List.mem_cons.mp mem with rfl|mem
  · exact digit 3
  · rw [List.mem_singleton.mp mem]
    exact digit 0

/-- A body begins with a digit. -/
theorem IsChunkedBody.begins {encoded payload : List UInt8} (body : IsChunkedBody encoded payload) :
    ∃digit,encoded.head?=some (hexByte digit) := by
  have sized {size : Nat} {line : List UInt8} (of : IsSizeLineOf size line) (rest : List UInt8) :
      ∃digit,(line++rest).head?=some (hexByte digit) := by
    obtain ⟨numeral,extension,nonempty,-,-,rfl⟩ := of
    obtain ⟨digit,digits,rfl⟩ := List.exists_cons_of_ne_nil nonempty
    exact ⟨digit,rfl⟩
  cases body with
  | last size _ =>
    rw [List.append_assoc]
    exact sized size _
  | chunk _ size _ =>
    rw [List.append_assoc]
    exact sized size _

/-- A size with a sign in front is accepted. -/
theorem decodeChunkedBody_accepts_sign :
    decodeChunkedBody (encode "+3\r\nabc\r\n0\r\n\r\n")=some (.ok (encode "abc")) ∧
      ¬IsChunkedBody (encode "+3\r\nabc\r\n0\r\n\r\n") (encode "abc") := by
  refine ⟨by decide +kernel,fun body => ?_⟩
  obtain ⟨digit,first⟩ := body.begins
  have plus : hexByte digit=43 := by
    have head : (encode "+3\r\nabc\r\n0\r\n\r\n").head?=some 43 := by decide
    rw [head] at first
    exact (Option.some.inj first).symm
  obtain ⟨value,upper⟩ := digit
  revert plus
  revert value
  cases upper <;> decide

end AkuSupervisor
