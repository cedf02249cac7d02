import AkuSupervisor.Adapters.HttpResponse

namespace AkuSupervisor

/-- The length of the longest slice of bytes, `isize::MAX`. -/
def maxSliceBytes : Nat := 9223372036854775807

@[simp] theorem length_lineBreak : lineBreak.length=2 := rfl

section Slices

variable {front rest middle : List UInt8} {a b : Nat}

theorem slice_back : slice (front++rest) front.length (front++rest).length=.ok rest := by
  unfold slice
  rw [if_pos ⟨by simp,Nat.le_refl _⟩,List.take_length,List.drop_left]

theorem slice_middle :
    slice (front++middle++rest) front.length (front++middle).length=.ok middle := by
  unfold slice
  rw [if_pos ⟨by simp,by simp⟩,List.take_left,List.drop_left]

theorem plus_ok (small : a+b ≤ maxSliceBytes) : plus a b=.ok (a+b) := by
  have below : a+b < UInt64.size := by
    unfold maxSliceBytes at small
    simp only [UInt64.size]
    omega
  exact if_pos below

theorem checkedAdd_ok (small : a+b ≤ maxSliceBytes) : checkedAdd a b=some (a+b) := by
  have below : a+b < UInt64.size := by
    unfold maxSliceBytes at small
    simp only [UInt64.size]
    omega
  exact if_pos below

theorem checkedAdd_eq_some {sum : Nat} (added : checkedAdd a b=some sum) : sum=a+b := by
  unfold checkedAdd at added
  split_ifs at added
  cases added
  rfl

end Slices

/-- What the bytes start with: the end of the body, or a chunk with the bytes behind it. -/
def takeChunk (rest : List UInt8) : Option (Option (List UInt8 × List UInt8)) :=
  (Cut.once lineBreak rest).bind fun (line,after) =>
    (TextLines.decode line).bind fun sizeLine =>
      (chunkSize sizeLine).bind fun size =>
        if size=0 then
          if after=lineBreak ∨ headerEnd<:+after then some none else none
        else if (after.drop size).take 2=lineBreak then
          some (some (after.take size,after.drop (size+2)))
        else none

section Step

variable {front rest line after decoded : List UInt8}

theorem readSizeLine_of_cut (bounded : (front++rest).length ≤ maxSliceBytes)
    (cut : Cut.once lineBreak rest=some (line,after)) :
    readSizeLine (front++rest) front.length=(do
      let sizeLine ← orReject "HTTP chunk size was not ASCII" (TextLines.decode line)
      let size ← orReject "HTTP chunk size was invalid" (chunkSize sizeLine)
      return (size,(front++line++lineBreak).length)) := by
  have split := Cut.once_append cut
  subst split
  have first : slice (front++(line++lineBreak++after)) front.length (front++line).length=
      .ok line := by
    have whole : front++(line++lineBreak++after)=front++line++(lineBreak++after) := by simp
    rw [whole,slice_middle]
  have lineEnd : plus front.length line.length=.ok (front++line).length := by
    rw [plus_ok (by simp at bounded; omega),List.length_append]
  have next : plus (front++line).length 2=.ok (front++line++lineBreak).length := by
    rw [plus_ok (by simp at bounded ⊢; omega)]
    simp [Nat.add_assoc]
  unfold readSizeLine
  simp only [slice_back,cut,orReject,bind,Except.bind,lineEnd,first,next]

/-- A pass of the loop does what `takeChunk` says about the bytes from the cursor on. -/
def PassFits (front rest decoded : List UInt8) (pass : Except ChunkStop ChunkProgress) :
    Option (Option (List UInt8 × List UInt8)) → Prop
  | none => ∃message,pass=.error (.rejected message)
  | some none => pass=.ok (.finished decoded)
  | some (some (data,more)) => ∃taken,taken≠[] ∧ rest=taken++more ∧
      pass=.ok (.next (front++taken).length (decoded++data))

/-- What fits behind a line fits with the line. -/
theorem PassFits.with_line {pass : Except ChunkStop ChunkProgress}
    {found : Option (Option (List UInt8 × List UInt8))}
    (fits : PassFits (front++line) after decoded pass found) :
    PassFits front (line++after) decoded pass found := by
  cases found with
  | none => exact fits
  | some chunk =>
    cases chunk with
    | none => exact fits
    | some both =>
      obtain ⟨taken,some,rfl,passes⟩ := fits
      refine ⟨line++taken,List.append_ne_nil_of_right_ne_nil line some,?_,?_⟩
      · rw [List.append_assoc]
      · rw [passes,List.append_assoc]

theorem readTrailers_fits (decoded : List UInt8) :
    PassFits front after decoded (readTrailers (front++after) front.length decoded)
      (if after=lineBreak ∨ headerEnd<:+after then some none else none) := by
  unfold readTrailers
  simp only [slice_back,bind,Except.bind]
  split_ifs with complete
  · rfl
  · exact ⟨"HTTP chunk trailers were incomplete",rfl⟩

theorem readData_fits (bounded : (front++after).length ≤ maxSliceBytes) (size : Nat)
    (decoded : List UInt8) :
    PassFits front after decoded (readData (front++after) front.length size decoded)
      (if (after.drop size).take 2=lineBreak then
        some (some (after.take size,after.drop (size+2))) else none) := by
  rw [List.length_append] at bounded
  by_cases fits : size+2≤after.length
  · obtain ⟨data,rest,split,sized⟩ : ∃data rest,after=data++rest ∧ data.length=size :=
      ⟨after.take size,after.drop size,(List.take_append_drop size after).symm,by simp; omega⟩
    obtain ⟨framing,more,split',framed⟩ : ∃framing more,rest=framing++more ∧ framing.length=2 :=
      ⟨rest.take 2,rest.drop 2,(List.take_append_drop 2 rest).symm,by simp [split] at fits ⊢; omega⟩
    subst split split' sized
    simp only [List.length_append] at bounded
    have dataEnd : checkedAdd front.length data.length=some (front++data).length := by
      rw [checkedAdd_ok (by omega),List.length_append]
    have framingEnd : checkedAdd (front++data).length 2=some (front++data++framing).length := by
      rw [checkedAdd_ok (by simp; omega)]
      simp [framed,Nat.add_assoc]
    have whole : front++(data++(framing++more))=front++data++framing++more := by simp
    have inside : ¬(front++data++framing++more).length < (front++data++framing).length := by simp
    have last : slice (front++data++framing++more) (front++data).length
        (front++data++framing).length=.ok framing := slice_middle
    have first : slice (front++data++framing++more) front.length (front++data).length=.ok data := by
      rw [List.append_assoc (front++data)]
      exact slice_middle
    have taken : ((data++(framing++more)).drop data.length).take 2=framing := by
      rw [List.drop_left,← framed,List.take_left]
    have dropped : (data++(framing++more)).drop (data.length+2)=more := by
      rw [← List.drop_drop,List.drop_left,← framed,List.drop_left]
    rw [taken,dropped,List.take_left,whole]
    unfold readData
    simp only [dataEnd,framingEnd,orReject,bind,Except.bind,if_neg inside,last,first]
    by_cases closed : framing=lineBreak
    · rw [if_pos closed,if_neg (not_not.mpr closed)]
      refine ⟨data++framing,?_,(List.append_assoc data framing more).symm,?_⟩
      · rw [closed]
        exact List.append_ne_nil_of_right_ne_nil data (List.cons_ne_nil _ _)
      · rw [← List.append_assoc]
        rfl
    · rw [if_neg closed,if_pos closed]
      exact ⟨"HTTP chunk data was incomplete",rfl⟩
  · -- the data does not fit, or its end is not an index at all
    have short : (after.drop size).take 2≠lineBreak := by
      intro same
      have lengths := congrArg List.length same
      simp at lengths
      omega
    rw [if_neg short]
    unfold readData
    cases first : checkedAdd front.length size with
    | none => exact ⟨"HTTP chunk size exceeded the response bound",rfl⟩
    | some dataEnd =>
      have dataEnd_eq := checkedAdd_eq_some first
      cases second : checkedAdd dataEnd 2 with
      | none =>
        refine ⟨"HTTP chunk framing exceeded the response bound",?_⟩
        simp only [second,orReject,bind,Except.bind]
      | some framingEnd =>
        have framingEnd_eq := checkedAdd_eq_some second
        have beyond : (front++after).length < framingEnd := by
          rw [List.length_append]
          omega
        refine ⟨"HTTP chunk data was incomplete",?_⟩
        simp only [second,orReject,bind,Except.bind]
        rw [if_pos beyond]
        rfl

theorem chunkStep_fits (bounded : (front++rest).length ≤ maxSliceBytes) (decoded : List UInt8) :
    PassFits front rest decoded (chunkStep (front++rest) front.length decoded)
      (takeChunk rest) := by
  cases cut : Cut.once lineBreak rest with
  | none =>
    have nothing : takeChunk rest=none := by simp [takeChunk,cut]
    rw [nothing]
    refine ⟨"HTTP chunk size line was incomplete",?_⟩
    simp only [chunkStep,readSizeLine,slice_back,cut,orReject,bind,Except.bind]
  | some both =>
    obtain ⟨line,after⟩ := both
    have sized := readSizeLine_of_cut bounded cut
    have split := Cut.once_append cut
    cases text : TextLines.decode line with
    | none =>
      have nothing : takeChunk rest=none := by simp [takeChunk,cut,text]
      rw [nothing]
      refine ⟨"HTTP chunk size was not ASCII",?_⟩
      simp only [chunkStep,sized,text,orReject,bind,Except.bind]
    | some sizeLine =>
      cases announced : chunkSize sizeLine with
      | none =>
        have nothing : takeChunk rest=none := by simp [takeChunk,cut,text,announced]
        rw [nothing]
        refine ⟨"HTTP chunk size was invalid",?_⟩
        simp only [chunkStep,sized,text,announced,orReject,bind,Except.bind]
      | some size =>
        have step : chunkStep (front++rest) front.length decoded=
            if size=0 then readTrailers (front++rest) (front++line++lineBreak).length decoded
            else readData (front++rest) (front++line++lineBreak).length size decoded := by
          simp only [chunkStep,sized,text,announced,orReject,bind,Except.bind]
          rfl
        have behind : takeChunk rest=if size=0 then
            if after=lineBreak ∨ headerEnd<:+after then some none else none
            else if (after.drop size).take 2=lineBreak then
              some (some (after.take size,after.drop (size+2)))
            else none := by
          simp only [takeChunk,cut,text,announced,Option.bind_some]
        have whole : front++rest=front++line++lineBreak++after := by simp [split]
        rw [step,behind]
        rw [whole] at bounded ⊢
        rw [split]
        apply PassFits.with_line
        rw [← List.append_assoc]
        by_cases empty : size=0
        · rw [if_pos empty,if_pos empty]
          exact readTrailers_fits decoded
        · rw [if_neg empty,if_neg empty]
          exact readData_fits bounded size decoded

end Step

/-- The body that the bytes encode, chunk after chunk, or that they encode none. -/
inductive Reads : List UInt8 → Option (List UInt8) → Prop where
  | rejected {rest : List UInt8} (nothing : takeChunk rest=none) : Reads rest none
  | finished {rest : List UInt8} (last : takeChunk rest=some none) : Reads rest (some [])
  | chunk {rest data more : List UInt8} {body : Option (List UInt8)}
      (first : takeChunk rest=some (some (data,more))) (later : Reads more body) :
      Reads rest (body.map (data++·))

theorem Reads.unique {rest : List UInt8} {a b : Option (List UInt8)} (first : Reads rest a)
    (second : Reads rest b) : a=b := by
  induction first generalizing b with
  | rejected nothing =>
    cases second with
    | rejected _ => rfl
    | finished last => simp [nothing] at last
    | chunk other _ => simp [nothing] at other
  | finished last =>
    cases second with
    | rejected nothing => simp [last] at nothing
    | finished _ => rfl
    | chunk other _ => simp [last] at other
  | chunk found later ih =>
    cases second with
    | rejected nothing => simp [found] at nothing
    | finished last => simp [found] at last
    | chunk other more =>
      rw [found] at other
      cases other
      rw [ih more]

/-- The decoder gives the body after what it has decoded before, or rejects. -/
def Gives (decoded : List UInt8) : Option (List UInt8) → Except ChunkStop (List UInt8) → Prop
  | none,result => ∃message,result=.error (.rejected message)
  | some body,result => result=.ok (decoded++body)

/-- With a pass for each byte, and one more, the loop gives the body that is left. -/
theorem decodeChunks_gives (fuel : Nat) (front rest decoded : List UInt8)
    (bounded : (front++rest).length ≤ maxSliceBytes) (enough : rest.length < fuel) :
    ∃body result,Reads rest body ∧ Gives decoded body result ∧
      decodeChunks (front++rest) fuel front.length decoded=some result := by
  induction fuel generalizing front rest decoded with
  | zero => omega
  | succ fuel ih =>
    have fits := chunkStep_fits bounded decoded
    rw [decodeChunks]
    cases found : takeChunk rest with
    | none =>
      rw [found] at fits
      obtain ⟨message,pass⟩ := fits
      rw [pass]
      exact ⟨none,_,.rejected found,⟨message,rfl⟩,rfl⟩
    | some chunk =>
      rw [found] at fits
      cases chunk with
      | none =>
        have pass : chunkStep (front++rest) front.length decoded=.ok (.finished decoded) := fits
        rw [pass]
        exact ⟨some [],_,.finished found,congrArg Except.ok (List.append_nil decoded).symm,rfl⟩
      | some both =>
        obtain ⟨data,more⟩ := both
        obtain ⟨taken,some,split,pass⟩ := fits
        rw [pass,split,← List.append_assoc]
        rw [split,← List.append_assoc] at bounded
        have shorter : more.length < fuel := by
          have positive := List.length_pos_of_ne_nil some
          rw [split,List.length_append] at enough
          omega
        obtain ⟨body,result,reads,gives,run⟩ := ih (front++taken) more (decoded++data) bounded shorter
        refine ⟨body.map (data++·),result,.chunk (split ▸ found) reads,?_,run⟩
        cases body with
        | none => exact gives
        | some body =>
          have result_eq : result=.ok (decoded++data++body) := gives
          rw [List.append_assoc] at result_eq
          exact result_eq

section Encoding

/-- The digits of a number in base 16, each in lower or upper case. -/
abbrev HexNumeral := List (Fin 16 × Bool)

def hexByte (digit : Fin 16 × Bool) : UInt8 :=
  UInt8.ofNat (if digit.1.val < 10 then 48+digit.1.val
    else if digit.2 then 55+digit.1.val else 87+digit.1.val)

def HexNumeral.value (numeral : HexNumeral) : Nat :=
  numeral.foldl (fun value digit => 16*value+digit.1.val) 0

/-- A chunk extension: a semicolon, maybe after blanks, and then any ASCII text in the line. -/
def IsExtension (extension : List UInt8) : Prop :=
  extension=[] ∨ ∃blanks text,extension=blanks++59::text ∧ (∀b∈blanks,b=32 ∨ b=9) ∧
    ∀b∈text,b.toNat < 128 ∧ b≠13 ∧ b≠10

/-- A line that announces a chunk of this size. -/
structure SizeLine (size : Nat) where
  numeral : HexNumeral
  extension : List UInt8
  nonempty : numeral≠[]
  value : numeral.value=size
  extended : IsExtension extension

def SizeLine.bytes {size : Nat} (line : SizeLine size) : List UInt8 :=
  line.numeral.map hexByte++line.extension

structure Chunk where
  data : List UInt8
  line : SizeLine data.length
  nonempty : data≠[]

def Chunk.bytes (chunk : Chunk) : List UInt8 :=
  chunk.line.bytes++lineBreak++(chunk.data++lineBreak)

def IsHeaderLine (line : List UInt8) : Prop := line≠[] ∧ 13∉line ∧ 10∉line

/-- The chunks of a body with what follows them. -/
structure ChunkedBody where
  chunks : List Chunk
  last : SizeLine 0
  trailers : List (List UInt8)
  headers : ∀line∈trailers,IsHeaderLine line

def trailerBytes (trailers : List (List UInt8)) : List UInt8 :=
  trailers.flatMap (·++lineBreak)++lineBreak

def ChunkedBody.encode (body : ChunkedBody) : List UInt8 :=
  body.chunks.flatMap Chunk.bytes++(body.last.bytes++lineBreak++trailerBytes body.trailers)

def ChunkedBody.payload (body : ChunkedBody) : List UInt8 := body.chunks.flatMap Chunk.data

theorem hexByte_ascii (digit : Fin 16 × Bool) :
    (hexByte digit).toNat < 128 ∧ hexByte digit≠13 ∧ hexByte digit≠10 := by
  obtain ⟨value,upper⟩ := digit
  revert value
  cases upper <;> decide

/-- A digit is read as its value, and it is nothing else in a line. -/
theorem hexDigit_hexByte (digit : Fin 16 × Bool) :
    hexDigit (Char.ofNat (hexByte digit).toNat)=some digit.1.val ∧
    isWhitespace (Char.ofNat (hexByte digit).toNat)=false ∧
    Char.ofNat (hexByte digit).toNat≠ '+' ∧ Char.ofNat (hexByte digit).toNat≠ ';' := by
  obtain ⟨value,upper⟩ := digit
  revert value
  cases upper <;> decide

open TextLines (asciiChars)

theorem asciiChars_append (a b : List UInt8) : asciiChars (a++b)=asciiChars a++asciiChars b :=
  List.map_append

theorem asciiChars_blank {blanks : List UInt8} (blank : ∀b∈blanks,b=32 ∨ b=9) (c : Char)
    (mem : c∈asciiChars blanks) : isWhitespace c ∧ c≠ ';' := by
  obtain ⟨b,here,rfl⟩ := List.mem_map.mp mem
  obtain rfl | rfl := blank b here <;> decide

theorem mem_numeral {numeral : HexNumeral} {c : Char} (mem : c∈asciiChars (numeral.map hexByte)) :
    ∃digit,hexDigit c=some digit ∧ isWhitespace c=false ∧ c≠ '+' ∧ c≠ ';' := by
  obtain ⟨b,here,rfl⟩ := List.mem_map.mp mem
  obtain ⟨digit,-,rfl⟩ := List.mem_map.mp here
  exact ⟨_,hexDigit_hexByte digit⟩

theorem mapM_hexDigit (numeral : HexNumeral) :
    (asciiChars (numeral.map hexByte)).mapM hexDigit=some (numeral.map fun digit => digit.1.val) := by
  induction numeral with
  | nil => rfl
  | cons digit numeral ih =>
    show (Char.ofNat (hexByte digit).toNat::asciiChars (numeral.map hexByte)).mapM hexDigit=_
    rw [List.mapM_cons,(hexDigit_hexByte digit).1,ih]
    rfl

/-- A numeral is read as its value, in either case and with any number of zeros in front, if this value
is an index. -/
theorem parseHex_digits {numeral : HexNumeral} (nonempty : numeral≠[]) :
    parseHex (String.ofList (asciiChars (numeral.map hexByte)))=
      if numeral.value < UInt64.size then some numeral.value else none := by
  have digits : dropPlus (asciiChars (numeral.map hexByte))=asciiChars (numeral.map hexByte) := by
    cases chars : asciiChars (numeral.map hexByte) with
    | nil => rfl
    | cons c rest =>
      obtain ⟨-,-,-,digit,-⟩ := mem_numeral (chars ▸ List.mem_cons_self : c∈_)
      exact if_neg digit
  have some : asciiChars (numeral.map hexByte)≠[] := by
    simpa [asciiChars] using nonempty
  unfold parseHex
  simp only [String.toList_ofList,digits,if_neg some,mapM_hexDigit,Option.bind_some,List.foldl_map]
  rfl

theorem parseHex_numeral {numeral : HexNumeral} (nonempty : numeral≠[])
    (small : numeral.value < UInt64.size) :
    parseHex (String.ofList (asciiChars (numeral.map hexByte)))=some numeral.value := by
  rw [parseHex_digits nonempty,if_pos small]

theorem dropWhile_solid {text : List Char} (solid : ∀c∈text,isWhitespace c=false) :
    text.dropWhile isWhitespace=text := by
  cases text with
  | nil => rfl
  | cons c text => simp [solid c List.mem_cons_self]

/-- Blanks behind a text without blanks are trimmed off. -/
theorem trimChars_blanks {text blanks : List Char} (solid : ∀c∈text,isWhitespace c=false)
    (blank : ∀c∈blanks,isWhitespace c) : trimChars (text++blanks)=text := by
  have back : (blanks.reverse++text.reverse).dropWhile isWhitespace=text.reverse := by
    rw [List.dropWhile_append_of_pos (fun c mem => blank c (List.mem_reverse.mp mem))]
    exact dropWhile_solid fun c mem => solid c (List.mem_reverse.mp mem)
  unfold trimChars
  cases text with
  | nil =>
    have none : blanks.dropWhile isWhitespace=[] := List.dropWhile_eq_nil_iff.mpr blank
    rw [List.nil_append,none]
    rfl
  | cons c text =>
    have first : isWhitespace c=false := solid c List.mem_cons_self
    have same : (c::text++blanks).dropWhile isWhitespace=c::text++blanks := by
      simp [first]
    rw [same,List.reverse_append,back,List.reverse_reverse]

theorem SizeLine.ascii {size : Nat} (line : SizeLine size) :
    ∀b∈line.bytes,b.toNat < 128 ∧ b≠13 ∧ b≠10 := by
  intro b mem
  have numeral (here : b∈line.numeral.map hexByte) : b.toNat < 128 ∧ b≠13 ∧ b≠10 := by
    obtain ⟨digit,-,rfl⟩ := List.mem_map.mp here
    exact hexByte_ascii digit
  obtain here | here := List.mem_append.mp mem
  · exact numeral here
  obtain none | ⟨blanks,text,extension,blank,plain⟩ := line.extended
  · rw [none] at here
    cases here
  rw [extension] at here
  obtain here | here := List.mem_append.mp here
  · obtain rfl | rfl := blank b here <;> decide
  obtain rfl | here := List.mem_cons.mp here
  · decide
  · exact plain b here

/-- The size of a line is read from its digits, whatever extension follows, maybe behind blanks. -/
theorem chunkSize_digits (numeral : HexNumeral) {text : String} {behind : List Char}
    (chars : text.toList=asciiChars (numeral.map hexByte)++behind)
    (extended : behind=[] ∨ ∃blanks extension,(∀c∈blanks,isWhitespace c ∧ c≠ ';') ∧
      behind=blanks++ ';' ::extension) :
    chunkSize text=parseHex (String.ofList (asciiChars (numeral.map hexByte))) := by
  have mark : ";".toList=[';'] := by decide
  have solid (c : Char) (mem : c∈asciiChars (numeral.map hexByte)) :
      isWhitespace c=false ∧ c≠ ';' := by
    obtain ⟨-,-,white,-,mark⟩ := mem_numeral mem
    exact ⟨white,mark⟩
  have token (blanks : List Char) (blank : ∀c∈blanks,isWhitespace c) :
      trim (String.ofList (asciiChars (numeral.map hexByte)++blanks))=
        String.ofList (asciiChars (numeral.map hexByte)) := by
    unfold trim
    rw [String.toList_ofList,trimChars_blanks (fun c mem => (solid c mem).1) blank]
  obtain none | ⟨blanks,extension,blank,split⟩ := extended
  · have whole : text=String.ofList (asciiChars (numeral.map hexByte)++[]) := by
      rw [← String.ofList_toList (s := text),chars,none]
    have cut : Cut.splitOnce ";" text=Option.none := by
      unfold Cut.splitOnce
      rw [Option.map_eq_none_iff,mark,Cut.once_eq_none (List.cons_ne_nil _ _)]
      intro inside
      have mem := inside.subset (List.mem_singleton_self ';')
      rw [chars,none,List.append_nil] at mem
      exact (solid _ mem).2 rfl
    simp only [chunkSize,cut]
    rw [whole,token [] (by simp)]
  · have cut : Cut.splitOnce ";" text=
        some (String.ofList (asciiChars (numeral.map hexByte)++blanks),
          String.ofList extension) := by
      have fresh : ';' ∉asciiChars (numeral.map hexByte)++blanks := by
        intro mem
        obtain mem | mem := List.mem_append.mp mem
        · exact (solid _ mem).2 rfl
        · exact (blank _ mem).2 rfl
      have first := Cut.once_of_not_mem [] extension fresh
      rw [List.append_assoc _ [';'],List.singleton_append] at first
      unfold Cut.splitOnce
      rw [mark,chars,split,← List.append_assoc,first]
      rfl
    simp only [chunkSize,cut]
    rw [token blanks fun c mem => (blank c mem).1]

/-- The size of a line is read whatever its extension says. -/
theorem SizeLine.read {size : Nat} (line : SizeLine size) (small : size < UInt64.size) :
    (TextLines.decode line.bytes).bind chunkSize=some size := by
  have numeral : parseHex (String.ofList (asciiChars (line.numeral.map hexByte)))=some size := by
    have read := parseHex_numeral line.nonempty (line.value.symm ▸ small)
    rwa [line.value] at read
  rw [TextLines.decode_ascii fun b mem => (line.ascii b mem).1,Option.bind_some,← numeral]
  have whole : (String.ofList (asciiChars line.bytes)).toList=
      asciiChars (line.numeral.map hexByte)++asciiChars line.extension := by
    rw [String.toList_ofList,SizeLine.bytes,asciiChars_append]
  apply chunkSize_digits line.numeral whole
  obtain none | ⟨blanks,text,extension,blank,-⟩ := line.extended
  · exact .inl (by rw [none]; rfl)
  · refine .inr ⟨asciiChars blanks,asciiChars text,asciiChars_blank blank,?_⟩
    rw [extension,asciiChars_append]
    rfl

/-- A size line with what is behind it. -/
theorem takeChunk_line {size : Nat} (line : SizeLine size) (small : size < UInt64.size)
    (after : List UInt8) :
    takeChunk (line.bytes++lineBreak++after)=
      if size=0 then
        if after=lineBreak ∨ headerEnd<:+after then some none else none
      else if (after.drop size).take 2=lineBreak then
        some (some (after.take size,after.drop (size+2)))
      else none := by
  have cut : Cut.once lineBreak (line.bytes++lineBreak++after)=some (line.bytes,after) :=
    Cut.once_of_not_mem [10] after fun mem => (line.ascii 13 mem).2.1 rfl
  have read := line.read small
  rw [Option.bind_eq_some_iff] at read
  obtain ⟨text,decoded,announced⟩ := read
  simp only [takeChunk,cut,decoded,announced,Option.bind_some]

/-- Before its line break is complete, a size line is nothing. -/
theorem takeChunk_cut_line {size : Nat} (line : SizeLine size) {rest : List UInt8}
    (cut : rest <+: line.bytes++[13]) : takeChunk rest=none := by
  have fresh : 10∉line.bytes++[13] := by
    intro mem
    obtain mem | mem := List.mem_append.mp mem
    · exact (line.ascii 10 mem).2.2 rfl
    · exact absurd mem (by decide)
  have none : Cut.once lineBreak rest=Option.none := by
    refine (Cut.once_eq_none (List.cons_ne_nil 13 [10])).mpr fun inside => fresh ?_
    exact cut.subset (inside.subset (by decide))
  simp only [takeChunk,none,Option.bind_none]

/-- The proper beginnings of a line with its break have no break. -/
theorem prefix_of_line_break {p line : List UInt8} (cut : p <+: line++lineBreak)
    (whole : p≠line++lineBreak) : p <+: line++[13] := by
  have split : line++lineBreak=line++[13]++[10] := by simp [lineBreak]
  rw [split] at cut whole
  exact (List.prefix_concat_iff.mp cut).resolve_left whole

theorem takeChunk_bytes (chunk : Chunk) {more : List UInt8}
    (bounded : (chunk.bytes++more).length ≤ maxSliceBytes) :
    takeChunk (chunk.bytes++more)=some (some (chunk.data,more)) := by
  have lengths : chunk.data.length ≤ maxSliceBytes := by
    simp [Chunk.bytes] at bounded
    omega
  have small : chunk.data.length < UInt64.size := by
    unfold maxSliceBytes at lengths
    simp only [UInt64.size]
    omega
  have split : chunk.bytes++more=chunk.line.bytes++lineBreak++(chunk.data++(lineBreak++more)) := by
    simp [Chunk.bytes]
  have some : chunk.data.length≠0 := by simpa using chunk.nonempty
  have framing : ((chunk.data++(lineBreak++more)).drop chunk.data.length).take 2=lineBreak := by
    rw [List.drop_left]
    rfl
  have behind : (chunk.data++(lineBreak++more)).drop (chunk.data.length+2)=more := by
    rw [← List.drop_drop,List.drop_left]
    rfl
  rw [split,takeChunk_line chunk.line small,if_neg some,if_pos framing,List.take_left,behind]

/-- A chunk that is cut off anywhere is nothing. -/
theorem takeChunk_cut_bytes (chunk : Chunk) {p : List UInt8}
    (bounded : chunk.bytes.length ≤ maxSliceBytes) (cut : p <+: chunk.bytes) (whole : p≠chunk.bytes) :
    takeChunk p=none := by
  obtain ⟨inLine,short⟩ | ⟨q,rfl,inData⟩ := Cut.prefix_append_cases cut
  · exact takeChunk_cut_line chunk.line (prefix_of_line_break inLine short)
  have shorter : q.length < chunk.data.length+2 := by
    have lengths := inData.length_le
    obtain less | same := Nat.lt_or_eq_of_le lengths
    · simpa using less
    · exact absurd (congrArg (chunk.line.bytes++lineBreak++·) (inData.eq_of_length same)) whole
  have short : (q.drop chunk.data.length).take 2≠lineBreak := by
    intro same
    have lengths := congrArg List.length same
    simp at lengths
    omega
  have small : chunk.data.length < UInt64.size := by
    unfold maxSliceBytes at bounded
    simp [Chunk.bytes] at bounded
    simp only [UInt64.size]
    omega
  have some : chunk.data.length≠0 := by simpa using chunk.nonempty
  rw [takeChunk_line chunk.line small,if_neg some,if_neg short]

/-- Behind the empty chunk, the header lines end with an empty line and not before. -/
theorem trailerBytes_complete {trailers : List (List UInt8)}
    (headers : ∀line∈trailers,IsHeaderLine line) :
    trailerBytes trailers=lineBreak ∨ headerEnd<:+trailerBytes trailers := by
  induction trailers with
  | nil => exact .inl rfl
  | cons line trailers ih =>
    have split : trailerBytes (line::trailers)=line++lineBreak++trailerBytes trailers := by
      simp [trailerBytes]
    rw [split]
    right
    obtain last | longer := ih fun other mem => headers other (List.mem_cons_of_mem line mem)
    · rw [last]
      exact ⟨line,by simp [lineBreak,headerEnd]⟩
    · exact longer.trans (List.suffix_append _ _)

/-- Two line breaks do not end in a header line and its break, whatever little follows. -/
theorem not_headerEnd_suffix {line q : List UInt8} (header : IsHeaderLine line)
    (unended : q≠lineBreak) (later : ¬headerEnd<:+q) : ¬headerEnd<:+line++lineBreak++q := by
  intro suffix
  have few : q.length < 4 := by
    by_contra many
    exact later (List.suffix_of_suffix_length_le suffix (List.suffix_append _ q)
      (by simp [headerEnd]; omega))
  rw [← List.reverse_prefix] at suffix
  obtain ⟨-,-,newline⟩ := header
  -- the bytes of `q` and of the break are too few, and the line has none of them
  obtain _ | ⟨a,_ | ⟨b,_ | ⟨c,_ | ⟨d,q⟩⟩⟩⟩ := q
  · simp [headerEnd,lineBreak,List.cons_prefix_cons] at suffix
    exact newline (List.mem_reverse.mp (suffix.subset List.mem_cons_self))
  · simp [headerEnd,lineBreak,List.cons_prefix_cons] at suffix
  · simp [headerEnd,lineBreak,List.cons_prefix_cons] at suffix
    obtain ⟨rfl,rfl,-⟩ := suffix
    exact unended rfl
  · simp [headerEnd,lineBreak,List.cons_prefix_cons] at suffix
  · simp at few
    omega

theorem trailerBytes_cut {trailers : List (List UInt8)}
    (headers : ∀line∈trailers,IsHeaderLine line) {q : List UInt8}
    (cut : q <+: trailerBytes trailers) (short : q≠trailerBytes trailers) :
    q≠lineBreak ∧ ¬headerEnd<:+q := by
  induction trailers generalizing q with
  | nil =>
    refine ⟨short,fun suffix => ?_⟩
    have lengths := suffix.length_le.trans cut.length_le
    exact absurd lengths (by decide)
  | cons line trailers ih =>
    have header := headers line List.mem_cons_self
    have split : trailerBytes (line::trailers)=line++lineBreak++trailerBytes trailers := by
      simp [trailerBytes]
    rw [split] at cut short
    obtain ⟨inLine,before⟩ | ⟨q,rfl,later⟩ := Cut.prefix_append_cases cut
    · have fresh : 10∉q := by
        intro mem
        have here := (prefix_of_line_break inLine before).subset mem
        simp [header.2.2] at here
      refine ⟨fun same => fresh ?_,fun suffix => fresh (suffix.subset (by decide))⟩
      rw [same]
      decide
    · have less : q≠trailerBytes trailers := fun same => short (by rw [same])
      obtain ⟨unended,more⟩ := ih (fun other mem => headers other (List.mem_cons_of_mem line mem))
        later less
      refine ⟨fun same => ?_,not_headerEnd_suffix header unended more⟩
      have lengths := congrArg List.length same
      have some := List.length_pos_of_ne_nil header.1
      simp at lengths
      omega

theorem reads_encode (chunks : List Chunk) (last : SizeLine 0) {trailers : List (List UInt8)}
    (headers : ∀line∈trailers,IsHeaderLine line)
    (bounded : (chunks.flatMap Chunk.bytes++(last.bytes++lineBreak++trailerBytes trailers)).length≤
      maxSliceBytes) :
    Reads (chunks.flatMap Chunk.bytes++(last.bytes++lineBreak++trailerBytes trailers))
      (some (chunks.flatMap Chunk.data)) := by
  induction chunks with
  | nil =>
    apply Reads.finished
    rw [List.flatMap_nil,List.nil_append,takeChunk_line last (by decide),if_pos rfl,
      if_pos (trailerBytes_complete headers)]
  | cons chunk chunks ih =>
    rw [List.flatMap_cons,List.append_assoc] at bounded ⊢
    have later := ih (by rw [List.length_append] at bounded; omega)
    exact .chunk (takeChunk_bytes chunk bounded) later

theorem reads_cut (chunks : List Chunk) (last : SizeLine 0) {trailers : List (List UInt8)}
    (headers : ∀line∈trailers,IsHeaderLine line) {p : List UInt8}
    (bounded : (chunks.flatMap Chunk.bytes++(last.bytes++lineBreak++trailerBytes trailers)).length≤
      maxSliceBytes)
    (cut : p <+: chunks.flatMap Chunk.bytes++(last.bytes++lineBreak++trailerBytes trailers))
    (short : p≠chunks.flatMap Chunk.bytes++(last.bytes++lineBreak++trailerBytes trailers)) :
    Reads p none := by
  induction chunks generalizing p with
  | nil =>
    rw [List.flatMap_nil,List.nil_append] at cut short
    apply Reads.rejected
    obtain ⟨inLine,before⟩ | ⟨q,rfl,later⟩ := Cut.prefix_append_cases cut
    · exact takeChunk_cut_line last (prefix_of_line_break inLine before)
    · obtain ⟨unended,more⟩ := trailerBytes_cut headers later fun same => short (by rw [same])
      rw [takeChunk_line last (by decide),if_pos rfl,if_neg (not_or.mpr ⟨unended,more⟩)]
  | cons chunk chunks ih =>
    rw [List.flatMap_cons,List.append_assoc] at bounded cut short
    have fits := bounded
    rw [List.length_append] at fits
    obtain ⟨inChunk,before⟩ | ⟨q,rfl,later⟩ := Cut.prefix_append_cases cut
    · exact .rejected (takeChunk_cut_bytes chunk (by omega) inChunk before)
    · have reads := ih (by omega) later fun same => short (by rw [same])
      have smaller : (chunk.bytes++q).length ≤ maxSliceBytes := cut.length_le.trans bounded
      exact .chunk (takeChunk_bytes chunk smaller) reads

/-- The decoder gives back the payload of every body, rejects what is cut off from one, and on any
bytes comes to an end that is no panic. -/
theorem decodeChunkedBody_round_trip :
    (∀(body : ChunkedBody),body.encode.length ≤ maxSliceBytes →
      decodeChunkedBody body.encode=some (.ok body.payload) ∧
      ∀p,p <+: body.encode → p≠body.encode →
        ∃message,decodeChunkedBody p=some (.error (.rejected message))) ∧
    ∀(encoded : List UInt8),encoded.length ≤ maxSliceBytes →
      ∃result,decodeChunkedBody encoded=some result ∧ result≠.error .outOfRange ∧
        result≠.error .overflow := by
  have gives (encoded : List UInt8) (bounded : encoded.length ≤ maxSliceBytes) :
      ∃body result,Reads encoded body ∧ Gives [] body result ∧
        decodeChunkedBody encoded=some result :=
    decodeChunks_gives (encoded.length+1) [] encoded [] bounded (Nat.lt_succ_self _)
  refine ⟨fun body bounded => ⟨?_,fun p cut short => ?_⟩,fun encoded bounded => ?_⟩
  · obtain ⟨found,result,reads,given,run⟩ := gives body.encode bounded
    cases reads.unique (reads_encode body.chunks body.last body.headers bounded)
    have result_eq : result=.ok body.payload := given
    rw [run,result_eq]
  · obtain ⟨found,result,reads,given,run⟩ := gives p (cut.length_le.trans bounded)
    cases reads.unique (reads_cut body.chunks body.last body.headers bounded cut short)
    obtain ⟨message,result_eq⟩ := given
    exact ⟨message,by rw [run,result_eq]⟩
  · obtain ⟨found,result,-,given,run⟩ := gives encoded bounded
    refine ⟨result,run,?_⟩
    cases found with
    | none =>
      obtain ⟨message,rfl⟩ := given
      exact ⟨by simp,by simp⟩
    | some body =>
      have result_eq : result=.ok ([]++body) := given
      rw [result_eq]
      exact ⟨by simp,by simp⟩

set_option maxRecDepth 2000 in
/-- `geofu` in two chunks, one with an extension and one with zeros in front, and a header line. -/
def fixtureChunks : ChunkedBody where
  chunks := [⟨TextLines.encode "geo",⟨[(3,false)],TextLines.encode " ;source=node",by decide,rfl,
      .inr ⟨[32],TextLines.encode "source=node",by decide⟩⟩,by decide⟩,
    ⟨TextLines.encode "fu",⟨[(0,false),(2,true)],[],by decide,rfl,.inl rfl⟩,by decide⟩]
  last := ⟨[(0,false)],[],by decide,rfl,.inl rfl⟩
  trailers := [TextLines.encode "X-Probe: complete"]
  headers line mem := by
    rw [List.mem_singleton] at mem
    subst mem
    unfold IsHeaderLine
    decide

theorem decodeChunkedBody_round_trip_geofu :
    decodeChunkedBody (TextLines.encode
      "3 ;source=node\r\ngeo\r\n02\r\nfu\r\n0\r\nX-Probe: complete\r\n\r\n")=
        some (.ok (TextLines.encode "geofu")) ∧
    ∃message,decodeChunkedBody (TextLines.encode "3 ;source=node\r\ngeo\r\n02\r\nfu")=
      some (.error (.rejected message)) := by
  have encoded : fixtureChunks.encode=TextLines.encode
      "3 ;source=node\r\ngeo\r\n02\r\nfu\r\n0\r\nX-Probe: complete\r\n\r\n" := by
    decide
  obtain ⟨whole,cut⟩ := decodeChunkedBody_round_trip.1 fixtureChunks (by rw [encoded]; decide)
  rw [encoded] at whole cut
  exact ⟨whole,cut _ (by decide) (by decide)⟩

end Encoding

end AkuSupervisor
