import Mathlib.Data.List.Basic
import Mathlib.Tactic.Common

/-! Text as bytes: its UTF-8 encoding, and the lines a buffered reader finds in it. -/

namespace TextLines

/-- The UTF-8 encoding of a text. -/
def encode (text : String) : List UInt8 := text.toList.flatMap String.utf8EncodeChar

/-- The text that the bytes encode, if they are valid UTF-8. -/
def decode (bytes : List UInt8) : Option String := String.fromUTF8? ⟨bytes.toArray⟩

@[simp] theorem encode_append (a b : String) : encode (a++b)=encode a++encode b := by
  simp [encode]

theorem length_encode {text : String} (ascii : ∀c∈text.toList,c.utf8Size=1) :
    (encode text).length=text.toList.length := by
  unfold encode
  generalize text.toList=chars at ascii
  induction chars with
  | nil => rfl
  | cons c chars ih =>
    have here := ascii c List.mem_cons_self
    have later := ih fun c mem => ascii c (List.mem_cons_of_mem _ mem)
    rw [List.flatMap_cons,List.length_append,String.length_utf8EncodeChar,here,later,
      List.length_cons]
    omega

theorem encode_toByteArray (text : String) : ⟨(encode text).toArray⟩=text.toByteArray := by
  have same : (encode text).toByteArray=text.toByteArray := String.utf8Encode_toList
  rw [← same,← List.data_toByteArray]

/-- Decoding gives back the text that was encoded. -/
@[simp] theorem decode_encode (text : String) : decode (encode text)=some text := by
  unfold decode String.fromUTF8?
  rw [encode_toByteArray,dif_pos text.isValidUTF8]
  rfl

/-- A byte below 128 is in the encoding of its own character only. -/
theorem ascii_of_mem (c : Char) (b : UInt8) (ascii : b.toNat < 128)
    (mem : b∈String.utf8EncodeChar c) : c.toNat=b.toNat := by
  have bound : c.val.toNat < 1114112 := by
    have valid := c.valid
    rcases valid with low|high
    · exact Nat.lt_trans low (by decide)
    · exact high.2
  unfold String.utf8EncodeChar at mem
  simp only at mem
  split_ifs at mem
  all_goals simp only [List.mem_cons,List.not_mem_nil,or_false] at mem
  · subst mem
    rw [UInt8.toNat_ofNat']
    show c.val.toNat=c.val.toNat%256
    omega
  · rcases mem with rfl|rfl <;> rw [UInt8.toNat_ofNat'] at ascii <;> omega
  · rcases mem with rfl|rfl|rfl <;> rw [UInt8.toNat_ofNat'] at ascii <;> omega
  · rcases mem with rfl|rfl|rfl|rfl <;> rw [UInt8.toNat_ofNat'] at ascii <;> omega

/-- The characters of ASCII bytes. -/
def asciiChars (bytes : List UInt8) : List Char := bytes.map fun b => Char.ofNat b.toNat

theorem utf8EncodeChar_ascii :
    ∀b : Fin 128,String.utf8EncodeChar (Char.ofNat b)=[UInt8.ofNat b] := by
  decide

theorem decode_ascii {bytes : List UInt8} (ascii : ∀b∈bytes,b.toNat < 128) :
    decode bytes=some (String.ofList (asciiChars bytes)) := by
  have encoded : encode (String.ofList (asciiChars bytes))=bytes := by
    unfold encode asciiChars
    rw [String.toList_ofList,List.flatMap_map]
    induction bytes with
    | nil => rfl
    | cons b bytes ih =>
      have first : String.utf8EncodeChar (Char.ofNat b.toNat)=[b] := by
        simpa using utf8EncodeChar_ascii ⟨b.toNat,ascii b List.mem_cons_self⟩
      have rest := ih fun c mem => ascii c (List.mem_cons_of_mem b mem)
      rw [List.flatMap_cons,rest,first]
      rfl
  rw [← encoded,decode_encode,encoded]

theorem encode_of_decode {bytes : List UInt8} {text : String} (decoded : decode bytes=some text) :
    encode text=bytes := by
  unfold decode String.fromUTF8? at decoded
  split_ifs at decoded with valid
  cases decoded
  have same := encode_toByteArray (String.fromUTF8 ⟨bytes.toArray⟩ valid)
  exact congrArg Array.toList (congrArg ByteArray.data same)

/-- A text whose bytes begin with ASCII begins with the characters of these. -/
theorem decode_ascii_append {front rest : List UInt8} {text : String}
    (ascii : ∀b∈front,b.toNat < 128) (decoded : decode (front++rest)=some text) :
    ∃behind,text.toList=asciiChars front++behind := by
  have encoded : text.toList.flatMap String.utf8EncodeChar=front++rest := encode_of_decode decoded
  clear decoded
  generalize text.toList=chars at encoded
  induction front generalizing chars with
  | nil => exact ⟨chars,rfl⟩
  | cons b front ih =>
    have small := ascii b List.mem_cons_self
    cases chars with
    | nil => simp at encoded
    | cons c chars =>
      obtain ⟨first,units,eq⟩ := List.exists_cons_of_ne_nil (String.utf8EncodeChar_ne_nil (c := c))
      have same : first=b := by
        rw [List.flatMap_cons,eq] at encoded
        exact (List.cons.inj encoded).1
      have char : c=Char.ofNat b.toNat := by
        have code := ascii_of_mem c b small (by rw [eq,same]; exact List.mem_cons_self)
        rw [← code,Char.ofNat_toNat]
      have single : String.utf8EncodeChar c=[b] := by
        rw [char]
        simpa using utf8EncodeChar_ascii ⟨b.toNat,small⟩
      rw [List.flatMap_cons,single] at encoded
      obtain ⟨behind,later⟩ := ih (fun other mem => ascii other (List.mem_cons_of_mem b mem)) chars
        (List.cons.inj encoded).2
      exact ⟨behind,by rw [later,char]; rfl⟩

/-- The character of a sequence of two to four bytes, from the bits that they carry. -/
def multiByte (lead : Nat) (rest : List UInt8) : Char :=
  Char.ofNat (rest.foldl (fun bits b => bits*64+b.toNat%64) lead)

def isContinuation (b : UInt8) : Bool := 0x80≤b && b≤0xBF

/-- The bytes that may follow the first byte of a sequence of three or four bytes. -/
def isSecond (first second : UInt8) : Bool :=
  if first=0xE0 then 0xA0 ≤ second && second≤0xBF
  else if first=0xED then 0x80 ≤ second && second≤0x9F
  else if first=0xF0 then 0x90 ≤ second && second≤0xBF
  else if first=0xF4 then 0x80 ≤ second && second≤0x8F
  else isContinuation second

/-- The characters that the bytes encode; every longest start of a sequence that cannot go on, and
every other byte that fits nowhere, is one replacement character. -/
def lossyChars : List UInt8 → List Char
  | [] => []
  | a::rest =>
    if a<0x80 then Char.ofNat a.toNat::lossyChars rest
    else if 0xC2≤a ∧ a≤0xDF then
      match rest with
      | b::more =>
        if isContinuation b then multiByte (a.toNat%32) [b]::lossyChars more
        else '\uFFFD' ::lossyChars (b::more)
      | [] => ['\uFFFD']
    else if 0xE0≤a ∧ a≤0xEF then
      match rest with
      | b::c::more =>
        if isSecond a b then
          if isContinuation c then multiByte (a.toNat%16) [b,c]::lossyChars more
          else '\uFFFD' ::lossyChars (c::more)
        else '\uFFFD' ::lossyChars (b::c::more)
      | [b] => if isSecond a b then ['\uFFFD'] else '\uFFFD' ::lossyChars [b]
      | [] => ['\uFFFD']
    else if 0xF0≤a ∧ a≤0xF4 then
      match rest with
      | b::c::d::more =>
        if isSecond a b then
          if isContinuation c then
            if isContinuation d then multiByte (a.toNat%8) [b,c,d]::lossyChars more
            else '\uFFFD' ::lossyChars (d::more)
          else '\uFFFD' ::lossyChars (c::d::more)
        else '\uFFFD' ::lossyChars (b::c::d::more)
      | [b,c] =>
        if isSecond a b then if isContinuation c then ['\uFFFD'] else '\uFFFD' ::lossyChars [c]
        else '\uFFFD' ::lossyChars [b,c]
      | [b] => if isSecond a b then ['\uFFFD'] else '\uFFFD' ::lossyChars [b]
      | [] => ['\uFFFD']
    else '\uFFFD' ::lossyChars rest

/-- The text that the bytes encode, with a replacement character where they encode none. -/
def decodeLossy (bytes : List UInt8) : String := String.ofList (lossyChars bytes)

def newline : UInt8 := 10

def carriageReturn : UInt8 := 13

theorem newline_not_mem (text : String) (single : '\n'∉text.toList) : newline∉encode text := by
  intro mem
  obtain ⟨c,here,inside⟩ := List.mem_flatMap.mp mem
  have same := ascii_of_mem c newline (by decide) inside
  have newlineChar : c = '\n' := by
    apply Char.ext
    apply UInt32.toNat_inj.mp
    exact same
  exact single (newlineChar ▸ here)

@[simp] theorem encode_newline : encode "\n"=[newline] := by decide

theorem encode_ne_nil (text : String) (some : text.toList≠[]) : encode text≠[] := by
  intro empty
  obtain ⟨c,here⟩ := List.exists_mem_of_ne_nil _ some
  exact String.utf8EncodeChar_ne_nil (List.flatMap_eq_nil_iff.mp empty c here)

/-- A line that was ended by a newline loses one carriage return in front of it. -/
def dropReturn (line : List UInt8) : List UInt8 :=
  if line.getLast?=some carriageReturn then line.dropLast else line

/-- The lines of the bytes, after `current`, which is the start of the first of them. -/
def linesFrom (current : List UInt8) : List UInt8 → List (List UInt8)
  | [] => if current=[] then [] else [current]
  | b::bytes =>
    if b=newline then dropReturn current::linesFrom [] bytes
    else linesFrom (current++[b]) bytes

/-- The lines of the bytes. What follows the last newline is a line too, unless it is empty. -/
def lines (bytes : List UInt8) : List (List UInt8) := linesFrom [] bytes

/-- Nothing follows the last newline. -/
def Ended (bytes : List UInt8) : Prop := bytes=[] ∨ bytes.getLast?=some newline

instance (bytes : List UInt8) : Decidable (Ended bytes) := inferInstanceAs (Decidable (_ ∨ _))

theorem linesFrom_cut (current before after : List UInt8) :
    linesFrom current (before++newline::after)=
      linesFrom current (before++[newline])++linesFrom [] after := by
  induction before generalizing current with
  | nil => simp [linesFrom]
  | cons b before ih =>
    rw [List.cons_append,List.cons_append,linesFrom,linesFrom]
    split_ifs
    · rw [ih,List.cons_append]
    · exact ih _

theorem linesFrom_open (current line : List UInt8) (single : newline∉line) :
    linesFrom current line=if current++line=[] then [] else [current++line] := by
  induction line generalizing current with
  | nil => simp [linesFrom]
  | cons b line ih =>
    have other : b≠newline := fun same => single (same ▸ List.mem_cons_self)
    have rest : newline∉line := fun mem => single (List.mem_cons_of_mem b mem)
    rw [linesFrom,if_neg other,ih _ rest,List.append_assoc]
    rfl

theorem linesFrom_closed (current line : List UInt8) (single : newline∉line) :
    linesFrom current (line++[newline])=[dropReturn (current++line)] := by
  induction line generalizing current with
  | nil => simp [linesFrom]
  | cons b line ih =>
    have other : b≠newline := fun same => single (same ▸ List.mem_cons_self)
    have rest : newline∉line := fun mem => single (List.mem_cons_of_mem b mem)
    rw [List.cons_append,linesFrom,if_neg other,ih _ rest,List.append_assoc]
    rfl

/-- What is appended after the last newline adds its own lines and changes no other. -/
theorem lines_append (bytes more : List UInt8) (ended : Ended bytes) :
    lines (bytes++more)=lines bytes++lines more := by
  rcases ended with rfl|last
  · rfl
  · obtain ⟨before,rfl⟩ := List.getLast?_eq_some_iff.mp last
    rw [List.append_assoc]
    exact linesFrom_cut [] before more

theorem lines_open (line : List UInt8) (single : newline∉line) (some : line≠[]) :
    lines line=[line] := by
  rw [lines,linesFrom_open [] line single,List.nil_append,if_neg some]

theorem lines_closed (line : List UInt8) (single : newline∉line)
    (plain : line.getLast?≠some carriageReturn) : lines (line++[newline])=[line] := by
  rw [lines,linesFrom_closed [] line single,List.nil_append,dropReturn,if_neg plain]

theorem Ended.both {a b : List UInt8} (first : Ended a) (second : Ended b) : Ended (a++b) := by
  rcases second with rfl|last
  · rw [List.append_nil]
    exact first
  · exact .inr (by rw [List.getLast?_append,last]; rfl)

theorem ended_append (bytes line : List UInt8) : Ended (bytes++(line++[newline])) := by
  refine .inr ?_
  rw [← List.append_assoc]
  simp

/-- The lines that a newline ends, without it, when the first of them begins with `current`. -/
def rawLines (current : List UInt8) : List UInt8 → List (List UInt8)
  | [] => []
  | b::bytes => if b=newline then current::rawLines [] bytes else rawLines (current++[b]) bytes

/-- What follows the last newline. -/
def unfinished (current : List UInt8) : List UInt8 → List UInt8
  | [] => current
  | b::bytes => if b=newline then unfinished [] bytes else unfinished (current++[b]) bytes

theorem rawLines_append (current a b : List UInt8) :
    rawLines current (a++b)=rawLines current a++rawLines (unfinished current a) b := by
  induction a generalizing current with
  | nil => rfl
  | cons c a ih =>
    rw [List.cons_append,rawLines,rawLines,unfinished]
    by_cases ends : c=newline
    · simp only [if_pos ends,ih,List.cons_append]
    · simp only [if_neg ends,ih]

theorem unfinished_append (current a b : List UInt8) :
    unfinished current (a++b)=unfinished (unfinished current a) b := by
  induction a generalizing current with
  | nil => rfl
  | cons c a ih =>
    rw [List.cons_append,unfinished,unfinished]
    split_ifs <;> exact ih _

theorem newline_not_mem_unfinished (current bytes : List UInt8) (single : newline∉current) :
    newline∉unfinished current bytes := by
  induction bytes generalizing current with
  | nil => exact single
  | cons b bytes ih =>
    rw [unfinished]
    split_ifs with ends
    · exact ih [] (by simp)
    · exact ih _ (by simp [single,Ne.symm ends])

/-- Without a newline no line ends. -/
theorem rawLines_open (current line : List UInt8) (single : newline∉line) :
    rawLines current line=[] ∧ unfinished current line=current++line := by
  induction line generalizing current with
  | nil => simp [rawLines,unfinished]
  | cons b line ih =>
    obtain ⟨other,later⟩ := not_or.mp fun mem => single (List.mem_cons.mpr mem)
    rw [rawLines,unfinished,if_neg (Ne.symm other),if_neg (Ne.symm other)]
    simpa using ih (current++[b]) later

theorem unfinished_ended {bytes : List UInt8} (ended : Ended bytes) : unfinished [] bytes=[] := by
  rcases ended with rfl|last
  · rfl
  · obtain ⟨front,rfl⟩ := List.getLast?_eq_some_iff.mp last
    rw [unfinished_append]
    simp [unfinished]

/-- The lines of a text, after `current`, which is the start of the first of them. -/
def textLinesFrom (current : List Char) : List Char → List (List Char)
  | [] => if current=[] then [] else [current]
  | c::chars =>
    if c= '\n' then
      (if current.getLast?=some '\r' then current.dropLast else current)::textLinesFrom [] chars
    else textLinesFrom (current++[c]) chars

/-- The lines of a text: `str::lines`. -/
def textLines (text : String) : List String := (textLinesFrom [] text.toList).map String.ofList

theorem linesFrom_append (current line rest : List UInt8) (single : newline∉line) :
    linesFrom current (line++rest)=linesFrom (current++line) rest := by
  induction line generalizing current with
  | nil => rw [List.nil_append,List.append_nil]
  | cons b line ih =>
    obtain ⟨other,later⟩ := not_or.mp fun mem => single (List.mem_cons.mpr mem)
    rw [List.cons_append,linesFrom,if_neg (Ne.symm other),ih _ later,List.append_assoc]
    rfl

theorem newline_not_mem_char (c : Char) (other : c≠ '\n') : newline∉String.utf8EncodeChar c := by
  intro mem
  apply other
  apply Char.ext
  apply UInt32.toNat_inj.mp
  exact ascii_of_mem c newline (by decide) mem

theorem dropReturn_chars (chars : List Char) :
    dropReturn (chars.flatMap String.utf8EncodeChar)=
      (if chars.getLast?=some '\r' then chars.dropLast else chars).flatMap
        String.utf8EncodeChar := by
  rcases List.eq_nil_or_concat chars with rfl|⟨front,c,rfl⟩
  · rfl
  · rw [List.concat_eq_append,List.flatMap_append,List.getLast?_concat,List.dropLast_concat]
    by_cases same : c= '\r'
    · subst same
      have encoded : ['\r'].flatMap String.utf8EncodeChar=[carriageReturn] := by decide
      rw [encoded,dropReturn,List.getLast?_concat,List.dropLast_concat,if_pos rfl,if_pos rfl]
    · rw [if_neg (by simpa using same),dropReturn,if_neg,List.flatMap_append]
      rw [List.flatMap_singleton,List.getLast?_append_of_ne_nil _ String.utf8EncodeChar_ne_nil]
      intro last
      apply same
      apply Char.ext
      apply UInt32.toNat_inj.mp
      exact ascii_of_mem c carriageReturn (by decide) (List.mem_of_getLast? last)

theorem linesFrom_chars (current chars : List Char) :
    (textLinesFrom current chars).map (·.flatMap String.utf8EncodeChar)=
      linesFrom (current.flatMap String.utf8EncodeChar) (chars.flatMap String.utf8EncodeChar) := by
  induction chars generalizing current with
  | nil =>
    rw [textLinesFrom,List.flatMap_nil,linesFrom]
    by_cases empty : current=[]
    · rw [if_pos empty,if_pos (by rw [empty]; rfl)]
      rfl
    · rw [if_neg empty,if_neg]
      · rfl
      · intro encoded
        obtain ⟨c,here⟩ := List.exists_mem_of_ne_nil _ empty
        exact String.utf8EncodeChar_ne_nil (List.flatMap_eq_nil_iff.mp encoded c here)
  | cons c chars ih =>
    rw [textLinesFrom,List.flatMap_cons]
    by_cases ends : c= '\n'
    · have encoded : String.utf8EncodeChar '\n' =[newline] := by decide
      have later := ih []
      rw [List.flatMap_nil] at later
      rw [if_pos ends,ends,encoded,List.singleton_append,linesFrom,if_pos rfl,List.map_cons,later,
        dropReturn_chars]
    · have later := ih (current++[c])
      rw [List.flatMap_append,List.flatMap_singleton] at later
      rw [if_neg ends,linesFrom_append _ _ _ (newline_not_mem_char c ends),later]

/-- The lines of a text are those of its bytes. -/
theorem encode_textLines (text : String) : (textLines text).map encode=lines (encode text) := by
  have chars := linesFrom_chars [] text.toList
  rw [textLines,List.map_map]
  refine Eq.trans (List.map_congr_left fun line _ => ?_) chars
  simp [encode]

end TextLines
