import AkuSupervisor.Lib.Cut
import AkuSupervisor.Lib.HttpGrammar
import AkuSupervisor.Lib.TextLines

/-! Heads of HTTP/1.1 messages, by bytes: a line, fields, and an empty line. A message has one reading
as a head at most, and its first empty line is the one that ends the head. -/

namespace HttpMessage

open HttpGrammar TextLines

/-- A field with all that stands behind its colon. -/
structure Field where
  name : List UInt8
  value : List UInt8
  deriving DecidableEq

def Field.line (field : Field) : List UInt8 := field.name++58::field.value

def Field.Proper (field : Field) : Prop := IsToken field.name ∧ ∀b∈field.value,isFieldByte b=true

/-- The first line and the fields, each behind a line break. -/
def headLines (start : List UInt8) (fields : List Field) : List UInt8 :=
  start++fields.flatMap fun field => 13::10::field.line

def emptyLine : List UInt8 := [13,10,13,10]

/-- A byte of a request target: neither a space nor a control character. -/
def isTargetByte (b : UInt8) : Bool := 32 < b && b≠127

/-- The bytes are a request without a body, of this method and target and with these fields. -/
structure IsRequest (bytes method target : List UInt8) (fields : List Field) : Prop where
  token : IsToken method
  clean : target≠[] ∧ ∀b∈target,isTargetByte b=true
  proper : ∀field∈fields,field.Proper
  whole : bytes=headLines (method++32::(target++32::[72,84,84,80,47,49,46,49])) fields++emptyLine

def isDigitByte (b : UInt8) : Bool := 48≤b && b≤57

/-- The number that decimal digits stand for. -/
def decimal (digits : List UInt8) : Nat := digits.foldl (fun n b => 10*n+(b.toNat-48)) 0

def lowerByte (b : UInt8) : UInt8 := if 65≤b ∧ b≤90 then b+32 else b

/-- The name of a field, whose letters may be of either case. -/
def Field.Named (field : Field) (name : String) : Prop := field.name.map lowerByte=encode name

def statusLine (digits reason : List UInt8) : List UInt8 := encode "HTTP/1.1 "++digits++32::reason

/-- The bytes are a response with this status code, reason, fields and all that follows them. -/
structure IsResponse (bytes digits reason : List UInt8) (fields : List Field)
    (body : List UInt8) : Prop where
  code : digits.length=3 ∧ ∀b∈digits,isDigitByte b=true
  phrase : ∀b∈reason,isFieldByte b=true
  proper : ∀field∈fields,field.Proper
  whole : bytes=headLines (statusLine digits reason) fields++(emptyLine++body)

/-- The fields say that the body stands as it is, and how long it is. -/
structure FramedByLength (fields : List Field) (body : List UInt8) : Prop where
  direct : ∀field∈fields,¬field.Named "transfer-encoding"
  announced : ∃field∈fields,field.Named "content-length"
  exact : ∀field∈fields,field.Named "content-length" → ∃before digits behind,
    IsBlanks before ∧ digits≠[] ∧ (∀b∈digits,isDigitByte b=true) ∧ IsBlanks behind ∧
      field.value=before++digits++behind ∧ decimal digits=body.length

theorem Field.Proper.single {field : Field} (proper : field.Proper) : 13∉field.line := by
  obtain ⟨token,value⟩ := proper
  simp only [line,List.mem_append,List.mem_cons,not_or]
  refine ⟨token.single,by decide,fun mem => ?_⟩
  exact absurd (value 13 mem) (by decide)

/-- A field line starts with a byte of its name. -/
theorem Field.Proper.start {field : Field} (proper : field.Proper) :
    ∃b rest,field.line=b::rest ∧ b≠13 := by
  obtain ⟨some,token⟩ := proper.1
  cases named : field.name with
  | nil => exact absurd named some
  | cons b name =>
    refine ⟨b,name++58::field.value,by rw [line,named]; rfl,?_⟩
    intro same
    exact absurd (token b (by rw [named]; exact List.mem_cons_self)) (by rw [same]; decide)

/-- What stands before the first element of its kind is told by the list. -/
theorem append_inj_of_not_mem {α : Type} {a : α} {front front' rest rest' : List α}
    (fresh : a∉front) (fresh' : a∉front') (same : front++a::rest=front'++a::rest') :
    front=front' ∧ rest=rest' := by
  induction front generalizing front' with
  | nil =>
    cases front' with
    | nil => exact ⟨rfl,(List.cons.inj same).2⟩
    | cons b front' => exact absurd ((List.cons.inj same).1 ▸ List.mem_cons_self) fresh'
  | cons b front ih =>
    cases front' with
    | nil => exact absurd ((List.cons.inj same).1 ▸ List.mem_cons_self) fresh
    | cons c front' =>
      obtain ⟨rfl,later⟩ := List.cons.inj same
      obtain ⟨rfl,rests⟩ := ih (fun mem => fresh (List.mem_cons_of_mem b mem))
        (fun mem => fresh' (List.mem_cons_of_mem b mem)) later
      exact ⟨rfl,rests⟩

theorem Field.ext_line {field field' : Field} (proper : field.Proper) (proper' : field'.Proper)
    (same : field.line=field'.line) : field=field' := by
  have fresh {field : Field} (proper : field.Proper) : 58∉field.name := by
    intro mem
    exact absurd (proper.1.2 58 mem) (by decide)
  obtain ⟨name,value⟩ := append_inj_of_not_mem (fresh proper) (fresh proper') same
  cases field
  cases field'
  cases name
  cases value
  rfl

theorem fields_start (fields : List Field) (body : List UInt8) :
    ∃rest,(fields.flatMap fun field => 13::10::field.line)++(emptyLine++body)=13::rest := by
  cases fields with
  | nil => exact ⟨10::13::10::body,rfl⟩
  | cons field fields => exact ⟨_,rfl⟩

/-- Fields that an empty line ends, with what stands behind it, are told by the bytes. -/
theorem fields_inj {fields fields' : List Field} {body body' : List UInt8}
    (proper : ∀field∈fields,field.Proper) (proper' : ∀field∈fields',field.Proper)
    (same : (fields.flatMap fun field => 13::10::field.line)++(emptyLine++body)=
      (fields'.flatMap fun field => 13::10::field.line)++(emptyLine++body')) :
    fields=fields' ∧ body=body' := by
  induction fields generalizing fields' with
  | nil =>
    cases fields' with
    | nil => exact ⟨rfl,List.append_cancel_left same⟩
    | cons field fields' =>
      obtain ⟨b,rest,line,other⟩ := (proper' field List.mem_cons_self).start
      rw [List.flatMap_cons,line] at same
      exact absurd (List.cons.inj (List.cons.inj (List.cons.inj same).2).2).1.symm other
  | cons field fields ih =>
    cases fields' with
    | nil =>
      obtain ⟨b,rest,line,other⟩ := (proper field List.mem_cons_self).start
      rw [List.flatMap_cons,line] at same
      exact absurd (List.cons.inj (List.cons.inj (List.cons.inj same).2).2).1 other
    | cons field' fields' =>
      have here := proper field List.mem_cons_self
      have here' := proper' field' List.mem_cons_self
      obtain ⟨rest,starts⟩ := fields_start fields body
      obtain ⟨rest',starts'⟩ := fields_start fields' body'
      rw [List.flatMap_cons,List.flatMap_cons,List.append_assoc,List.append_assoc,starts,
        starts'] at same
      obtain ⟨line,later⟩ := append_inj_of_not_mem here.single here'.single
        (List.cons.inj (List.cons.inj same).2).2
      obtain ⟨rfl,bodies⟩ := ih (fun field mem => proper field (List.mem_cons_of_mem _ mem))
        (fun field mem => proper' field (List.mem_cons_of_mem _ mem))
        (by rw [starts,starts',later])
      exact ⟨by rw [Field.ext_line here here' line],bodies⟩

/-- A head and what stands behind it are told by the bytes. -/
theorem head_inj {start start' : List UInt8} {fields fields' : List Field} {body body' : List UInt8}
    (single : 13∉start) (single' : 13∉start') (proper : ∀field∈fields,field.Proper)
    (proper' : ∀field∈fields',field.Proper)
    (same : headLines start fields++(emptyLine++body)=
      headLines start' fields'++(emptyLine++body')) :
    start=start' ∧ fields=fields' ∧ body=body' := by
  obtain ⟨rest,starts⟩ := fields_start fields body
  obtain ⟨rest',starts'⟩ := fields_start fields' body'
  rw [headLines,headLines,List.append_assoc,List.append_assoc,starts,starts'] at same
  obtain ⟨first,later⟩ := append_inj_of_not_mem single single' same
  exact ⟨first,fields_inj proper proper' (by rw [starts,starts',later])⟩

theorem IsRequest.single {bytes method target : List UInt8} {fields : List Field}
    (request : IsRequest bytes method target fields) :
    13∉method++32::(target++32::[72,84,84,80,47,49,46,49]) := by
  have clean : 13∉target := fun mem => absurd (request.clean.2 13 mem) (by decide)
  simp [request.token.single,clean]

/-- Bytes are one request at most. -/
theorem IsRequest.unique {bytes method target method' target' : List UInt8}
    {fields fields' : List Field} (request : IsRequest bytes method target fields)
    (request' : IsRequest bytes method' target' fields') :
    method=method' ∧ target=target' ∧ fields=fields' := by
  have whole := request.whole.symm.trans request'.whole
  rw [← List.append_nil emptyLine] at whole
  obtain ⟨start,same,-⟩ := head_inj request.single request'.single request.proper request'.proper
    whole
  have spaceless {token : List UInt8} (token' : IsToken token) : 32∉token :=
    fun mem => absurd (token'.2 32 mem) (by decide)
  obtain ⟨methods,rest⟩ := append_inj_of_not_mem (spaceless request.token)
    (spaceless request'.token) start
  have clean {target : List UInt8} (clean : ∀b∈target,isTargetByte b=true) : 32∉target :=
    fun mem => absurd (clean 32 mem) (by decide)
  obtain ⟨targets,-⟩ := append_inj_of_not_mem (clean request.clean.2) (clean request'.clean.2) rest
  exact ⟨methods,targets,same⟩

section Ends

/-- The first empty line is the one that ends the fields. -/
theorem once_fields {fields : List Field} (proper : ∀field∈fields,field.Proper)
    (body : List UInt8) :
    Cut.once emptyLine ((fields.flatMap fun field => 13::10::field.line)++(emptyLine++body))=
      some (fields.flatMap fun field => 13::10::field.line,body) := by
  induction fields with
  | nil => exact Cut.once_of_not_mem [10,13,10] body List.not_mem_nil
  | cons field fields ih =>
    have here := proper field List.mem_cons_self
    obtain ⟨b,rest,line,other⟩ := here.start
    have later := ih fun field mem => proper field (List.mem_cons_of_mem _ mem)
    generalize behind : (fields.flatMap fun field => 13::10::field.line)++(emptyLine++body)=tail
      at later
    have whole : ((field::fields).flatMap fun field => 13::10::field.line)++(emptyLine++body)=
        13::((10::field.line)++tail) := by
      rw [List.flatMap_cons,List.append_assoc,behind]
      rfl
    have apart : (13::((10::field.line)++tail)).dropPrefix? emptyLine=none := by
      cases dropped : (13::((10::field.line)++tail)).dropPrefix? emptyLine with
      | none => rfl
      | some after =>
        obtain ⟨start,split,same⟩ := List.dropPrefix?_eq_some_iff.mp dropped
        rw [beq_iff_eq.mp same,line] at split
        exact absurd (List.cons.inj (List.cons.inj (List.cons.inj split).2).2).1 other
    have fresh : 13∉10::field.line := by simp [here.single]
    have skipped := @Cut.once_skip _ _ _ [10,13,10] _ fresh tail
    rw [show 13::[10,13,10]=emptyLine from rfl,later] at skipped
    rw [whole,Cut.once,apart,skipped]
    rfl

theorem once_head {start : List UInt8} {fields : List Field} (single : 13∉start)
    (proper : ∀field∈fields,field.Proper) (body : List UInt8) :
    Cut.once emptyLine (headLines start fields++(emptyLine++body))=
      some (headLines start fields,body) := by
  rw [headLines,List.append_assoc]
  have skipped := @Cut.once_skip _ _ _ [10,13,10] _ single
    ((fields.flatMap fun field => 13::10::field.line)++(emptyLine++body))
  rw [show 13::[10,13,10]=emptyLine from rfl,once_fields proper body] at skipped
  exact skipped

/-- No empty line stands in the bytes before the head has ended. -/
theorem once_head_cut {start : List UInt8} {fields : List Field} (single : 13∉start)
    (proper : ∀field∈fields,field.Proper) {body part : List UInt8}
    (cut : part <+: headLines start fields++(emptyLine++body))
    (short : part.length < (headLines start fields).length+4) : Cut.once emptyLine part=none := by
  rw [Cut.once_eq_none (by decide)]
  intro inside
  obtain ⟨before,after,rfl⟩ := inside
  obtain ⟨rest,split⟩ := cut
  have least := Cut.once_least (once_head single proper body)
    (show _=before++emptyLine++(after++rest) by rw [← split]; simp)
  have size : emptyLine.length=4 := rfl
  simp only [List.length_append] at short
  omega

end Ends

section Lines

theorem Field.Proper.unbroken {field : Field} (proper : field.Proper) : newline∉field.line := by
  obtain ⟨token,value⟩ := proper
  simp only [line,List.mem_append,List.mem_cons,not_or]
  refine ⟨fun mem => ?_,by decide,fun mem => ?_⟩
  · exact absurd (token.2 newline mem) (by decide)
  · exact absurd (value newline mem) (by decide)

theorem lines_break {line : List UInt8} (rest : List UInt8) (single : newline∉line) :
    lines (line++13::10::rest)=line::lines rest := by
  have single' : newline∉line++[13] := by
    intro mem
    rcases List.mem_append.mp mem with inside|last
    · exact single inside
    · exact absurd (List.mem_singleton.mp last) (by decide)
  have closed := linesFrom_closed [] (line++[13]) single'
  have cut := linesFrom_cut [] (line++[13]) rest
  rw [closed,List.nil_append,dropReturn,if_pos (by simp [carriageReturn]),
    List.dropLast_concat] at cut
  rw [List.append_assoc] at cut
  exact cut

/-- The lines of a head are its first line and its fields. -/
theorem lines_head {start : List UInt8} {fields : List Field} (single : newline∉start)
    (some : start≠[]) (proper : ∀field∈fields,field.Proper) :
    lines (headLines start fields)=start::fields.map Field.line := by
  induction fields generalizing start with
  | nil =>
    rw [headLines,List.flatMap_nil,List.append_nil]
    exact lines_open start single some
  | cons field fields ih =>
    have here := proper field List.mem_cons_self
    obtain ⟨b,rest,line,-⟩ := here.start
    have later := ih here.unbroken (by rw [line]; simp)
      fun field mem => proper field (List.mem_cons_of_mem _ mem)
    rw [headLines,List.flatMap_cons,List.cons_append,List.cons_append,lines_break _ single]
    exact congrArg (start::·) later

theorem isFieldByte_digit {b : UInt8} (digit : isDigitByte b=true) : isFieldByte b=true := by
  simp only [isDigitByte,isFieldByte,Bool.and_eq_true,Bool.or_eq_true,decide_eq_true_eq,
    UInt8.le_iff_toNat_le] at digit ⊢
  obtain ⟨low,high⟩ := digit
  have least : (48 : UInt8).toNat=48 := rfl
  have most : (57 : UInt8).toNat=57 := rfl
  have space : (32 : UInt8).toNat=32 := rfl
  refine .inr ⟨by omega,fun same => ?_⟩
  have wide : (127 : UInt8).toNat=127 := rfl
  rw [same] at high
  omega

theorem IsResponse.single {bytes digits reason body : List UInt8} {fields : List Field}
    (response : IsResponse bytes digits reason fields body) {b : UInt8} (wrong : isFieldByte b=false)
    (apart : b∉encode "HTTP/1.1 ") : b∉statusLine digits reason := by
  have digit : b∉digits := by
    intro mem
    rw [isFieldByte_digit (response.code.2 b mem)] at wrong
    cases wrong
  have phrase : b∉reason := by
    intro mem
    rw [response.phrase b mem] at wrong
    cases wrong
  have space : b≠32 := by
    intro same
    rw [same] at wrong
    exact absurd wrong (by decide)
  simp [statusLine,digit,phrase,space,apart]

end Lines

end HttpMessage
