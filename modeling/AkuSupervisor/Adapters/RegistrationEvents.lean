import AkuSupervisor.Lib.Run
import AkuSupervisor.Lib.TextLines

namespace AkuSupervisor

open TextLines

/-- A registration event as it is read back from the audit. -/
structure RegistrationAuditEvent where
  schemaVersion : Nat
  timestampUnixMs : Nat
  event : String
  actor : Option String
  draftId : String
  requestId : String
  operation : String
  serviceId : String
  proposedRevision : String
  deriving DecidableEq

inductive RegistrationEventError where
  | readFailed (path source : String)
  | parse (error : String)
  | oversized
  | unsupportedSchema (version : Nat)
  deriving DecidableEq

def RegistrationEventError.display : RegistrationEventError → String
  | .readFailed path source => s!"failed to read {path}: {source}"
  | .parse error => s!"registration audit record is invalid: {error}"
  | .oversized => "registration audit record exceeds 16 KiB"
  | .unsupportedSchema version => s!"unsupported registration audit schema: {version}"

/-- What `fs::metadata` says of the length of a file. -/
inductive LengthAnswer where
  | length (bytes : Nat)
  | notFound
  | failed (source : String)

structure RegistrationAuditTail where
  path : String
  offset : Nat

namespace RegistrationAuditTail

def maxEventBytes : Nat := 16*1024

def maxPollBytes : Nat := 256*1024

def follow (path : String) (metadata : LengthAnswer) : RegistrationAuditTail where
  path
  offset := match metadata with
    | .length bytes => bytes
    | _ => 0

/-- The number of bytes up to the last newline. -/
def completeLength : List UInt8 → Option Nat
  | [] => none
  | b::bytes =>
    match completeLength bytes with
    | some complete => some (complete+1)
    | none => if b=newline then some 1 else none

/-- The parts between the newlines, when the first of them begins with `current`. -/
def splitNewlines (current : List UInt8) : List UInt8 → List (List UInt8)
  | [] => [current]
  | b::bytes =>
    if b=newline then current::splitNewlines [] bytes else splitNewlines (current++[b]) bytes

variable (parse : List UInt8 → Except String RegistrationAuditEvent)

def readEvents : List (List UInt8) → Except RegistrationEventError (List RegistrationAuditEvent)
  | [] => .ok []
  | line::lines =>
    if line=[] then readEvents lines
    else if maxEventBytes < line.length then .error .oversized
    else
      match parse line with
      | .error error => .error (.parse error)
      | .ok event =>
        if event.schemaVersion≠1 then .error (.unsupportedSchema event.schemaVersion)
        else (readEvents lines).map (event::·)

/-- What a poll makes of the bytes that it read. -/
def readWindow (tail : RegistrationAuditTail) (bytes : List UInt8) :
    Except RegistrationEventError (List RegistrationAuditEvent) × RegistrationAuditTail :=
  match completeLength bytes with
  | none => (if maxEventBytes < bytes.length then .error .oversized else .ok [],tail)
  | some complete =>
    match readEvents parse (splitNewlines [] (bytes.take complete)) with
    | .error error => (.error error,tail)
    | .ok events => (.ok events,{ tail with offset := tail.offset+complete })

/-- `contents` is what the file holds when it is read, or why it cannot be. -/
def poll (tail : RegistrationAuditTail) (metadata : LengthAnswer)
    (contents : Except String (List UInt8)) :
    Except RegistrationEventError (List RegistrationAuditEvent) × RegistrationAuditTail :=
  match metadata with
  | .notFound => (.ok [],tail)
  | .failed source => (.error (.readFailed tail.path source),tail)
  | .length length =>
    let tail := if length < tail.offset then { tail with offset := 0 } else tail
    if length=tail.offset then (.ok [],tail)
    else
      match contents with
      | .error source => (.error (.readFailed tail.path source),tail)
      | .ok file =>
        tail.readWindow parse
          ((file.drop tail.offset).take (min (length-tail.offset) maxPollBytes))

variable {parse}

/-- An empty line, or a record of the bounded size that is read back. -/
def IsRecordLine (parse : List UInt8 → Except String RegistrationAuditEvent)
    (line : List UInt8) : Prop :=
  line=[] ∨ line.length ≤ maxEventBytes ∧ ∃event,parse line=.ok event ∧ event.schemaVersion=1

def recordOf (parse : List UInt8 → Except String RegistrationAuditEvent) (line : List UInt8) :
    Option RegistrationAuditEvent :=
  if line=[] then none else (parse line).toOption

/-- The records that are complete. -/
def records (parse : List UInt8 → Except String RegistrationAuditEvent) (bytes : List UInt8) :
    List RegistrationAuditEvent :=
  (rawLines [] bytes).filterMap (recordOf parse)

/-- The bytes are lines with records, and the start of a line that is not longer than one. -/
structure HoldsRecords (parse : List UInt8 → Except String RegistrationAuditEvent)
    (bytes : List UInt8) : Prop where
  lines : ∀line∈rawLines [] bytes,IsRecordLine parse line
  begun : (unfinished [] bytes).length ≤ maxEventBytes

theorem completeLength_eq_none {bytes : List UInt8} (none : completeLength bytes=none) :
    newline∉bytes := by
  induction bytes with
  | nil => simp
  | cons b bytes ih =>
    rw [completeLength] at none
    cases later : completeLength bytes with
    | some complete => simp [later] at none
    | none =>
      simp only [later] at none
      split_ifs at none with ends
      exact not_or.mpr ⟨Ne.symm ends,ih later⟩ ∘ List.mem_cons.mp

theorem completeLength_eq_some {bytes : List UInt8} {complete : Nat}
    (found : completeLength bytes=some complete) :
    ∃front rest,bytes=front++newline::rest ∧ newline∉rest ∧ complete=front.length+1 := by
  induction bytes generalizing complete with
  | nil => simp [completeLength] at found
  | cons b bytes ih =>
    rw [completeLength] at found
    cases later : completeLength bytes with
    | some n =>
      simp only [later,Option.some.injEq] at found
      obtain ⟨front,rest,rfl,single,rfl⟩ := ih later
      exact ⟨b::front,rest,rfl,single,found.symm⟩
    | none =>
      simp only [later] at found
      split_ifs at found with ends
      cases found
      exact ⟨[],bytes,by rw [ends]; rfl,completeLength_eq_none later,rfl⟩

theorem splitNewlines_eq (current bytes : List UInt8) :
    splitNewlines current bytes=rawLines current bytes++[unfinished current bytes] := by
  induction bytes generalizing current with
  | nil => rfl
  | cons b bytes ih =>
    rw [splitNewlines,rawLines,unfinished]
    by_cases ends : b=newline
    · simp only [if_pos ends,ih,List.cons_append]
    · simp only [if_neg ends,ih]

theorem readEvents_ok {lines : List (List UInt8)} (good : ∀line∈lines,IsRecordLine parse line) :
    readEvents parse lines=.ok (lines.filterMap (recordOf parse)) := by
  induction lines with
  | nil => rfl
  | cons line lines ih =>
    have later := ih fun other mem => good other (List.mem_cons_of_mem _ mem)
    rw [readEvents,List.filterMap_cons]
    rcases good line List.mem_cons_self with empty|⟨short,event,parsed,schema⟩
    · simp [empty,recordOf,later]
    · by_cases empty : line=[]
      · simp [empty,recordOf,later]
      · simp [empty,recordOf,later,Nat.not_lt.mpr short,parsed,schema,Except.map,Except.toOption]

/-- Where all lines are read, each of them is empty or holds a record. -/
theorem isRecordLine_of_readEvents {lines : List (List UInt8)}
    {events : List RegistrationAuditEvent} (read : readEvents parse lines=.ok events) :
    ∀line∈lines,IsRecordLine parse line := by
  induction lines generalizing events with
  | nil => simp
  | cons line lines ih =>
    rw [readEvents] at read
    by_cases empty : line=[]
    · rw [if_pos empty] at read
      exact List.forall_mem_cons.mpr ⟨.inl empty,ih read⟩
    · by_cases long : maxEventBytes < line.length
      · simp [empty,long] at read
      · cases parsed : parse line with
        | error error => simp [empty,long,parsed] at read
        | ok event =>
          by_cases schema : event.schemaVersion=1
          · simp only [if_neg empty,if_neg long,parsed,schema,ne_eq,not_true_eq_false,
              if_false] at read
            cases later : readEvents parse lines with
            | error error => simp [later,Except.map] at read
            | ok events =>
              have first : IsRecordLine parse line :=
                .inr ⟨Nat.not_lt.mp long,event,parsed,schema⟩
              exact List.forall_mem_cons.mpr ⟨first,ih later⟩
          · simp [empty,long,parsed,schema] at read

theorem records_append {a : List UInt8} (ended : Ended a) (b : List UInt8) :
    records parse (a++b)=records parse a++records parse b := by
  rw [records,rawLines_append,unfinished_ended ended,List.filterMap_append]
  rfl

theorem HoldsRecords.behind {a b : List UInt8} (holds : HoldsRecords parse (a++b))
    (ended : Ended a) : HoldsRecords parse b := by
  obtain ⟨lines,rest⟩ := holds
  rw [rawLines_append,unfinished_ended ended] at lines
  rw [unfinished_append,unfinished_ended ended] at rest
  exact ⟨fun line mem => lines line (List.mem_append_right _ mem),rest⟩

/-- The start of a line is part of the line, or of the rest. -/
theorem unfinished_within (current bytes : List UInt8) :
    current.length ≤ (unfinished current bytes).length ∨
      ∃line∈rawLines current bytes,current.length ≤ line.length ∧ (current≠[] → line≠[]) := by
  induction bytes generalizing current with
  | nil => exact .inl (Nat.le_refl _)
  | cons b bytes ih =>
    rw [unfinished,rawLines]
    by_cases ends : b=newline
    · rw [if_pos ends,if_pos ends]
      exact .inr ⟨current,List.mem_cons_self,Nat.le_refl _,id⟩
    · rw [if_neg ends,if_neg ends]
      have grown : (current++[b]).length=current.length+1 := by simp
      rcases ih (current++[b]) with longer|⟨line,mem,longer,some⟩
      · exact .inl (by omega)
      · exact .inr ⟨line,mem,by omega,fun _ => some (by simp)⟩

theorem HoldsRecords.front {a b : List UInt8} (holds : HoldsRecords parse (a++b)) :
    HoldsRecords parse a := by
  obtain ⟨lines,rest⟩ := holds
  rw [rawLines_append] at lines
  rw [unfinished_append] at rest
  refine ⟨fun line mem => lines line (List.mem_append_left _ mem),?_⟩
  rcases unfinished_within (unfinished [] a) b with longer|⟨line,mem,longer,some⟩
  · exact Nat.le_trans longer rest
  · by_cases empty : unfinished [] a=[]
    · rw [empty]
      exact Nat.zero_le _
    · have whole := (lines line (List.mem_append_right _ mem)).resolve_left (some empty)
      exact Nat.le_trans longer whole.1

theorem records_open {line : List UInt8} (single : newline∉line) : records parse line=[] := by
  rw [records,(rawLines_open [] line single).1]
  rfl

theorem splitNewlines_ended (front : List UInt8) :
    splitNewlines [] (front++[newline])=rawLines [] (front++[newline])++[[]] := by
  have ended : Ended (front++[newline]) := ended_append [] front
  rw [splitNewlines_eq,unfinished_ended ended]

/-- Lines that are read are returned as the records that they hold. -/
theorem readEvents_ended {front : List UInt8} {events : List RegistrationAuditEvent}
    (read : readEvents parse (splitNewlines [] (front++[newline]))=.ok events) :
    events=records parse (front++[newline]) := by
  have all := readEvents_ok (isRecordLine_of_readEvents read)
  rw [read,splitNewlines_ended,List.filterMap_append] at all
  simpa [recordOf,records] using all

theorem readEvents_records {front : List UInt8} (holds : HoldsRecords parse (front++[newline])) :
    readEvents parse (splitNewlines [] (front++[newline]))=
      .ok (records parse (front++[newline])) := by
  have good : ∀line∈rawLines [] (front++[newline])++[[]],IsRecordLine parse line := by
    intro line mem
    rcases List.mem_append.mp mem with whole|last
    · exact holds.lines line whole
    · exact .inl (List.mem_singleton.mp last)
  rw [splitNewlines_ended,readEvents_ok good,List.filterMap_append]
  simp [recordOf,records]

/-- Of the bytes that it read a poll returns the records of whole lines, or it fails and the tail is
left as it was. -/
theorem readWindow_cases (parse : List UInt8 → Except String RegistrationAuditEvent)
    (tail : RegistrationAuditTail) (bytes : List UInt8) :
    (∃error,tail.readWindow parse bytes=(.error error,tail)) ∨
      ∃part rest,bytes=part++rest ∧ Ended part ∧ tail.readWindow parse bytes=
        (.ok (records parse part),{ tail with offset := tail.offset+part.length }) := by
  rw [readWindow]
  cases found : completeLength bytes with
  | none =>
    by_cases long : maxEventBytes < bytes.length
    · exact .inl ⟨_,by rw [if_pos long]⟩
    · exact .inr ⟨[],bytes,rfl,.inl rfl,by rw [if_neg long]; rfl⟩
  | some complete =>
    obtain ⟨front,rest,rfl,single,rfl⟩ := completeLength_eq_some found
    have taken : (front++newline::rest).take (front.length+1)=front++[newline] := by
      rw [List.append_cons]
      exact List.take_left' (by simp)
    simp only [taken]
    cases read : readEvents parse (splitNewlines [] (front++[newline])) with
    | error error => exact .inl ⟨error,rfl⟩
    | ok events =>
      refine .inr ⟨front++[newline],rest,by simp,ended_append [] front,?_⟩
      rw [readEvents_ended read]
      simp

/-- Without a newline the window is all there is, and it is short. -/
theorem window_open {bytes : List UInt8} (holds : HoldsRecords parse bytes)
    (none : newline∉bytes.take maxPollBytes) :
    (bytes.take maxPollBytes).length ≤ maxEventBytes ∧ bytes.take maxPollBytes=bytes := by
  have split := List.take_append_drop maxPollBytes bytes
  rw [← split] at holds
  have short := holds.front.begun
  rw [(rawLines_open [] _ none).2,List.nil_append] at short
  have length := short
  rw [List.length_take] at length
  have sizes : maxEventBytes < maxPollBytes := by decide
  exact ⟨short,List.take_of_length_le (by omega)⟩

/-- With a newline the window is whole lines and a short rest. -/
theorem window_closed {bytes front rest : List UInt8} (holds : HoldsRecords parse bytes)
    (split : bytes.take maxPollBytes=front++newline::rest) (single : newline∉rest) :
    HoldsRecords parse (front++[newline]) ∧
      bytes=(front++[newline])++(rest++bytes.drop maxPollBytes) ∧ rest.length ≤ maxEventBytes := by
  have whole : bytes=(front++[newline])++(rest++bytes.drop maxPollBytes) := by
    conv_lhs => rw [← List.take_append_drop maxPollBytes bytes,split]
    simp
  have ended : Ended (front++[newline]) := ended_append [] front
  have cut := holds
  rw [whole] at cut
  have short := (cut.behind ended).front.begun
  rw [(rawLines_open [] rest single).2,List.nil_append] at short
  exact ⟨cut.front,whole,short⟩

/-- Where the bytes behind the offset hold records, no poll fails. -/
theorem readWindow_ok {bytes : List UInt8} (holds : HoldsRecords parse bytes)
    (tail : RegistrationAuditTail) :
    ∃part rest,bytes=part++rest ∧ Ended part ∧ tail.readWindow parse (bytes.take maxPollBytes)=
        (.ok (records parse part),{ tail with offset := tail.offset+part.length }) ∧
      (bytes.length ≤ maxPollBytes → records parse rest=[]) ∧
      (maxPollBytes < bytes.length → maxPollBytes-maxEventBytes ≤ part.length) := by
  rw [readWindow]
  cases found : completeLength (bytes.take maxPollBytes) with
  | none =>
    obtain ⟨short,whole⟩ := window_open holds (completeLength_eq_none found)
    simp only [if_neg (Nat.not_lt.mpr short)]
    refine ⟨[],bytes,rfl,.inl rfl,rfl,fun _ => ?_,fun more => ?_⟩
    · rw [← whole]
      exact records_open (completeLength_eq_none found)
    · have length := congrArg List.length whole
      rw [List.length_take] at length
      omega
  | some complete =>
    obtain ⟨front,rest,split,single,rfl⟩ := completeLength_eq_some found
    obtain ⟨good,whole,short⟩ := window_closed holds split single
    have taken : (bytes.take maxPollBytes).take (front.length+1)=front++[newline] := by
      rw [split,List.append_cons]
      exact List.take_left' (by simp)
    simp only [taken,readEvents_records good]
    refine ⟨front++[newline],_,whole,ended_append [] front,?_,fun fits => ?_,fun more => ?_⟩
    · simp
    · rw [List.drop_eq_nil_of_le fits,List.append_nil]
      exact records_open single
    · have length := congrArg List.length split
      rw [List.length_take] at length
      simp only [List.length_append,List.length_cons,List.length_nil] at length ⊢
      omega

end RegistrationAuditTail

/-- The audit file, its follower and what the follower has returned. -/
structure AuditFollow where
  file : Option (List UInt8)
  tail : RegistrationAuditTail
  returned : List RegistrationAuditEvent

inductive AuditFault where
  | metadata (source : String)
  | read (source : String)

/-- Bytes are appended, or the follower polls, which may fail, while more bytes are appended. -/
inductive AuditFollowMove where
  | append (bytes : List UInt8)
  | poll (fault : Option AuditFault) (meanwhile : List UInt8)

namespace AuditFollow

variable (parse : List UInt8 → Except String RegistrationAuditEvent)

def contents (s : AuditFollow) : List UInt8 := s.file.getD []

def append (s : AuditFollow) (bytes : List UInt8) : Option (List UInt8) :=
  if bytes=[] then s.file else some (s.contents++bytes)

def lengthAnswer (file : Option (List UInt8)) : Option AuditFault → LengthAnswer
  | some (.metadata source) => .failed source
  | _ => match file with
    | none => .notFound
    | some bytes => .length bytes.length

def readAnswer (bytes : List UInt8) : Option AuditFault → Except String (List UInt8)
  | some (.read source) => .error source
  | _ => .ok bytes

def polled (s : AuditFollow) (fault : Option AuditFault) (meanwhile : List UInt8) :
    Except RegistrationEventError (List RegistrationAuditEvent) × RegistrationAuditTail :=
  s.tail.poll parse (lengthAnswer s.file fault) (readAnswer ((s.append meanwhile).getD []) fault)

def advance (move : AuditFollowMove) (s : AuditFollow) : AuditFollow :=
  match move with
  | .append bytes => { s with file := s.append bytes }
  | .poll fault meanwhile =>
    let answer := s.polled parse fault meanwhile
    { file := s.append meanwhile
      tail := answer.2
      returned := match answer.1 with
        | .ok events => s.returned++events
        | .error _ => s.returned }

/-- A follower that starts when the file is as given. -/
def start (path : String) (file : Option (List UInt8)) (fault : Option AuditFault) : AuditFollow :=
  ⟨file,.follow path (lengthAnswer file fault),[]⟩

variable {parse} {s : AuditFollow}

open RegistrationAuditTail

theorem contents_append (bytes : List UInt8) :
    ((s.append bytes).getD [])=s.contents++bytes := by
  unfold append
  split_ifs with none
  · rw [none,List.append_nil]
    rfl
  · rfl

/-- From its start on, the follower has read whole lines and returned their records. -/
structure Follows (parse : List UInt8 → Except String RegistrationAuditEvent) (origin : Nat)
    (s : AuditFollow) : Prop where
  begun : origin ≤ s.tail.offset
  inside : s.tail.offset ≤ s.contents.length
  ended : Ended ((s.contents.drop origin).take (s.tail.offset-origin))
  returned : s.returned=records parse ((s.contents.drop origin).take (s.tail.offset-origin))

/-- What the follower has not read yet. -/
def unread (s : AuditFollow) : List UInt8 := s.contents.drop s.tail.offset

theorem Follows.split {origin : Nat} (follows : Follows parse origin s) :
    s.contents.drop origin=(s.contents.drop origin).take (s.tail.offset-origin)++s.unread := by
  have begun := follows.begun
  have behind : (s.contents.drop origin).drop (s.tail.offset-origin)=s.unread := by
    rw [List.drop_drop,unread]
    congr 1
    omega
  rw [← behind,List.take_append_drop]

theorem unread_nil (follows : s.tail.offset ≤ s.contents.length) :
    s.unread=[] ↔ s.contents.length=s.tail.offset := by
  rw [unread,List.drop_eq_nil_iff]
  omega

/-- What a poll reads are the bytes that were behind the offset when it asked for the length. -/
theorem polled_eq (inside : s.tail.offset ≤ s.contents.length) (meanwhile : List UInt8) :
    s.polled parse none meanwhile=s.tail.readWindow parse (s.unread.take maxPollBytes) := by
  have nothing : s.tail.readWindow parse (([] : List UInt8).take maxPollBytes)=(.ok [],s.tail) := by
    rw [List.take_nil]
    rfl
  cases file : s.file with
  | none =>
    have empty : s.unread=[] := by
      rw [unread,contents,file]
      exact List.drop_nil
    rw [empty,nothing,polled,file]
    rfl
  | some bytes =>
    have here : s.contents=bytes := by
      rw [contents,file]
      rfl
    have forward : ¬bytes.length < s.tail.offset := Nat.not_lt.mpr (here ▸ inside)
    have answer : s.polled parse none meanwhile=
        s.tail.poll parse (.length bytes.length) (.ok (bytes++meanwhile)) := by
      rw [polled,contents_append,file,here]
      rfl
    rw [answer,poll]
    by_cases all : bytes.length=s.tail.offset
    · rw [(unread_nil inside).mpr (here ▸ all),nothing]
      simp only [if_neg forward,if_pos all]
    · rw [here] at inside
      have window : ((bytes++meanwhile).drop s.tail.offset).take
          (min (bytes.length-s.tail.offset) maxPollBytes)=s.unread.take maxPollBytes := by
        have length := List.length_drop (i := s.tail.offset) (l := bytes)
        rw [unread,here,List.drop_append_of_le_length inside,
          List.take_append_of_le_length (by omega),Nat.min_comm,← List.take_take,
          List.take_of_length_le (l := bytes.drop s.tail.offset) (Nat.le_of_eq length)]
      simp only [if_neg forward,if_neg all,window]

/-- A poll fails and leaves the tail as it was, or it returns the records of the next lines. -/
theorem polled_cases (parse : List UInt8 → Except String RegistrationAuditEvent)
    (inside : s.tail.offset ≤ s.contents.length) (fault : Option AuditFault)
    (meanwhile : List UInt8) :
    (∃error,s.polled parse fault meanwhile=(.error error,s.tail)) ∨
      ∃part rest,s.unread=part++rest ∧ Ended part ∧ s.polled parse fault meanwhile=
        (.ok (records parse part),{ s.tail with offset := s.tail.offset+part.length }) := by
  cases fault with
  | none =>
    rw [polled_eq inside]
    rcases s.tail.readWindow_cases parse (s.unread.take maxPollBytes) with
      failed|⟨part,rest,split,ended,answer⟩
    · exact .inl failed
    · refine .inr ⟨part,rest++s.unread.drop maxPollBytes,?_,ended,answer⟩
      rw [← List.append_assoc,← split,List.take_append_drop]
  | some fault =>
    cases fault with
    | metadata source => exact .inl ⟨_,rfl⟩
    | read source =>
      have unmoved : s.polled parse (some (.read source)) meanwhile=(.ok [],s.tail) →
          ∃part rest,s.unread=part++rest ∧ Ended part ∧
            s.polled parse (some (.read source)) meanwhile=
              (.ok (records parse part),{ s.tail with offset := s.tail.offset+part.length }) :=
        fun same => ⟨[],s.unread,rfl,.inl rfl,same⟩
      cases file : s.file with
      | none => exact .inr (unmoved (by rw [polled,file]; rfl))
      | some bytes =>
        have here : s.contents=bytes := by
          rw [contents,file]
          rfl
        have forward : ¬bytes.length < s.tail.offset := Nat.not_lt.mpr (here ▸ inside)
        have answer : s.polled parse (some (.read source)) meanwhile=
            s.tail.poll parse (.length bytes.length) (.error source) := by
          rw [polled,file]
          rfl
        rw [poll] at answer
        by_cases all : bytes.length=s.tail.offset
        · simp only [if_neg forward,if_pos all] at answer
          exact .inr (unmoved answer)
        · simp only [if_neg forward,if_neg all] at answer
          exact .inl ⟨_,answer⟩

/-- The file grows, and the follower goes on behind further lines. -/
theorem Follows.grow {origin : Nat} (follows : Follows parse origin s) {t : AuditFollow}
    {more part rest : List UInt8} (contents : t.contents=s.contents++more)
    (split : s.unread=part++rest) (ended : Ended part)
    (offset : t.tail.offset=s.tail.offset+part.length)
    (returned : t.returned=s.returned++records parse part) : Follows parse origin t := by
  have begun := follows.begun
  have inside := follows.inside
  have front := follows.split
  have whole : t.contents.drop origin=
      ((s.contents.drop origin).take (s.tail.offset-origin)++part)++(rest++more) := by
    rw [contents,List.drop_append_of_le_length (Nat.le_trans begun inside)]
    conv_lhs => rw [front,split]
    simp only [List.append_assoc]
  have length : ((s.contents.drop origin).take (s.tail.offset-origin)).length=
      s.tail.offset-origin := by
    rw [List.length_take,List.length_drop]
    omega
  have consumed : (t.contents.drop origin).take (t.tail.offset-origin)=
      (s.contents.drop origin).take (s.tail.offset-origin)++part := by
    rw [whole]
    exact List.take_left' (by rw [List.length_append,length,offset]; omega)
  have size := congrArg List.length split
  rw [unread,List.length_drop,List.length_append] at size
  refine ⟨by omega,?_,?_,?_⟩
  · rw [offset,contents,List.length_append]
    omega
  · rw [consumed]
    exact follows.ended.both ended
  · rw [consumed,records_append follows.ended,← follows.returned,returned]

theorem contents_advance (parse : List UInt8 → Except String RegistrationAuditEvent)
    (move : AuditFollowMove) (s : AuditFollow) :
    ∃more,(s.advance parse move).contents=s.contents++more := by
  cases move with
  | append bytes => exact ⟨bytes,contents_append bytes⟩
  | poll fault meanwhile => exact ⟨meanwhile,contents_append meanwhile⟩

theorem Follows.step {origin : Nat} (follows : Follows parse origin s) (move : AuditFollowMove) :
    Follows parse origin (s.advance parse move) := by
  obtain ⟨more,contents⟩ := contents_advance parse move s
  have idle : s.unread=[]++s.unread := rfl
  cases move with
  | append bytes =>
    exact follows.grow contents idle (.inl rfl) rfl (List.append_nil _).symm
  | poll fault meanwhile =>
    rcases polled_cases parse follows.inside fault meanwhile with
      ⟨error,failed⟩|⟨part,rest,split,ended,answer⟩
    · refine follows.grow contents idle (.inl rfl) ?_ ?_
      · simp only [advance,failed]
        rfl
      · simp only [advance,failed]
        exact (List.append_nil _).symm
    · refine follows.grow contents split ended ?_ ?_
      · simp only [advance,answer]
      · simp only [advance,answer]

theorem Follows.final {origin : Nat} (follows : Follows parse origin s)
    (moves : List AuditFollowMove) : Follows parse origin (Run.final (advance parse) moves s) := by
  induction moves generalizing s with
  | nil => exact follows
  | cons move moves ih => exact ih (follows.step move)

theorem contents_final (parse : List UInt8 → Except String RegistrationAuditEvent)
    (moves : List AuditFollowMove) (s : AuditFollow) :
    ∃more,(Run.final (advance parse) moves s).contents=s.contents++more := by
  induction moves generalizing s with
  | nil => exact ⟨[],(List.append_nil _).symm⟩
  | cons move moves ih =>
    obtain ⟨next,step⟩ := contents_advance parse move s
    obtain ⟨later,rest⟩ := ih (s.advance parse move)
    exact ⟨next++later,by rw [Run.final_cons,rest,step,List.append_assoc]⟩

theorem Follows.holds_unread {origin : Nat} (follows : Follows parse origin s)
    (holds : HoldsRecords parse (s.contents.drop origin)) : HoldsRecords parse s.unread := by
  rw [follows.split] at holds
  exact holds.behind follows.ended

/-- A poll that fails leaves the tail as it was. -/
def FailureKeepsTail (parse : List UInt8 → Except String RegistrationAuditEvent) (s : AuditFollow)
    (move : AuditFollowMove) : Prop :=
  ∀fault meanwhile,move=.poll fault meanwhile →
    ∀error,(s.polled parse fault meanwhile).1=.error error →
      (s.polled parse fault meanwhile).2=s.tail

/-- A poll fails only where the file system does. -/
def SucceedsWithoutFault (parse : List UInt8 → Except String RegistrationAuditEvent)
    (s : AuditFollow) (move : AuditFollowMove) : Prop :=
  ∀meanwhile,move=.poll none meanwhile → ∃events,(s.polled parse none meanwhile).1=.ok events

theorem failureKeepsTail {origin : Nat} (follows : Follows parse origin s)
    (move : AuditFollowMove) : s.FailureKeepsTail parse move := by
  intro fault meanwhile _ error failed
  rcases polled_cases parse follows.inside fault meanwhile with
    ⟨other,answer⟩|⟨part,rest,_,_,answer⟩
  · rw [answer]
  · rw [answer] at failed
    cases failed

theorem succeedsWithoutFault {origin : Nat} (follows : Follows parse origin s)
    {moves : List AuditFollowMove}
    (holds : HoldsRecords parse ((Run.final (advance parse) moves s).contents.drop origin)) :
    Run.Along (advance parse) (SucceedsWithoutFault parse) moves s := by
  induction moves generalizing s with
  | nil => trivial
  | cons move moves ih =>
    refine ⟨?_,ih (follows.step move) holds⟩
    intro meanwhile _
    obtain ⟨more,final⟩ := contents_final parse (move::moves) s
    rw [final,List.drop_append_of_le_length
      (Nat.le_trans follows.begun follows.inside)] at holds
    obtain ⟨part,rest,_,_,answer,_⟩ :=
      readWindow_ok (follows.holds_unread holds.front) s.tail
    rw [polled_eq follows.inside,answer]
    exact ⟨_,rfl⟩

/-- Polls that do not fail catch up with the file. -/
theorem Follows.catch_up {origin : Nat} (follows : Follows parse origin s)
    (holds : HoldsRecords parse (s.contents.drop origin)) (n : Nat)
    (behind : s.unread.length ≤ n*(maxPollBytes-maxEventBytes)+maxPollBytes) :
    (Run.final (advance parse) (List.replicate (n+1) (.poll none [])) s).returned=
      records parse (s.contents.drop origin) := by
  induction n generalizing s with
  | zero =>
    obtain ⟨part,rest,split,ended,answer,fits,_⟩ :=
      readWindow_ok (follows.holds_unread holds) s.tail
    have all := fits (by omega)
    rw [← polled_eq follows.inside []] at answer
    rw [follows.split,records_append follows.ended,split,records_append ended,all,
      ← follows.returned,List.append_nil]
    simp only [Nat.zero_add,List.replicate_one,Run.final_cons,Run.final_nil,advance,answer]
  | succ n ih =>
    obtain ⟨part,rest,split,ended,answer,_,far⟩ :=
      readWindow_ok (follows.holds_unread holds) s.tail
    rw [← polled_eq follows.inside []] at answer
    have same : (s.advance parse (.poll none [])).contents=s.contents :=
      (contents_append []).trans (List.append_nil _)
    have offset : (s.advance parse (.poll none [])).tail.offset=s.tail.offset+part.length := by
      simp only [advance,answer]
    have next : (s.advance parse (.poll none [])).unread=rest := by
      rw [unread,same,offset,← List.drop_drop]
      change s.unread.drop part.length=rest
      rw [split,List.drop_left]
    have size := congrArg List.length split
    rw [List.length_append] at size
    rw [List.replicate_succ,Run.final_cons,ih (follows.step _) (same ▸ holds) ?_,same]
    rw [next]
    by_cases more : maxPollBytes < s.unread.length
    · have gone := far more
      rw [Nat.add_mul,Nat.one_mul] at behind
      omega
    · have room := Nat.zero_le (n*(maxPollBytes-maxEventBytes))
      omega

theorem follows_start (parse : List UInt8 → Except String RegistrationAuditEvent) (path : String)
    (file : Option (List UInt8)) (fault : Option AuditFault) :
    Follows parse (start path file fault).tail.offset (start path file fault) ∧
      ((start path file fault).tail.offset=0 ∨
        (start path file fault).tail.offset=(start path file fault).contents.length) := by
  have inside : (start path file fault).tail.offset=0 ∨
      (start path file fault).tail.offset=(start path file fault).contents.length := by
    cases file with
    | none =>
      rcases fault with _|_|_
      · exact .inl rfl
      · exact .inl rfl
      · exact .inl rfl
    | some bytes =>
      rcases fault with _|_|_
      · exact .inr rfl
      · exact .inl rfl
      · exact .inr rfl
  refine ⟨⟨Nat.le_refl _,by omega,?_,?_⟩,inside⟩
  · rw [Nat.sub_self,List.take_zero]
    exact .inl rfl
  · rw [Nat.sub_self,List.take_zero]
    rfl

/-- The records of the file before the offset at which a follower starts. -/
def passedOver (parse : List UInt8 → Except String RegistrationAuditEvent) (s : AuditFollow) :
    List RegistrationAuditEvent :=
  records parse (s.contents.take s.tail.offset)

theorem ended_start (path : String) {file : Option (List UInt8)} (boundary : Ended (file.getD []))
    (fault : Option AuditFault) : Ended ((start path file fault).contents.take
      (start path file fault).tail.offset) := by
  rcases (follows_start (fun _ => .error "") path file fault).2 with first|last
  · rw [first,List.take_zero]
    exact .inl rfl
  · rw [last,List.take_length]
    exact boundary

/-- What the follower returns over any run are the records behind its start, in the order of the file,
each of them once. -/
theorem follower_delivers_exactly_once (parse : List UInt8 → Except String RegistrationAuditEvent)
    (path : String) (file : Option (List UInt8)) (fault : Option AuditFault)
    (moves : List AuditFollowMove) (boundary : Ended (file.getD [])) :
    Run.Along (advance parse) (FailureKeepsTail parse) moves (start path file fault) ∧
    passedOver parse (start path file fault)++
        (Run.final (advance parse) moves (start path file fault)).returned <+:
      records parse (Run.final (advance parse) moves (start path file fault)).contents ∧
    (HoldsRecords parse ((Run.final (advance parse) moves (start path file fault)).contents.drop
        (start path file fault).tail.offset) →
      Run.Along (advance parse) (SucceedsWithoutFault parse) moves (start path file fault) ∧
      ∀n,(Run.final (advance parse) moves (start path file fault)).unread.length ≤
          n*(maxPollBytes-maxEventBytes)+maxPollBytes →
        passedOver parse (start path file fault)++(Run.final (advance parse)
            (moves++List.replicate (n+1) (.poll none [])) (start path file fault)).returned=
          records parse (Run.final (advance parse) moves (start path file fault)).contents) := by
  obtain ⟨begun,_⟩ := follows_start parse path file fault
  have front := ended_start path boundary fault
  have follows := begun.final moves
  obtain ⟨more,grown⟩ := contents_final parse moves (start path file fault)
  have cut : (Run.final (advance parse) moves (start path file fault)).contents=
      (start path file fault).contents.take (start path file fault).tail.offset++
        (Run.final (advance parse) moves (start path file fault)).contents.drop
          (start path file fault).tail.offset := by
    conv_lhs => rw [← List.take_append_drop (start path file fault).tail.offset
      (Run.final (advance parse) moves (start path file fault)).contents]
    rw [grown,List.take_append_of_le_length begun.inside]
  have all : records parse (Run.final (advance parse) moves (start path file fault)).contents=
      passedOver parse (start path file fault)++
        records parse ((Run.final (advance parse) moves (start path file fault)).contents.drop
          (start path file fault).tail.offset) := by
    conv_lhs => rw [cut]
    exact records_append front _
  refine ⟨?_,?_,fun holds => ⟨succeedsWithoutFault begun holds,fun n behind => ?_⟩⟩
  · have keeps : Run.Keeps (advance parse) (fun _ _ => True)
        (Follows parse (start path file fault).tail.offset) :=
      fun _ move follows _ => follows.step move
    exact keeps.along (fun _ move follows _ => failureKeepsTail follows move) begun
      (Run.along_true moves _)
  · rw [all,follows.returned,List.prefix_append_right_inj]
    conv_rhs => rw [follows.split,records_append follows.ended]
    exact List.prefix_append _ _
  · rw [all,Run.final_append,follows.catch_up holds n behind]

def preparedEvent : RegistrationAuditEvent where
  schemaVersion := 1
  timestampUnixMs := 7
  event := "prepared"
  actor := none
  draftId := "draft"
  requestId := "request"
  operation := "register"
  serviceId := "api"
  proposedRevision := "revision"

/-- A reader that knows a single record. -/
def readPrepared (line : List UInt8) : Except String RegistrationAuditEvent :=
  if line=[123,125] then .ok preparedEvent else .error "expected an object"

/-- A record in three writes, while polls see parts of it and one of them fails. -/
def partialWrites : List AuditFollowMove :=
  [.append [123],.poll none [125],.poll (some (.read "busy")) [],.append [newline]]

theorem holds_partialWrites : HoldsRecords readPrepared
    ((Run.final (advance readPrepared) partialWrites
      (start "audit.jsonl" (some [123,125,newline]) none)).contents.drop
        (start "audit.jsonl" (some [123,125,newline]) none).tail.offset) := by
  have contents : (Run.final (advance readPrepared) partialWrites
      (start "audit.jsonl" (some [123,125,newline]) none)).contents.drop
        (start "audit.jsonl" (some [123,125,newline]) none).tail.offset=[123,125,newline] := by
    decide
  rw [contents]
  refine ⟨fun line mem => ?_,by decide⟩
  have only : line=[123,125] := List.mem_singleton.mp mem
  exact .inr ⟨by rw [only]; decide,preparedEvent,by rw [only]; rfl,rfl⟩

theorem follower_delivers_split_record :
    passedOver readPrepared (start "audit.jsonl" (some [123,125,newline]) none)++
        (Run.final (advance readPrepared) (partialWrites++List.replicate 1 (.poll none []))
          (start "audit.jsonl" (some [123,125,newline]) none)).returned=
      records readPrepared (Run.final (advance readPrepared) partialWrites
        (start "audit.jsonl" (some [123,125,newline]) none)).contents ∧
    records readPrepared (Run.final (advance readPrepared) partialWrites
      (start "audit.jsonl" (some [123,125,newline]) none)).contents=
        [preparedEvent,preparedEvent] :=
  ⟨((follower_delivers_exactly_once readPrepared "audit.jsonl" (some [123,125,newline]) none
    partialWrites (by decide)).2.2 holds_partialWrites).2 0 (by decide),by decide⟩

end AuditFollow

end AkuSupervisor
