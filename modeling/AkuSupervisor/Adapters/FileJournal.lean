import Mathlib.Data.List.ReduceOption
import AkuSupervisor.Lib.FailFast
import AkuSupervisor.Lib.TextLines
import AkuSupervisor.Adapters.JournalRecord

namespace AkuSupervisor

open StateError TextLines

/-- Why a journal cannot be opened, read or written; `source` is the text of the cause. -/
inductive FileJournalError where
  | createDirectory (path source : String)
  | openFile (path source : String)
  | read (path source : String)
  | write (path source : String)
  | parse (path : String) (line : Nat) (source : String)
  | nonMonotonic (path : String) (sequence : Nat)
  deriving DecidableEq

def FileJournalError.display : FileJournalError → String
  | .createDirectory path source => s!"failed to create journal directory {path}: {source}"
  | .openFile path source => s!"failed to open journal {path}: {source}"
  | .read path source => s!"failed to read journal {path}: {source}"
  | .write path source => s!"failed to write journal {path}: {source}"
  | .parse path line source => s!"invalid journal record at {path}:{line}: {source}"
  | .nonMonotonic path sequence => s!"journal {path} has non-monotonic sequence {sequence}"

/-- A journal that is open; `nextSequence` is its state under the lock. -/
structure FileJournal where
  path : String
  nextSequence : Nat
  knownSecrets : List String
  deriving DecidableEq

/-- A journal and the contents of its file. -/
structure JournalSys where
  journal : FileJournal
  bytes : List UInt8
  deriving DecidableEq

/-- What the file system answers while a journal is opened: whether the directory can be created,
and the file be created and read. -/
structure OpenAnswers where
  createDirectory : Option (String × String)
  create : Option String
  reopen : Option String

/-- What the file system does with the line of one append. A line that is torn is kept up to any
of its bytes, and a line that is not synced is kept as a whole. -/
inductive AppendAnswer where
  | unopened (source : String)
  | torn (written : Nat) (source : String)
  | unsynced (source : String)
  | durable
  deriving DecidableEq

/-- What stays of a line in the file. -/
def AppendAnswer.persisted (line : List UInt8) : AppendAnswer → List UInt8
  | .unopened _ => []
  | .torn written _ => line.take written
  | .unsynced _ | .durable => line

/-- The error an append then reports. -/
def AppendAnswer.failure (path : String) : AppendAnswer → Option FileJournalError
  | .unopened source => some (.openFile path source)
  | .torn _ source | .unsynced source => some (.write path source)
  | .durable => none

namespace FileJournal

/-- `u64::saturating_add(1)`. -/
def saturatingNext (sequence : Nat) : Nat := min (sequence+1) (UInt64.size-1)

def maxEventLimit : Nat := 200

def isBlank (text : String) : Bool := (trimChars text.toList).isEmpty

section Reading

variable (parse : String → Except String JournalRecord) (path : String)

/-- One line and its index: blank lines are passed over. -/
def readLine (line : List UInt8 × Nat) : Except FileJournalError (Option JournalRecord) :=
  match decode line.1 with
  | none => .error (.read path "stream did not contain valid UTF-8")
  | some text =>
    if isBlank text then .ok none
    else match parse text with
      | .ok record => .ok (some record)
      | .error source => .error (.parse path (line.2+1) source)

/-- The records of a file, or the first failure among its lines. -/
def readRecords (bytes : List UInt8) : Except FileJournalError (List JournalRecord) :=
  (·.reduceOption) <$> (lines bytes).zipIdx.mapM (readLine parse path)

/-- The last sequence of a history, each of which must be above the one before. -/
def lastSequence (records : List JournalRecord) : Except FileJournalError Nat :=
  records.foldlM (fun previous record =>
    if record.sequence≤previous then .error (.nonMonotonic path record.sequence)
    else .ok record.sequence) 0

/-- Opens or creates a journal, rejecting malformed or non-monotonic history. -/
def openJournal (answers : OpenAnswers) (bytes : List UInt8) (knownSecrets : List String) :
    Except FileJournalError FileJournal := do
  if let some (directory,source) := answers.createDirectory then
    throw (.createDirectory directory source)
  if let some source := answers.create then throw (.openFile path source)
  if let some source := answers.reopen then throw (.openFile path source)
  let records ← readRecords parse path bytes
  let previous ← lastSequence path records
  return ⟨path,max (saturatingNext previous) 1,knownSecrets⟩

/-- A bounded page of records after an exclusive sequence cursor. -/
def events (bytes : List UInt8) (after limit : Nat) :
    Except FileJournalError (List JournalRecord) := do
  let records ← readRecords parse path bytes
  return (records.filter fun record => after < record.sequence).take
    (max 1 (min limit maxEventLimit))

end Reading

/-- The record an append writes: numbered, redacted and bounded. -/
def numbered (self : FileJournal) (record : JournalRecord) : JournalRecord :=
  { record with sequence := self.nextSequence }.sanitized self.knownSecrets

/-- The bytes of its line. -/
def line (self : FileJournal) (record : JournalRecord) : List UInt8 :=
  encode ((self.numbered record).toJsonLine [])

/-- Durably appends one canonical lifecycle record. -/
def append (answer : AppendAnswer) (record : JournalRecord) :
    EStateM FileJournalError JournalSys JournalRecord := do
  let journal := (← get).journal
  modify fun s => { s with bytes := s.bytes++answer.persisted (journal.line record) }
  match answer with
  | .unopened source => throw (.openFile journal.path source)
  | .torn _ source | .unsynced source => throw (.write journal.path source)
  | .durable =>
    modify fun s => { s with
      journal := { s.journal with nextSequence := saturatingNext s.journal.nextSequence } }
    return journal.numbered record

theorem answer_append (answer : AppendAnswer) (record : JournalRecord) (s : JournalSys) :
    StateError.answer ((append answer record).run s)=
      match answer.failure s.journal.path with
      | some error => .error error
      | none => .ok (s.journal.numbered record) := by
  cases answer <;> rfl

@[simp] theorem numbered_sequence (self : FileJournal) (record : JournalRecord) :
    (self.numbered record).sequence=self.nextSequence := rfl

theorem numbered_keeps (self : FileJournal) (record : JournalRecord) :
    record.Keeps (self.numbered record) self.knownSecrets := by
  have kept := JournalRecord.sanitized_keeps { record with sequence := self.nextSequence }
    self.knownSecrets
  exact ⟨kept.reasonSize,kept.reason,kept.details,kept.detail⟩

theorem numbered_toJsonLine (self : FileJournal) (record : JournalRecord) :
    (self.numbered record).toJsonLine []=(self.numbered record).toJson++"\n" := by
  rw [JournalRecord.toJsonLine,numbered,JournalRecord.sanitized_sanitized]

theorem line_eq (self : FileJournal) (record : JournalRecord) :
    self.line record=encode (self.numbered record).toJson++[newline] := by
  rw [line,numbered_toJsonLine,encode_append,encode_newline]

/-- The first byte of a line is the brace of its record. -/
theorem take_line (self : FileJournal) (record : JournalRecord) :
    (self.line record).take 1=encode "\x7b" := by
  obtain ⟨rest,head⟩ := JsonText.object_head (self.numbered record).jsonFields
  have brace : String.utf8EncodeChar '\x7b'=[0x7b] := by decide
  have single : encode "\x7b"=[0x7b] := by decide
  rw [line_eq,encode,JournalRecord.toJson,head,List.flatMap_cons,brace,single]
  rfl

section History

variable {parse : String → Except String JournalRecord} {path : String}

theorem isWhitespace_of_isBlank {text : String} (blank : isBlank text=true) :
    ∀c∈text.toList,isWhitespace c=true := by
  have rest : ∀c∈text.toList.dropWhile isWhitespace,isWhitespace c=true :=
    List.rdropWhile_eq_nil_iff.mp (List.isEmpty_iff.mp blank)
  rw [← List.dropWhile_eq_nil_iff]
  by_contra some
  have first := List.head_dropWhile_not isWhitespace some
  rw [rest _ (List.head_mem some)] at first
  cases first

theorem isBlank_append_toJson (text : String) (record : JournalRecord) :
    isBlank (text++record.toJson)=false := by
  obtain ⟨rest,head⟩ := JsonText.object_head record.jsonFields
  rw [← Bool.not_eq_true]
  intro blank
  have brace := isWhitespace_of_isBlank blank '\x7b' (by
    rw [String.toList_append,JournalRecord.toJson,head]
    simp)
  exact absurd brace (by decide)

theorem readLine_toJson (path : String) (record : JournalRecord) (index : Nat)
    (readsBack : parse record.toJson=.ok record) :
    readLine parse path (encode record.toJson,index)=.ok (some record) := by
  have written := isBlank_append_toJson "" record
  rw [String.empty_append] at written
  simp only [readLine,decode_encode,written,readsBack]
  rfl

/-- A line added behind the others adds its record behind theirs. -/
theorem readRecords_append (path : String) (bytes more : List UInt8) (record : JournalRecord)
    (records : List JournalRecord) (readsBack : parse record.toJson=.ok record)
    (before : readRecords parse path bytes=.ok records)
    (grown : lines (bytes++more)=lines bytes++[encode record.toJson]) :
    readRecords parse path (bytes++more)=.ok (records++[record]) := by
  unfold readRecords at before ⊢
  rw [grown,List.zipIdx_append,List.mapM_append]
  cases read : (lines bytes).zipIdx.mapM (readLine parse path) with
  | error error =>
    rw [read] at before
    cases before
  | ok found =>
    rw [read] at before
    cases before
    have last := readLine_toJson path record (lines bytes).length readsBack
    simp only [List.zipIdx_singleton,Nat.zero_add,List.mapM_cons,List.mapM_nil,last,bind,
      Except.bind,pure,Except.pure,Functor.map,Except.map]
    rw [List.reduceOption_append]
    rfl

theorem encode_toJson_last (record : JournalRecord) :
    (encode record.toJson).getLast?=some 0x7d := by
  obtain ⟨before,last⟩ := JsonText.object_last record.jsonFields
  have brace : String.utf8EncodeChar '\x7d'=[0x7d] := by decide
  rw [encode,JournalRecord.toJson,last,List.flatMap_append,List.flatMap_singleton,brace,
    List.getLast?_concat]

/-- Written as a whole, a record is one more line, with its newline or without. -/
theorem lines_written (bytes : List UInt8) (record : JournalRecord) (ended : Ended bytes) :
    lines (bytes++encode record.toJson)=lines bytes++[encode record.toJson] ∧
    lines (bytes++(encode record.toJson++[newline]))=lines bytes++[encode record.toJson] := by
  have single := newline_not_mem record.toJson record.toJson_singleLine
  have last := encode_toJson_last record
  have nonempty : encode record.toJson≠[] := by
    intro empty
    rw [empty] at last
    cases last
  have plain : (encode record.toJson).getLast?≠some carriageReturn := by
    rw [last]
    decide
  refine ⟨?_,?_⟩
  · rw [lines_append _ _ ended,lines_open _ single nonempty]
  · rw [lines_append _ _ ended,lines_closed _ single plain]

/-- Behind a text that no newline ends, a record shares the line of the text, and where the reader
takes the two for no record the file is not read at all. -/
theorem readRecords_joined (path text source : String) (record : JournalRecord)
    (single : '\n'∉text.toList) (refused : parse (text++record.toJson)=.error source) :
    readRecords parse path (encode text++(encode record.toJson++[newline]))=
      .error (.parse path 1 source) := by
  have joined : newline∉encode (text++record.toJson) := by
    apply newline_not_mem
    rw [String.toList_append,List.mem_append,not_or]
    exact ⟨single,record.toJson_singleLine⟩
  have plain : (encode (text++record.toJson)).getLast?≠some carriageReturn := by
    rw [encode_append,List.getLast?_append,encode_toJson_last]
    simp [carriageReturn]
  have line := lines_closed _ joined plain
  rw [← List.append_assoc,← encode_append,readRecords,line]
  simp only [List.zipIdx_singleton,List.mapM_cons,readLine,decode_encode,isBlank_append_toJson,
    refused,bind,Except.bind,Functor.map,Except.map]
  rfl

theorem lastSequence_append (records : List JournalRecord) (record : JournalRecord) :
    lastSequence path (records++[record])=(lastSequence path records).bind fun previous =>
      if record.sequence≤previous then .error (.nonMonotonic path record.sequence)
      else .ok record.sequence := by
  unfold lastSequence
  rw [List.foldlM_append]
  cases records.foldlM (fun previous (record : JournalRecord) =>
      if record.sequence≤previous then
        (.error (.nonMonotonic path record.sequence) : Except FileJournalError Nat)
      else .ok record.sequence) 0 with
  | error error => rfl
  | ok previous =>
    simp only [List.foldlM_cons,List.foldlM_nil,bind,Except.bind]
    split_ifs <;> rfl

/-- A history that is accepted has increasing sequences, up to the last of them. -/
theorem lastSequence_ok (records : List JournalRecord) (last : Nat)
    (accepted : lastSequence path records=.ok last) :
    (records.map (·.sequence)).Pairwise (· < ·) ∧ ∀record∈records,record.sequence≤last := by
  induction records using List.reverseRecOn generalizing last with
  | nil => simp
  | append_singleton records record ih =>
    rw [lastSequence_append] at accepted
    cases before : lastSequence path records with
    | error error =>
      rw [before] at accepted
      cases accepted
    | ok previous =>
      rw [before] at accepted
      obtain ⟨increasing,bounded⟩ := ih previous before
      simp only [Except.bind] at accepted
      split_ifs at accepted with repeated
      cases accepted
      have above : ∀earlier∈records,earlier.sequence < record.sequence := by
        intro earlier mem
        have bound := bounded earlier mem
        omega
      refine ⟨?_,?_⟩
      · rw [List.map_append,List.pairwise_append]
        refine ⟨increasing,by simp,?_⟩
        simpa using above
      · intro earlier mem
        rcases List.mem_append.mp mem with old|new
        · exact Nat.le_of_lt (above earlier old)
        · cases List.mem_singleton.mp new
          exact Nat.le_refl _

/-- The last sequence of a history is that of one of its records, if it has any. -/
theorem lastSequence_mem (records : List JournalRecord) (last : Nat)
    (accepted : lastSequence path records=.ok last) :
    last=0 ∨ ∃record∈records,record.sequence=last := by
  induction records using List.reverseRecOn with
  | nil =>
    cases accepted
    exact .inl rfl
  | append_singleton records record ih =>
    rw [lastSequence_append] at accepted
    cases before : lastSequence path records with
    | error error =>
      rw [before] at accepted
      cases accepted
    | ok previous =>
      rw [before] at accepted
      simp only [Except.bind] at accepted
      split_ifs at accepted
      cases accepted
      exact .inr ⟨record,by simp,rfl⟩

end History

end FileJournal

end AkuSupervisor
