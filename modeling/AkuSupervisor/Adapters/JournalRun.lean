import Mathlib.Data.List.Nodup
import AkuSupervisor.Lib.Run
import AkuSupervisor.Adapters.FileJournal
import AkuSupervisor.Application.RegistryRun

namespace AkuSupervisor

open StateError TextLines FileJournal

/-- A journal's file over a run: what its appends were given to write and what they returned. The
journal is absent after an opening that failed. -/
structure JournalRun where
  path : String
  bytes : List UInt8
  journal : Option FileJournal
  encoded : List JournalRecord
  returned : List JournalRecord

/-- An append with the answer it gets, or a close followed by an opening. -/
inductive JournalOp where
  | append (answer : AppendAnswer) (record : JournalRecord)
  | reopen (knownSecrets : List String)

namespace JournalRun

variable (parse : String → Except String JournalRecord)

/-- An opening to which the file system answers without errors of its own. -/
def opened (path : String) (bytes : List UInt8) (knownSecrets : List String) :
    Except FileJournalError FileJournal :=
  openJournal parse path ⟨none,none,none⟩ bytes knownSecrets

def step (op : JournalOp) (s : JournalRun) : JournalRun :=
  match op with
  | .reopen knownSecrets => { s with journal := (opened parse s.path s.bytes knownSecrets).toOption }
  | .append answer record =>
    match s.journal with
    | none => s
    | some journal =>
      let result := (append answer record).run ⟨journal,s.bytes⟩
      { s with
        bytes := (final result).bytes
        journal := some (final result).journal
        encoded := s.encoded++[journal.numbered record]
        returned := s.returned++(answer? result).toList }
where
  answer? : EStateM.Result FileJournalError JournalSys JournalRecord → Option JournalRecord
    | .ok record _ => some record
    | .error _ _ => none

/-- The file can be opened, its sequences increase, and it holds every returned record once. -/
def Survives (s : JournalRun) : Prop :=
  (∀knownSecrets,∃journal,opened parse s.path s.bytes knownSecrets=.ok journal) ∧
  ∃records,readRecords parse s.path s.bytes=.ok records ∧
    (records.map (·.sequence)).Pairwise (· < ·) ∧
    ∀record∈s.returned,records.count record=1

/-- An append that leaves anything in the file finds it ended by a newline, and with no sequence
in it that is not below the journal's next one; and it leaves at least the whole record. -/
def Intact (s : JournalRun) : JournalOp → Prop
  | .reopen _ => True
  | .append answer record => ∀journal∈s.journal,
    answer.persisted (journal.line record)=[] ∨
      Ended s.bytes ∧
      (∀records,readRecords parse s.path s.bytes=.ok records →
        ∀earlier∈records,earlier.sequence < journal.nextSequence) ∧
      (encode (journal.numbered record).toJson).length≤
        (answer.persisted (journal.line record)).length

/-- The file is an accepted history that holds every returned record. -/
structure Kept (s : JournalRun) : Prop where
  positive : ∀journal∈s.journal,0 < journal.nextSequence
  history : ∃records last,readRecords parse s.path s.bytes=.ok records ∧
    lastSequence s.path records=.ok last ∧ ∀record∈s.returned,record∈records

variable {parse}

theorem opened_ok (path : String) (bytes : List UInt8) (knownSecrets : List String)
    (records : List JournalRecord) (last : Nat) (read : readRecords parse path bytes=.ok records)
    (accepted : lastSequence path records=.ok last) :
    opened parse path bytes knownSecrets=
      .ok ⟨path,max (saturatingNext last) 1,knownSecrets⟩ := by
  simp only [opened,openJournal,read,accepted,bind,Except.bind,pure,Except.pure]

theorem opened_cases (path : String) (bytes : List UInt8) (knownSecrets : List String)
    (journal : FileJournal) (h : opened parse path bytes knownSecrets=.ok journal) :
    ∃records last,readRecords parse path bytes=.ok records ∧
      lastSequence path records=.ok last := by
  simp only [opened,openJournal,bind,Except.bind,pure,Except.pure] at h
  cases read : readRecords parse path bytes with
  | error error => simp [read] at h
  | ok records =>
    cases accepted : lastSequence path records with
    | error error => simp [read,accepted] at h
    | ok last => exact ⟨records,last,rfl,accepted⟩

theorem Kept.survives {s : JournalRun} (h : Kept parse s) : Survives parse s := by
  obtain ⟨records,last,read,accepted,returned⟩ := h.history
  obtain ⟨increasing,-⟩ := lastSequence_ok records last accepted
  refine ⟨fun knownSecrets => ⟨_,opened_ok _ _ knownSecrets _ _ read accepted⟩,
    records,read,increasing,fun record mem => ?_⟩
  have distinct : (records.map (·.sequence)).Nodup := increasing.imp Nat.ne_of_lt
  exact List.count_eq_one_of_mem distinct.of_map (returned record mem)

/-- What is left of a line is nothing, or the whole record with or without its newline. -/
theorem persisted_cases (journal : FileJournal) (answer : AppendAnswer) (record : JournalRecord)
    (whole : (encode (journal.numbered record).toJson).length≤
      (answer.persisted (journal.line record)).length) :
    answer.persisted (journal.line record)=encode (journal.numbered record).toJson ∨
      answer.persisted (journal.line record)=
        encode (journal.numbered record).toJson++[newline] := by
  rw [line_eq] at whole ⊢
  cases answer with
  | unopened source =>
    have short := Nat.le_zero.mp whole
    exact .inl (List.eq_nil_of_length_eq_zero short).symm
  | torn written source =>
    rw [AppendAnswer.persisted,List.length_take,List.length_append,List.length_singleton] at whole
    rw [AppendAnswer.persisted]
    by_cases full : written≤(encode (journal.numbered record).toJson).length
    · have exact : written=(encode (journal.numbered record).toJson).length := by omega
      rw [exact]
      exact .inl List.take_left
    · refine .inr (List.take_of_length_le ?_)
      rw [List.length_append,List.length_singleton]
      omega
  | unsynced source => exact .inr rfl
  | durable => exact .inr rfl

theorem durable_whole (journal : FileJournal) (record : JournalRecord) :
    (encode (journal.numbered record).toJson).length≤
      (AppendAnswer.durable.persisted (journal.line record)).length := by
  rw [AppendAnswer.persisted,line_eq,List.length_append]
  exact Nat.le_add_right _ _

theorem run_append (answer : AppendAnswer) (record : JournalRecord) (s : JournalSys) :
    (final ((append answer record).run s)).bytes=
        s.bytes++answer.persisted (s.journal.line record) ∧
      step.answer? ((append answer record).run s)=
        if answer=.durable then some (s.journal.numbered record) else none := by
  cases answer <;> exact ⟨rfl,rfl⟩

theorem bytes_append (s : JournalRun) (journal : FileJournal) (here : s.journal=some journal)
    (answer : AppendAnswer) (record : JournalRecord) :
    (step parse (.append answer record) s).bytes=
      s.bytes++answer.persisted (journal.line record) := by
  simp only [step,here]
  exact (run_append answer record ⟨journal,s.bytes⟩).1

theorem positive_append (answer : AppendAnswer) (record : JournalRecord) (s : JournalSys)
    (positive : 0 < s.journal.nextSequence) :
    0 < (final ((append answer record).run s)).journal.nextSequence := by
  cases answer with
  | durable =>
    show 0 < saturatingNext s.journal.nextSequence
    have size : UInt64.size-1=18446744073709551615 := by decide
    unfold saturatingNext
    omega
  | _ => exact positive

theorem kept_step (s : JournalRun) (op : JournalOp) (kept : Kept parse s)
    (intact : Intact parse s op)
    (readsBack : ∀record∈(step parse op s).encoded,parse record.toJson=.ok record) :
    Kept parse (step parse op s) := by
  cases op with
  | reopen knownSecrets =>
    refine ⟨?_,kept.history⟩
    intro journal mem
    obtain ⟨records,last,read,accepted,-⟩ := kept.history
    rw [step,opened_ok _ _ knownSecrets _ _ read accepted] at mem
    cases mem
    exact Nat.lt_of_lt_of_le Nat.zero_lt_one (Nat.le_max_right _ _)
  | append answer record =>
    cases here : s.journal with
    | none =>
      simp only [step,here]
      exact kept
    | some journal =>
      obtain ⟨bytes,answered⟩ := run_append answer record ⟨journal,s.bytes⟩
      simp only [step,here] at readsBack
      refine ⟨?_,?_⟩
      · simp only [step,here,Option.mem_some]
        intro _ same
        cases same
        exact positive_append answer record _ (kept.positive journal here)
      simp only [step,here,bytes,answered]
      obtain ⟨records,last,read,accepted,returned⟩ := kept.history
      have back := readsBack (journal.numbered record) (by simp)
      by_cases nothing : answer.persisted (journal.line record)=[]
      · have failed : answer≠.durable := by
          intro durable
          rw [durable,AppendAnswer.persisted,line_eq] at nothing
          simp at nothing
        rw [nothing,List.append_nil,if_neg failed]
        exact ⟨records,last,read,accepted,by simpa using returned⟩
      · rcases intact journal here with empty|⟨ended,below,whole⟩
        · exact absurd empty nothing
        · have grown : lines (s.bytes++answer.persisted (journal.line record))=
              lines s.bytes++[encode (journal.numbered record).toJson] := by
            obtain ⟨bare,closed⟩ := lines_written s.bytes (journal.numbered record) ended
            rcases persisted_cases journal answer record whole with cut|full
            · rw [cut,bare]
            · rw [full,closed]
          have read' := readRecords_append s.path s.bytes _ _ records back read grown
          have above : ¬(journal.numbered record).sequence≤last := by
            show ¬journal.nextSequence≤last
            have positive := kept.positive journal here
            rcases lastSequence_mem records last accepted with first|⟨earlier,mem,same⟩
            · omega
            · have bound := below records read earlier mem
              omega
          refine ⟨_,(journal.numbered record).sequence,read',?_,?_⟩
          · rw [lastSequence_append,accepted]
            exact if_neg above
          · intro old mem
            split_ifs at mem with durable
            · rcases List.mem_append.mp mem with earlier|last
              · exact List.mem_append_left _ (returned old earlier)
              · simp only [Option.toList_some,List.mem_singleton] at last
                simp [last]
            · simp only [Option.toList_none,List.append_nil] at mem
              exact List.mem_append_left _ (returned old mem)

theorem encoded_step (s : JournalRun) (op : JournalOp) (record : JournalRecord)
    (mem : record∈s.encoded) : record∈(step parse op s).encoded := by
  cases op with
  | reopen knownSecrets => exact mem
  | append answer other =>
    cases here : s.journal with
    | none => simpa [step,here] using mem
    | some journal => simp [step,here,mem]

/-- A write that fails keeps what it left, and nothing else changes. -/
theorem step_torn (parse : String → Except String JournalRecord) (s : JournalRun)
    (journal : FileJournal) (here : s.journal=some journal) (written : Nat) (source : String)
    (record : JournalRecord) :
    step parse (.append (.torn written source) record) s=
      { s with
        bytes := s.bytes++(journal.line record).take written
        encoded := s.encoded++[journal.numbered record] } := by
  obtain ⟨path,bytes,_,encoded,returned⟩ := s
  cases here
  have kept : returned++[]=returned := List.append_nil returned
  show JournalRun.mk path _ (some journal) _ (returned++[])=_
  rw [kept]
  congr 1

/-- A write that leaves nothing changes nothing. -/
theorem step_unwritten (parse : String → Except String JournalRecord) (s : JournalRun)
    (journal : FileJournal) (here : s.journal=some journal) (source : String)
    (record : JournalRecord) :
    step parse (.append (.torn 0 source) record) s=
      { s with encoded := s.encoded++[journal.numbered record] } := by
  rw [step_torn parse s journal here,List.take_zero,List.append_nil]

theorem kept_final (ops : List JournalOp) (s : JournalRun) (kept : Kept parse s)
    (intact : Run.Along (step parse) (Intact parse) ops s)
    (readsBack : ∀record∈(Run.final (step parse) ops s).encoded,
      parse record.toJson=.ok record) : Kept parse (Run.final (step parse) ops s) := by
  induction ops generalizing s with
  | nil => exact kept
  | cons op ops ih =>
    refine ih _ (kept_step s op kept intact.1 ?_) intact.2 readsBack
    intro record mem
    refine readsBack record ?_
    have grows (t : JournalRun) (written : record∈t.encoded) :
        record∈(Run.final (step parse) ops t).encoded :=
      Run.always (record∈·.encoded) (fun t op => encoded_step t op record) ops written
    exact grows _ mem

/-- A journal that has just been opened. -/
def start (bytes : List UInt8) (journal : FileJournal) : JournalRun :=
  ⟨journal.path,bytes,some journal,[],[]⟩

theorem kept_start (parse : String → Except String JournalRecord) (path : String) (bytes : List UInt8) (knownSecrets : List String)
    (journal : FileJournal) (opens : opened parse path bytes knownSecrets=.ok journal) :
    Kept parse (start bytes journal) := by
  obtain ⟨records,last,read,accepted⟩ := opened_cases path bytes knownSecrets journal opens
  rw [opened_ok path bytes knownSecrets records last read accepted] at opens
  cases opens
  refine ⟨?_,records,last,read,accepted,by simp [start]⟩
  intro journal same
  cases same
  exact Nat.lt_of_lt_of_le Nat.zero_lt_one (Nat.le_max_right _ _)

/-- A history outlives every run whose failed appends leave nothing behind, or a whole record that
the journal knows of before it appends again. -/
theorem history_survives (parse : String → Except String JournalRecord) (path : String)
    (bytes : List UInt8) (knownSecrets : List String) (journal : FileJournal)
    (opens : opened parse path bytes knownSecrets=.ok journal) (ops : List JournalOp)
    (intact : Run.Along (step parse) (Intact parse) ops (start bytes journal))
    (readsBack : ∀record∈(Run.final (step parse) ops (start bytes journal)).encoded,
      parse record.toJson=.ok record) :
    Survives parse (Run.final (step parse) ops (start bytes journal)) :=
  (kept_final ops _ (kept_start parse path bytes knownSecrets journal opens) intact readsBack).survives

/-- An append that succeeds or leaves nothing in the file. -/
def Whole : JournalOp → Prop
  | .reopen _ => True
  | .append answer _ => answer=.durable ∨ ∀line,answer.persisted line=[]

/-- The file ends where a record does, and reads as what it held at first and what was returned
since. -/
structure Echoes (parse : String → Except String JournalRecord) (old : List JournalRecord)
    (s : JournalRun) : Prop where
  ended : Ended s.bytes
  read : readRecords parse s.path s.bytes=.ok (old++s.returned)

theorem echoes_step (s : JournalRun) (op : JournalOp) (old : List JournalRecord)
    (echoes : Echoes parse old s) (whole : Whole op)
    (readsBack : ∀record∈(step parse op s).encoded,parse record.toJson=.ok record) :
    Echoes parse old (step parse op s) := by
  cases op with
  | reopen knownSecrets => exact ⟨echoes.ended,echoes.read⟩
  | append answer record =>
    cases here : s.journal with
    | none =>
      simp only [step,here]
      exact echoes
    | some journal =>
      obtain ⟨bytes,answered⟩ := run_append answer record ⟨journal,s.bytes⟩
      simp only [step,here] at readsBack
      simp only [step,here,bytes,answered]
      by_cases durable : answer=.durable
      · have back := readsBack (journal.numbered record) (by simp)
        have grown := (lines_written s.bytes (journal.numbered record) echoes.ended).2
        rw [durable,if_pos rfl,AppendAnswer.persisted,line_eq]
        refine ⟨ended_append s.bytes _,?_⟩
        have read := readRecords_append s.path s.bytes _ _ _ back echoes.read grown
        rwa [List.append_assoc] at read
      · have nothing := whole.resolve_left durable (journal.line record)
        rw [nothing,if_neg durable,List.append_nil]
        exact ⟨echoes.ended,by simpa using echoes.read⟩

theorem echoes_final (ops : List JournalOp) (s : JournalRun) (old : List JournalRecord)
    (echoes : Echoes parse old s) (whole : ∀op∈ops,Whole op)
    (readsBack : ∀record∈(Run.final (step parse) ops s).encoded,
      parse record.toJson=.ok record) : Echoes parse old (Run.final (step parse) ops s) := by
  induction ops generalizing s with
  | nil => exact echoes
  | cons op ops ih =>
    refine ih _ (echoes_step s op old echoes (whole op List.mem_cons_self) ?_)
      (fun op mem => whole op (List.mem_cons_of_mem _ mem)) readsBack
    intro record mem
    refine readsBack record ?_
    have grows (t : JournalRun) (written : record∈t.encoded) :
        record∈(Run.final (step parse) ops t).encoded :=
      Run.always (record∈·.encoded) (fun t op => encoded_step t op record) ops written
    exact grows _ mem

/-- Every record returned is one that was appended, as it is kept. -/
def Answers (ops : List JournalOp) (returned : JournalRecord) : Prop :=
  ∃record knownSecrets,.append .durable record∈ops ∧ record.Keeps returned knownSecrets

theorem path_step (s : JournalRun) (op : JournalOp) : (step parse op s).path=s.path := by
  cases op with
  | reopen knownSecrets => rfl
  | append answer record =>
    cases here : s.journal with
    | none => simp only [step,here]
    | some journal => simp only [step,here]

theorem returned_step (s : JournalRun) (op : JournalOp) (returned : JournalRecord)
    (mem : returned∈(step parse op s).returned) : returned∈s.returned ∨ Answers [op] returned := by
  cases op with
  | reopen knownSecrets => exact .inl mem
  | append answer record =>
    cases here : s.journal with
    | none =>
      simp only [step,here] at mem
      exact .inl mem
    | some journal =>
      have answered := (run_append answer record ⟨journal,s.bytes⟩).2
      simp only [step,here,answered] at mem
      split_ifs at mem with durable
      · rcases List.mem_append.mp mem with earlier|last
        · exact .inl earlier
        · have same : returned=journal.numbered record := by simpa using last
          rw [same,durable]
          exact .inr ⟨record,journal.knownSecrets,by simp,journal.numbered_keeps record⟩
      · simp only [Option.toList_none,List.append_nil] at mem
        exact .inl mem

theorem returned_final (ops : List JournalOp) (s : JournalRun) (returned : JournalRecord)
    (mem : returned∈(Run.final (step parse) ops s).returned) :
    returned∈s.returned ∨ Answers ops returned := by
  induction ops generalizing s with
  | nil => exact .inl mem
  | cons op ops ih =>
    rcases ih _ mem with earlier|⟨record,knownSecrets,known,keeps⟩
    · rcases returned_step s op returned earlier with first|⟨record,knownSecrets,known,keeps⟩
      · exact .inl first
      · have first : .append .durable record=op := List.mem_singleton.mp known
        exact .inr ⟨record,knownSecrets,by rw [← first]; simp,keeps⟩
    · exact .inr ⟨record,knownSecrets,List.mem_cons_of_mem op known,keeps⟩

/-- What the appends return is read back in its order, behind what the file held: from the file,
which an opening leaves as it is, and page by page. -/
theorem append_round_trip (parse : String → Except String JournalRecord) (path : String)
    (bytes : List UInt8) (knownSecrets : List String) (journal : FileJournal)
    (opens : opened parse path bytes knownSecrets=.ok journal) (ended : Ended bytes)
    (ops : List JournalOp) (whole : ∀op∈ops,Whole op)
    (readsBack : ∀record∈(Run.final (step parse) ops (start bytes journal)).encoded,
      parse record.toJson=.ok record) :
    ∃old,readRecords parse path bytes=.ok old ∧
      readRecords parse path (Run.final (step parse) ops (start bytes journal)).bytes=
        .ok (old++(Run.final (step parse) ops (start bytes journal)).returned) ∧
      (∀after limit,
        events parse path (Run.final (step parse) ops (start bytes journal)).bytes after limit=
          .ok (((old++(Run.final (step parse) ops (start bytes journal)).returned).filter
            fun record => after < record.sequence).take (max 1 (min limit maxEventLimit)))) ∧
      ∀returned∈(Run.final (step parse) ops (start bytes journal)).returned,
        Answers ops returned := by
  obtain ⟨old,last,read,accepted⟩ := opened_cases path bytes knownSecrets journal opens
  rw [opened_ok path bytes knownSecrets old last read accepted] at opens
  cases opens
  have begins : Echoes parse old (start bytes ⟨path,max (saturatingNext last) 1,knownSecrets⟩) :=
    ⟨ended,by rw [start,List.append_nil]; exact read⟩
  have ends := echoes_final ops _ old begins whole readsBack
  have same : (Run.final (step parse) ops
      (start bytes ⟨path,max (saturatingNext last) 1,knownSecrets⟩)).path=path := by
    refine Run.always (fun t : JournalRun => t.path=path) (fun t op kept => ?_) ops rfl
    rw [path_step,kept]
  have found := ends.read
  rw [same] at found
  refine ⟨old,read,found,?_,?_⟩
  · intro after limit
    simp only [events,found,bind,Except.bind,pure,Except.pure]
  · intro returned mem
    refine (returned_final ops _ returned mem).resolve_left ?_
    simp [start]

/-- Two appends, the first of which is not synced. -/
def afterUnsynced (parse : String → Except String JournalRecord) (source : String)
    (first second : JournalRecord) (s : JournalRun) : JournalRun :=
  Run.final (step parse) [.append (.unsynced source) first,.append .durable second] s

theorem encoded_afterUnsynced (s : JournalRun) (journal : FileJournal)
    (here : s.journal=some journal) (source : String) (first second : JournalRecord) :
    (afterUnsynced parse source first second s).encoded=
      s.encoded++[journal.numbered first]++[journal.numbered second] := by
  simp only [afterUnsynced,Run.final_cons,Run.final_nil,step,here]
  rfl

/-- After a write that could not be synced, the next append repeats its sequence. -/
theorem sequence_repeated (s : JournalRun) (journal : FileJournal) (here : s.journal=some journal)
    (ended : Ended s.bytes) (kept : Kept parse s) (source : String) (first second : JournalRecord)
    (readsFirst : parse (journal.numbered first).toJson=.ok (journal.numbered first))
    (readsSecond : parse (journal.numbered second).toJson=.ok (journal.numbered second)) :
    ¬Survives parse (afterUnsynced parse source first second s) := by
  intro survives
  obtain ⟨records,last,read,-,-⟩ := kept.history
  have once := readRecords_append s.path s.bytes _ _ records readsFirst read
    (lines_written s.bytes (journal.numbered first) ended).2
  have twice := readRecords_append s.path _ _ _ _ readsSecond once
    (lines_written _ (journal.numbered second) (ended_append s.bytes _)).2
  obtain ⟨-,found,seen,increasing,-⟩ := survives
  have bytes : (afterUnsynced parse source first second s).bytes=s.bytes++(encode (journal.numbered first).toJson++[newline])++
        (encode (journal.numbered second).toJson++[newline]) := by
    rw [← line_eq,← line_eq]
    simp only [afterUnsynced,Run.final_cons,Run.final_nil,step,here]
    rfl
  have path : (afterUnsynced parse source first second s).path=s.path := by
    simp only [afterUnsynced,Run.final_cons,Run.final_nil,step,here]
  rw [path,bytes,twice] at seen
  cases seen
  rw [List.append_assoc,List.map_append,List.pairwise_append] at increasing
  have less : journal.nextSequence < journal.nextSequence := by
    simpa using increasing.2.1
  exact Nat.lt_irrefl _ less

section Fixture

def fixtureRecord : JournalRecord where
  sequence := 0
  timestamp := "unix-ms:0"
  supervisorInstanceId := "1-0"
  serviceId := "api"
  action := .stop
  actor := .userCli
  reason := fixtureReason
  previousState := .running
  resultingState := .stopped
  ownedPidsBefore := [1000]
  ownedPidsAfter := []
  result := .success
  errorCategory := none
  errorDetail := none
  exitCode := none
  automaticRestartPlanned := none
  deferredRestartPlanned := none
  shutdown := none
  configFingerprint := "sha256:0"

/-- A journal on a new file. -/
def fixtureJournal : FileJournal := ⟨"journal.jsonl",1,[]⟩

/-- Reads the first record of a new journal. -/
def fixtureParse (text : String) : Except String JournalRecord :=
  if text=(fixtureJournal.numbered fixtureRecord).toJson then
    .ok (fixtureJournal.numbered fixtureRecord)
  else .error "expected value"

theorem opened_fixture :
    opened fixtureParse "journal.jsonl" [] []=.ok fixtureJournal := by
  have read : readRecords fixtureParse "journal.jsonl" []=.ok [] := rfl
  rw [opened_ok "journal.jsonl" [] [] [] 0 read rfl]
  decide

theorem fixtureParse_ok : fixtureParse (fixtureJournal.numbered fixtureRecord).toJson=
    .ok (fixtureJournal.numbered fixtureRecord) := if_pos rfl

/-- One append writes nothing, the next one succeeds, and the journal is closed and opened. -/
theorem history_survives_full_disk :
    Survives fixtureParse (Run.final (step fixtureParse)
      [.append (.torn 0 "no space left on device") fixtureRecord,.append .durable fixtureRecord,
        .reopen []] (start [] fixtureJournal)) := by
  have first := step_unwritten fixtureParse (start [] fixtureJournal) fixtureJournal rfl
    "no space left on device" fixtureRecord
  refine history_survives fixtureParse "journal.jsonl" [] [] fixtureJournal opened_fixture _
    ⟨?_,?_,trivial,trivial⟩ ?_
  · exact fun _ _ => .inl rfl
  · rw [first]
    intro journal same
    cases same
    refine .inr ⟨.inl rfl,?_,durable_whole fixtureJournal fixtureRecord⟩
    intro records read earlier mem
    cases read
    cases mem
  · intro record mem
    rw [Run.final_cons,first] at mem
    have same : record=fixtureJournal.numbered fixtureRecord := by
      simpa [step,start] using mem
    rw [same]
    exact fixtureParse_ok

theorem append_round_trip_full_disk :
    readRecords fixtureParse "journal.jsonl" (Run.final (step fixtureParse)
        [.append (.torn 0 "no space left on device") fixtureRecord,.append .durable fixtureRecord]
        (start [] fixtureJournal)).bytes=.ok [fixtureJournal.numbered fixtureRecord] := by
  have first := step_unwritten fixtureParse (start [] fixtureJournal) fixtureJournal rfl
    "no space left on device" fixtureRecord
  have written : ∀record∈(Run.final (step fixtureParse)
      [.append (.torn 0 "no space left on device") fixtureRecord,.append .durable fixtureRecord]
      (start [] fixtureJournal)).encoded,fixtureParse record.toJson=.ok record := by
    intro record mem
    rw [Run.final_cons,first] at mem
    have same : record=fixtureJournal.numbered fixtureRecord := by
      simpa [step,start] using mem
    rw [same]
    exact fixtureParse_ok
  obtain ⟨old,read,found,-⟩ := append_round_trip fixtureParse "journal.jsonl" [] []
    fixtureJournal opened_fixture (.inl rfl) _ (by simp [Whole,AppendAnswer.persisted]) written
  cases read
  exact found

/-- The journal of `fixtureJournal`'s file, opened again after one record. -/
def fixtureReopened : FileJournal := ⟨"journal.jsonl",2,[]⟩

/-- Reads the first two records of a new journal, and nothing but a whole record. -/
def fixturePairParse (text : String) : Except String JournalRecord :=
  if text=(fixtureReopened.numbered fixtureRecord).toJson then
    .ok (fixtureReopened.numbered fixtureRecord)
  else if text=(fixtureJournal.numbered fixtureRecord).toJson then
    .ok (fixtureJournal.numbered fixtureRecord)
  else .error "trailing characters"

theorem toList_toJson_ne_nil (record : JournalRecord) : record.toJson.toList≠[] := by
  obtain ⟨rest,head⟩ := JsonText.object_head record.jsonFields
  rw [JournalRecord.toJson,head]
  simp

theorem opened_fixturePair :
    opened fixturePairParse "journal.jsonl" (encode (fixtureJournal.numbered fixtureRecord).toJson)
      []=.ok fixtureReopened := by
  have other : (fixtureJournal.numbered fixtureRecord).toJson≠
      (fixtureReopened.numbered fixtureRecord).toJson := by
    decide +kernel
  have reads : fixturePairParse (fixtureJournal.numbered fixtureRecord).toJson=
      .ok (fixtureJournal.numbered fixtureRecord) := by
    rw [fixturePairParse,if_neg other,if_pos rfl]
  have read := readRecords_append "journal.jsonl" [] (encode
    (fixtureJournal.numbered fixtureRecord).toJson) _ [] reads rfl
      (lines_written [] _ (.inl rfl)).1
  rw [List.nil_append] at read
  rw [opened_ok "journal.jsonl" _ [] _ 1 read rfl]
  decide

theorem fixturePairParse_joined :
    fixturePairParse ((fixtureJournal.numbered fixtureRecord).toJson++
      (fixtureReopened.numbered fixtureRecord).toJson)=.error "trailing characters" := by
  have first := toList_toJson_ne_nil (fixtureJournal.numbered fixtureRecord)
  have second := toList_toJson_ne_nil (fixtureReopened.numbered fixtureRecord)
  rw [fixturePairParse,if_neg,if_neg]
  · intro same
    have chars := congrArg String.toList same
    rw [String.toList_append] at chars
    exact second (List.append_right_eq_self.mp chars)
  · intro same
    have chars := congrArg String.toList same
    rw [String.toList_append] at chars
    exact first (List.append_left_eq_self.mp chars)

theorem fixtureParse_joined :
    fixtureParse ("\x7b"++(fixtureJournal.numbered fixtureRecord).toJson)=
      .error "expected value" := by
  rw [fixtureParse,if_neg]
  intro same
  have chars := congrArg String.toList same
  rw [String.toList_append] at chars
  exact absurd (List.append_left_eq_self.mp chars) (by decide)

/-- Opened on a record without its newline, the journal answers an append as written that no reader
of the file finds: it refuses the line. So does an append that follows a torn one. -/
theorem append_unread_behind_open_line :
    opened fixturePairParse "journal.jsonl" (encode (fixtureJournal.numbered fixtureRecord).toJson)
      []=.ok fixtureReopened ∧
    (let s := step fixturePairParse (.append .durable fixtureRecord)
      (start (encode (fixtureJournal.numbered fixtureRecord).toJson) fixtureReopened)
    s.returned=[fixtureReopened.numbered fixtureRecord] ∧
      (∀record∈s.encoded,fixturePairParse record.toJson=.ok record) ∧
      readRecords fixturePairParse s.path s.bytes=
        .error (.parse "journal.jsonl" 1 "trailing characters")) ∧
    opened fixtureParse "journal.jsonl" [] []=.ok fixtureJournal ∧
    (let s := Run.final (step fixtureParse)
      [.append (.torn 1 "no space left on device") fixtureRecord,.append .durable fixtureRecord]
      (start [] fixtureJournal)
    s.returned=[fixtureJournal.numbered fixtureRecord] ∧
      (∀record∈s.encoded,fixtureParse record.toJson=.ok record) ∧
      readRecords fixtureParse s.path s.bytes=
        .error (.parse "journal.jsonl" 1 "expected value")) := by
  have torn := step_torn fixtureParse (start [] fixtureJournal) fixtureJournal rfl 1
    "no space left on device" fixtureRecord
  refine ⟨opened_fixturePair,⟨rfl,?_,?_⟩,opened_fixture,⟨rfl,?_,?_⟩⟩
  · intro record mem
    have same : record=fixtureReopened.numbered fixtureRecord := by
      simpa [step,start] using mem
    rw [same]
    exact if_pos rfl
  · have unread := readRecords_joined "journal.jsonl" _ _ _ (JournalRecord.toJson_singleLine _)
      fixturePairParse_joined
    rw [path_step,bytes_append _ fixtureReopened rfl,AppendAnswer.persisted,line_eq]
    simp only [start,fixtureReopened] at unread ⊢
    exact unread
  · intro record mem
    rw [Run.final_cons,torn] at mem
    have same : record=fixtureJournal.numbered fixtureRecord := by
      simpa [step,start] using mem
    rw [same]
    exact fixtureParse_ok
  · have unread := readRecords_joined "journal.jsonl" _ _ _ (by decide) fixtureParse_joined
    rw [Run.final_cons,torn,Run.final_cons,Run.final_nil,path_step,
      bytes_append _ fixtureJournal rfl,AppendAnswer.persisted,take_line,line_eq]
    exact unread

/-- One append is written but not synced, and the next one succeeds. -/
theorem history_lost_after_failed_sync :
    opened fixtureParse "journal.jsonl" [] []=.ok fixtureJournal ∧
    (∀record∈(afterUnsynced fixtureParse "input/output error" fixtureRecord fixtureRecord
      (start [] fixtureJournal)).encoded,fixtureParse record.toJson=.ok record) ∧
    ¬Survives fixtureParse (afterUnsynced fixtureParse "input/output error" fixtureRecord
      fixtureRecord (start [] fixtureJournal)) := by
  have kept := kept_start fixtureParse "journal.jsonl" [] [] fixtureJournal
    opened_fixture
  refine ⟨opened_fixture,?_,?_⟩
  · rw [encoded_afterUnsynced _ fixtureJournal rfl]
    intro record mem
    have same : record=fixtureJournal.numbered fixtureRecord := by
      simpa [start] using mem
    rw [same]
    exact fixtureParse_ok
  · exact sequence_repeated _ fixtureJournal rfl (.inl rfl) kept _ _ _ fixtureParse_ok
      fixtureParse_ok

end Fixture

end JournalRun

end AkuSupervisor
