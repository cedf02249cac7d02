import Mathlib.Algebra.Group.Nat.Defs
import AkuSupervisor.Adapters.JournalRun

namespace AkuSupervisor

open TextLines FileJournal

/-- A journal and a reader of its events: the cursor is the sequence of the last record received. -/
structure JournalPages where
  run : JournalRun
  cursor : Nat
  received : List JournalRecord

/-- An append that succeeds, or the next page of the reader. -/
inductive JournalPagesOp where
  | append (record : JournalRecord)
  | page (limit : Nat)

namespace JournalPages

variable (parse : String → Except String JournalRecord)

def nextPage (s : JournalPages) (limit : Nat) : JournalPages :=
  match events parse s.run.path s.run.bytes s.cursor limit with
  | .ok page => { s with
      cursor := (page.getLast?.map (·.sequence)).getD s.cursor
      received := s.received++page }
  | .error _ => s

def step (op : JournalPagesOp) (s : JournalPages) : JournalPages :=
  match op with
  | .append record => { s with run := JournalRun.step parse (.append .durable record) s.run }
  | .page limit => s.nextPage parse limit

/-- A reader that starts before the first record of a journal that has just been opened. -/
def start (bytes : List UInt8) (journal : FileJournal) : JournalPages :=
  ⟨JournalRun.start bytes journal,0,[]⟩

def isAppend : JournalPagesOp → Bool
  | .append _ => true
  | .page _ => false

/-- What has been received is the beginning of what the journal holds, in the order of the
sequences, and each page goes on right after it. -/
structure Enumerates (old : List JournalRecord) (knownSecrets : List String) (s : JournalPages)
    (op : JournalPagesOp) : Prop where
  read : readRecords parse s.run.path s.run.bytes=.ok (old++s.run.returned)
  increasing : ((old++s.run.returned).map (·.sequence)).Pairwise (· < ·)
  received : s.received<+:old++s.run.returned
  appended : ∀record,op=.append record → ∃kept,
    (step parse op s).run.returned=s.run.returned++[kept] ∧ record.Keeps kept knownSecrets
  page : ∀limit,op=.page limit → (step parse op s).received=
    (old++s.run.returned).take (s.received.length+max 1 (min limit maxEventLimit))

variable {parse}

/-- In an increasing list, the elements above the last one of a beginning are the rest. -/
theorem filter_above (records : List JournalRecord) (n cursor : Nat)
    (increasing : (records.map (·.sequence)).Pairwise (· < ·))
    (positive : ∀record∈records,0 < record.sequence)
    (last : cursor=(((records.take n).getLast?).map (·.sequence)).getD 0) :
    records.filter (fun record => cursor < record.sequence)=records.drop n := by
  rw [List.pairwise_map] at increasing
  have split := List.take_append_drop n records
  have parts := increasing
  rw [← split,List.pairwise_append] at parts
  obtain ⟨first,-,across⟩ := parts
  have low : ∀record∈records.take n,¬cursor < record.sequence := by
    intro record mem
    rw [last]
    have nonempty := List.ne_nil_of_mem mem
    rw [List.getLast?_eq_getLast_of_ne_nil nonempty]
    rcases List.mem_append.mp ((List.dropLast_append_getLast nonempty).symm ▸ mem) with early|final
    · rw [← List.dropLast_append_getLast nonempty,List.pairwise_append] at first
      have below := first.2.2 record early _ (List.mem_singleton_self _)
      simp only [Option.map_some,Option.getD_some]
      omega
    · rw [List.mem_singleton.mp final]
      simp
  have high : ∀record∈records.drop n,cursor < record.sequence := by
    intro record mem
    rw [last]
    cases taken : (records.take n).getLast? with
    | none => simpa using positive record (List.mem_of_mem_drop mem)
    | some final =>
      exact across final (List.mem_of_getLast? taken) record mem
  conv_lhs => rw [← split]
  rw [List.filter_append,List.filter_eq_nil_iff.mpr (by simpa using low),List.nil_append]
  exact List.filter_eq_self.mpr (by simpa using high)

theorem lastSequence_positive (path : String) (records : List JournalRecord) (last : Nat)
    (accepted : lastSequence path records=.ok last) : ∀record∈records,0 < record.sequence := by
  induction records using List.reverseRecOn generalizing last with
  | nil => simp
  | append_singleton records record ih =>
    rw [lastSequence_append] at accepted
    cases before : lastSequence path records with
    | error error =>
      rw [before] at accepted
      cases accepted
    | ok previous =>
      rw [before] at accepted
      simp only [Except.bind] at accepted
      split_ifs at accepted with repeated
      intro earlier mem
      rcases List.mem_append.mp mem with old|new
      · exact ih previous before earlier old
      · cases List.mem_singleton.mp new
        omega

/-- The journal is sound, has room for `left` more records, and the reader has read a beginning of
it. -/
structure Paged (parse : String → Except String JournalRecord) (old : List JournalRecord)
    (knownSecrets : List String) (left : Nat) (s : JournalPages) : Prop where
  ended : Ended s.run.bytes
  read : readRecords parse s.run.path s.run.bytes=.ok (old++s.run.returned)
  accepted : ∃last,lastSequence s.run.path (old++s.run.returned)=.ok last ∧ last+left<2^64 ∧
    s.run.journal=some ⟨s.run.path,max (saturatingNext last) 1,knownSecrets⟩
  received : s.received=(old++s.run.returned).take s.received.length
  cursor : s.cursor=((s.received.getLast?).map (·.sequence)).getD 0

theorem saturatingNext_small (last : Nat) (room : last+1<2^64) :
    max (saturatingNext last) 1=last+1 := by
  have size : UInt64.size-1=2^64-1 := by decide
  unfold saturatingNext
  omega

theorem paged_append {old : List JournalRecord} {knownSecrets : List String} {left : Nat}
    {s : JournalPages} (paged : Paged parse old knownSecrets (left+1) s) (record : JournalRecord)
    (readsBack : ∀written∈(step parse (.append record) s).run.encoded,
      parse written.toJson=.ok written) :
    Paged parse old knownSecrets left (step parse (.append record) s) ∧ ∃kept,
      (step parse (.append record) s).run.returned=s.run.returned++[kept] ∧
        record.Keeps kept knownSecrets := by
  obtain ⟨last,accepted,room,here⟩ := paged.accepted
  have next := saturatingNext_small last (by omega)
  rw [next] at here
  have after : (step parse (.append record) s).run=
      { s.run with
        bytes := s.run.bytes++(FileJournal.mk s.run.path (last+1) knownSecrets).line record
        journal := some ⟨s.run.path,saturatingNext (last+1),knownSecrets⟩
        encoded := s.run.encoded++
          [(FileJournal.mk s.run.path (last+1) knownSecrets).numbered record]
        returned := s.run.returned++
          [(FileJournal.mk s.run.path (last+1) knownSecrets).numbered record] } := by
    show JournalRun.step parse (.append .durable record) s.run=_
    simp only [JournalRun.step,here]
    rfl
  generalize made : (FileJournal.mk s.run.path (last+1) knownSecrets).numbered record=kept at after
  have sequence : kept.sequence=last+1 := by rw [← made,numbered_sequence]
  have keeps : record.Keeps kept knownSecrets := by
    rw [← made]
    exact numbered_keeps _ record
  have back : parse kept.toJson=.ok kept := by
    apply readsBack
    rw [after]
    simp
  rw [line_eq,made] at after
  have grown := (lines_written s.run.bytes kept paged.ended).2
  have read := readRecords_append s.run.path s.run.bytes _ kept _ back paged.read grown
  have longer : s.received=(old++(s.run.returned++[kept])).take s.received.length := by
    have short : s.received.length≤(old++s.run.returned).length := by
      have length := congrArg List.length paged.received
      rw [List.length_take] at length
      omega
    rw [← List.append_assoc,List.take_append_of_le_length short]
    exact paged.received
  refine ⟨⟨?_,?_,⟨last+1,?_,by omega,?_⟩,?_,paged.cursor⟩,kept,?_,keeps⟩
  · rw [after]
    exact ended_append s.run.bytes _
  · rw [after]
    simpa only [List.append_assoc] using read
  · rw [after]
    simp only
    rw [← List.append_assoc,lastSequence_append,accepted]
    simp only [Except.bind,sequence]
    exact if_neg (by omega)
  · rw [after]
    have positive : 1 ≤ saturatingNext (last+1) := by
      unfold saturatingNext
      have size : UInt64.size-1=2^64-1 := by decide
      omega
    simp only [Nat.max_eq_left positive]
  · rw [after]
    exact longer
  · rw [after]

theorem paged_page {old : List JournalRecord} {knownSecrets : List String} {left : Nat}
    {s : JournalPages} (paged : Paged parse old knownSecrets left s) (limit : Nat) :
    Paged parse old knownSecrets left (step parse (.page limit) s) ∧
      (step parse (.page limit) s).received=
        (old++s.run.returned).take (s.received.length+max 1 (min limit maxEventLimit)) := by
  obtain ⟨last,accepted,room,here⟩ := paged.accepted
  obtain ⟨increasing,-⟩ := lastSequence_ok _ last accepted
  have rest := filter_above (old++s.run.returned) s.received.length s.cursor increasing
    (lastSequence_positive _ _ last accepted) (by rw [← paged.received]; exact paged.cursor)
  generalize size : max 1 (min limit maxEventLimit)=n
  generalize records : old++s.run.returned=all at rest
  have page : events parse s.run.path s.run.bytes s.cursor limit=
      .ok ((all.drop s.received.length).take n) := by
    simp only [events,paged.read,records,rest,size,bind,Except.bind,pure,Except.pure]
  have taken : s.received++(all.drop s.received.length).take n=
      all.take (s.received.length+n) := by
    have received := paged.received
    rw [records] at received
    conv_lhs => rw [received]
    rw [List.length_take,List.take_add]
    congr 2
    have short : s.received.length≤all.length := by
      have length := congrArg List.length received
      rw [List.length_take] at length
      omega
    rw [Nat.min_eq_left short]
  have after : step parse (.page limit) s=
      { s with
        cursor := (((all.drop s.received.length).take n).getLast?.map (·.sequence)).getD s.cursor
        received := all.take (s.received.length+n) } := by
    show s.nextPage parse limit=_
    rw [nextPage,page]
    simp only [taken]
  rw [after]
  refine ⟨⟨paged.ended,paged.read,⟨last,accepted,room,here⟩,?_,?_⟩,rfl⟩
  · simp only [records,List.length_take]
    rw [← List.take_take,List.take_length]
  · simp only
    rw [← taken,List.getLast?_append]
    cases (List.take n (List.drop s.received.length all)).getLast? with
    | none => simpa using paged.cursor
    | some final => simp

/-- Reading a page leaves the journal as it is. -/
@[simp] theorem run_page (s : JournalPages) (limit : Nat) :
    (step parse (.page limit) s).run=s.run := by
  show (s.nextPage parse limit).run=s.run
  unfold nextPage
  cases events parse s.run.path s.run.bytes s.cursor limit <;> rfl

theorem run_append (s : JournalPages) (record : JournalRecord) :
    (step parse (.append record) s).run=JournalRun.step parse (.append .durable record) s.run := by
  rw [step]

/-- An append to an open journal writes and returns the record that the journal numbers. -/
theorem appended_run (s : JournalPages) (journal : FileJournal) (here : s.run.journal=some journal)
    (record : JournalRecord) :
    (step parse (.append record) s).run.encoded=s.run.encoded++[journal.numbered record] ∧
      (step parse (.append record) s).run.returned=s.run.returned++[journal.numbered record] := by
  have answered := (JournalRun.run_append .durable record ⟨journal,s.run.bytes⟩).2
  rw [if_pos rfl] at answered
  rw [run_append]
  simp only [JournalRun.step,here,answered]
  exact ⟨trivial,rfl⟩

theorem encoded_step (s : JournalPages) (op : JournalPagesOp) (record : JournalRecord)
    (mem : record∈s.run.encoded) : record∈(step parse op s).run.encoded := by
  cases op with
  | append other =>
    rw [run_append]
    exact JournalRun.encoded_step s.run _ record mem
  | page limit =>
    rw [run_page]
    exact mem

theorem along_paged {old : List JournalRecord} {knownSecrets : List String}
    (ops : List JournalPagesOp) {s : JournalPages}
    (paged : Paged parse old knownSecrets (ops.countP isAppend) s)
    (readsBack : ∀record∈(Run.final (step parse) ops s).run.encoded,
      parse record.toJson=.ok record) :
    Run.Along (step parse) (Enumerates parse old knownSecrets) ops s := by
  induction ops generalizing s with
  | nil => trivial
  | cons op ops ih =>
    obtain ⟨last,accepted,-⟩ := paged.accepted
    obtain ⟨increasing,-⟩ := lastSequence_ok _ last accepted
    have begins : s.received<+:old++s.run.returned := by
      rw [paged.received]
      exact List.take_prefix _ _
    cases op with
    | append record =>
      have counted : (JournalPagesOp.append record::ops).countP isAppend=
          ops.countP isAppend+1 := List.countP_cons_of_pos rfl
      rw [counted] at paged
      have back : ∀written∈(step parse (.append record) s).run.encoded,
          parse written.toJson=.ok written := by
        intro written mem
        refine readsBack written ?_
        exact Run.always (written∈·.run.encoded) (fun t op => encoded_step t op written) ops mem
      obtain ⟨after,appended⟩ := paged_append paged record back
      refine ⟨⟨paged.read,increasing,begins,fun other eq => ?_,fun limit eq => ?_⟩,
        ih after readsBack⟩
      · cases eq
        exact appended
      · cases eq
    | page limit =>
      have counted : (JournalPagesOp.page limit::ops).countP isAppend=ops.countP isAppend :=
        List.countP_cons_of_neg (fun yes => (by cases yes))
      rw [counted] at paged
      obtain ⟨after,page⟩ := paged_page paged limit
      refine ⟨⟨paged.read,increasing,begins,fun record eq => ?_,fun other eq => ?_⟩,
        ih after readsBack⟩
      · cases eq
      · cases eq
        exact page

/-- While the sequences last, a reader that goes on from the last record it has received gets every
record once and in order, whatever the sizes of its pages. -/
theorem events_enumerate (parse : String → Except String JournalRecord) (path : String)
    (bytes : List UInt8) (knownSecrets : List String) (journal : FileJournal)
    (opens : JournalRun.opened parse path bytes knownSecrets=.ok journal) (ended : Ended bytes)
    (ops : List JournalPagesOp)
    (room : ∀last,(readRecords parse path bytes).bind (lastSequence path)=.ok last →
      last+ops.countP isAppend<2^64)
    (readsBack : ∀record∈(Run.final (step parse) ops (start bytes journal)).run.encoded,
      parse record.toJson=.ok record) :
    ∃old,readRecords parse path bytes=.ok old ∧
      Run.Along (step parse) (Enumerates parse old knownSecrets) ops (start bytes journal) := by
  obtain ⟨old,last,read,accepted⟩ := JournalRun.opened_cases path bytes knownSecrets journal opens
  rw [JournalRun.opened_ok path bytes knownSecrets old last read accepted] at opens
  cases opens
  refine ⟨old,read,along_paged ops ⟨ended,?_,⟨last,?_,?_,rfl⟩,?_,rfl⟩ readsBack⟩
  · simpa [start,JournalRun.start] using read
  · simpa [start,JournalRun.start] using accepted
  · apply room
    rw [read]
    exact accepted
  · rfl

section Fixture

open JournalRun

/-- A page before the first append, and two of one record after it. -/
def fixturePages : List JournalPagesOp := [.page 5,.append fixtureRecord,.page 1,.page 1]

theorem events_enumerate_fixture :
    Run.Along (step fixtureParse) (Enumerates fixtureParse [] []) fixturePages
      (start [] fixtureJournal) := by
  have written : ∀record∈(Run.final (step fixtureParse) fixturePages
      (start [] fixtureJournal)).run.encoded,fixtureParse record.toJson=.ok record := by
    intro record mem
    have opened : (step fixtureParse (.page 5) (start [] fixtureJournal)).run.journal=
        some fixtureJournal := by
      rw [run_page]
      rfl
    have written : (step fixtureParse (.append fixtureRecord) _).run.encoded=_ :=
      (appended_run _ fixtureJournal opened fixtureRecord).1
    rw [run_page] at written
    rw [fixturePages,Run.final_cons,Run.final_cons,Run.final_cons,Run.final_cons,Run.final_nil,
      run_page,run_page,written] at mem
    rw [List.mem_singleton.mp mem]
    exact fixtureParse_ok
  obtain ⟨old,read,along⟩ := events_enumerate fixtureParse "journal.jsonl" [] [] fixtureJournal
    opened_fixture (.inl rfl) fixturePages (fun last accepted => by
      cases accepted
      decide) written
  cases read
  exact along

/-- A journal whose next record would be the last that fits a sequence. -/
def lastJournal : FileJournal := ⟨"journal.jsonl",2^64-1,[]⟩

def lastRecord : JournalRecord := lastJournal.numbered fixtureRecord

/-- Reads the record of the last sequence. -/
def lastParse (text : String) : Except String JournalRecord :=
  if text=lastRecord.toJson then .ok lastRecord else .error "expected value"

def lastBytes : List UInt8 := encode lastRecord.toJson++[newline]

/-- Once the last sequence is in use, the next record is appended with the same one, and a reader that
has received the first of them does not get the second. -/
theorem events_skip_last :
    JournalRun.opened lastParse "journal.jsonl" lastBytes []=.ok lastJournal ∧ Ended lastBytes ∧
      (∀record∈(Run.final (step lastParse)
          [.page 200,.append fixtureRecord,.page 200]
          (start lastBytes lastJournal)).run.encoded,lastParse record.toJson=.ok record) ∧
      ∀old,¬Run.Along (step lastParse) (Enumerates lastParse old [])
        [.page 200,.append fixtureRecord,.page 200]
        (start lastBytes lastJournal) := by
  have read : readRecords lastParse "journal.jsonl" ([]++(encode lastRecord.toJson++[newline]))=
      .ok ([]++[lastRecord]) :=
    readRecords_append _ [] _ lastRecord [] (if_pos rfl) rfl
      (lines_written [] lastRecord (.inl rfl)).2
  have same : lastBytes=[]++(encode lastRecord.toJson++[newline]) := (List.nil_append _).symm
  have ended : Ended lastBytes := by
    rw [same]
    exact ended_append [] (encode lastRecord.toJson)
  rw [← same] at read
  have opened : (step lastParse (.page 200) (start lastBytes lastJournal)).run.journal=
      some lastJournal := by
    rw [run_page]
    rfl
  have appends : (step lastParse (.append fixtureRecord) _).run.encoded=_ ∧
      (step lastParse (.append fixtureRecord) _).run.returned=_ :=
    appended_run _ lastJournal opened fixtureRecord
  rw [run_page] at appends
  refine ⟨?_,ended,fun record mem => ?_,fun old along => ?_⟩
  · have accepted : lastSequence "journal.jsonl" [lastRecord]=.ok (2^64-1) := by decide +kernel
    rw [opened_ok "journal.jsonl" lastBytes [] [lastRecord] (2^64-1) read accepted]
    have saturated : max (saturatingNext (2^64-1)) 1=2^64-1 := by decide +kernel
    rw [saturated]
    rfl
  · rw [Run.final_cons,Run.final_cons,Run.final_cons,Run.final_nil,run_page,appends.1] at mem
    rw [List.mem_singleton.mp mem]
    exact if_pos rfl
  · obtain ⟨first,second,third,-⟩ := along
    have begins : readRecords lastParse "journal.jsonl" lastBytes=.ok (old++[]) := first.read
    rw [read,List.nil_append,List.append_nil] at begins
    cases begins
    have increasing := third.increasing
    rw [appends.2] at increasing
    have none : (start lastBytes lastJournal).run.returned=[] := rfl
    rw [none,List.nil_append,List.singleton_append,List.map_cons,List.map_cons,
      numbered_sequence] at increasing
    have apart := (List.pairwise_cons.mp increasing).1 lastJournal.nextSequence
      (List.mem_cons_self ..)
    exact Nat.lt_irrefl _ apart

end Fixture

end JournalPages

end AkuSupervisor
