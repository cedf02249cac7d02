import AkuSupervisor.Lib.Replace
import AkuSupervisor.Adapters.JournalRun

namespace AkuSupervisor

open Replace

/-- Characters that carry more than themselves, and how sanitizing writes one of its own. -/
structure Script (α : Type) where
  key : α → Char
  put : Char → α
  key_put : ∀c,key (put c)=c

namespace Script

def plain : Script Char := ⟨id,id,fun _ => rfl⟩

/-- Each character tells whether sanitizing has put it in. -/
def traced : Script (Char × Bool) := ⟨Prod.fst,fun c => (c,true),fun _ => rfl⟩

variable {α : Type} (s : Script α)

def mark (text : String) : List α := text.toList.map s.put

def redact (knownSecrets : List String) (text : List α) : List α :=
  (knownSecrets.filter (·≠"")).foldl
    (fun text secret => replaceAll s.key secret.toList (s.mark "[REDACTED]") text) text

def bound (maxBytes : Nat) (text : List α) : List α :=
  if byteSize (text.map s.key) ≤ maxBytes then text
  else
    (text.take (takeBytes (maxBytes-"...".utf8ByteSize) (text.map s.key)).length).rdropWhile
      (isWhitespace∘s.key)++s.mark "..."

def oneLine (text : List α) : List α :=
  Words.join (s.put ' ') (Words.words (isWhitespace∘s.key) text)

def trim (text : List α) : List α :=
  (text.dropWhile (isWhitespace∘s.key)).rdropWhile (isWhitespace∘s.key)

/-- A reason as it is kept. -/
def reason (knownSecrets : List String) (text : List α) : List α :=
  let trimmed := s.trim (s.bound Reason.maxBytes (s.redact knownSecrets text))
  if trimmed=[] ∨ Reason.maxBytes < byteSize (trimmed.map s.key) then s.mark "[REDACTED]"
  else trimmed

/-- The detail of an error as it is kept. -/
def detail (knownSecrets : List String) (text : List α) : List α :=
  s.bound maxErrorDetailBytes (s.oneLine (s.redact knownSecrets text))

section Characters

@[simp] theorem map_mark (text : String) : (s.mark text).map s.key=text.toList := by
  have same : s.key∘s.put=id := funext s.key_put
  rw [mark,List.map_map,same,List.map_id]

theorem map_redact (knownSecrets : List String) (text : List α) :
    (s.redact knownSecrets text).map s.key=
      (redactKnownSecrets (String.ofList (text.map s.key)) knownSecrets).toList := by
  unfold redact redactKnownSecrets
  have each : ∀secret∈knownSecrets.filter (·≠""),secret≠"" := by
    intro secret mem
    simpa using (List.mem_filter.mp mem).2
  generalize knownSecrets.filter (·≠"")=secrets at each
  induction secrets generalizing text with
  | nil => simp
  | cons secret secrets ih =>
    have replaced := toList_replace (String.ofList (text.map s.key)) "[REDACTED]"
      (each secret List.mem_cons_self)
    have same : String.ofList ((replaceAll s.key secret.toList (s.mark "[REDACTED]") text).map s.key)=
        (String.ofList (text.map s.key)).replace secret "[REDACTED]" := by
      rw [map_replaceAll,map_mark]
      apply String.toList_injective
      rw [replaced,String.toList_ofList (l := text.map s.key),String.toList_ofList]
    rw [List.foldl_cons,List.foldl_cons,← same]
    exact ih _ fun secret mem => each secret (List.mem_cons_of_mem _ mem)

theorem map_bound (maxBytes : Nat) (text : List α) :
    (s.bound maxBytes text).map s.key=
      (boundedText (String.ofList (text.map s.key)) maxBytes).toList := by
  have size := utf8ByteSize_ofList (text.map s.key)
  have chars : (String.ofList (text.map s.key)).toList=text.map s.key := String.toList_ofList
  unfold bound boundedText
  by_cases short : byteSize (text.map s.key) ≤ maxBytes
  · rw [if_pos short,size,if_pos short,chars]
  · rw [if_neg short,size,if_neg short,chars,List.map_append,map_mark,Words.map_rdropWhile,
      String.toList_append]
    generalize maxBytes-"...".utf8ByteSize=limit
    have taken : (text.take (takeBytes limit (text.map s.key)).length).map s.key=
        takeBytes limit (text.map s.key) := by
      rw [List.map_take]
      exact (List.prefix_iff_eq_take.mp (takeBytes_split _ _).1).symm
    rw [taken,String.toList_ofList (l := (takeBytes limit _).rdropWhile _)]

theorem map_oneLine (text : List α) :
    (s.oneLine text).map s.key=(singleSpaced (String.ofList (text.map s.key))).toList := by
  rw [oneLine,Words.map_join,s.key_put,Words.words,Words.map_wordsFrom,singleSpaced,
    String.toList_ofList,String.toList_ofList]
  rfl

theorem map_trim (text : List α) : (s.trim text).map s.key=trimChars (text.map s.key) := by
  rw [trim,Words.map_rdropWhile,← List.dropWhile_map]
  rfl

theorem map_detail (knownSecrets : List String) (text : List α) :
    (s.detail knownSecrets text).map s.key=
      (sanitizedDetail knownSecrets (String.ofList (text.map s.key))).toList := by
  rw [detail,map_bound,map_oneLine,String.ofList_toList,map_redact,String.ofList_toList]
  rfl

theorem map_reason (knownSecrets : List String) {text : List α} {given : Reason}
    (same : String.ofList (text.map s.key)=given.text) :
    (s.reason knownSecrets text).map s.key=(given.sanitized knownSecrets).text.toList := by
  have trimmed : (s.trim (s.bound Reason.maxBytes (s.redact knownSecrets text))).map s.key=
      trimChars (boundedText (redactKnownSecrets given.text knownSecrets)
        Reason.maxBytes).toList := by
    rw [map_trim,map_bound,map_redact,same,String.ofList_toList]
  rw [reason,Reason.sanitized_eq,Reason.new]
  generalize s.trim (s.bound Reason.maxBytes (s.redact knownSecrets text))=kept at trimmed
  have size := utf8ByteSize_ofList (kept.map s.key)
  simp only [← trimmed]
  by_cases none : kept=[]
  · subst none
    rw [if_pos (.inl rfl),map_mark]
    rfl
  · have some : String.ofList (kept.map s.key)≠"" := by simpa using none
    by_cases long : Reason.maxBytes < byteSize (kept.map s.key)
    · rw [if_pos (.inr long),map_mark,dif_neg some,dif_pos (by rw [size]; exact long)]
      rfl
    · rw [if_neg (by simp [none,long]),dif_neg some,dif_neg (by rw [size]; exact long)]
      exact String.toList_ofList.symm

end Characters

section Blocks

variable {block : List α}

/-- A block that overlaps nothing that sanitizing writes. -/
structure Apart (block : List α) : Prop where
  redacted : ¬Overlaps block (s.mark "[REDACTED]")
  dots : ¬Overlaps block (s.mark "...")
  blank : ¬Overlaps block (s.mark " ")

variable {s} {knownSecrets : List String} {text : List α}

/-- A block that redaction leaves stood in the text, and spells no known secret. -/
theorem of_redact (apart : ¬Overlaps block (s.mark "[REDACTED]"))
    (inside : block <:+: s.redact knownSecrets text) :
    block <:+: text ∧ ∀secret∈knownSecrets,secret≠"" → block.map s.key≠secret.toList := by
  have filtered : ∀secret,secret∈knownSecrets.filter (·≠"") ↔ secret∈knownSecrets ∧ secret≠"" := by
    intro secret
    simp
  suffices left : block <:+: text ∧
      ∀secret∈knownSecrets.filter (·≠""),block.map s.key≠secret.toList from
    ⟨left.1,fun secret mem some => left.2 secret ((filtered secret).mpr ⟨mem,some⟩)⟩
  have each : ∀secret∈knownSecrets.filter (·≠""),secret.toList≠[] := by
    intro secret mem
    simpa using ((filtered secret).mp mem).2
  unfold redact at inside
  clear filtered
  generalize knownSecrets.filter (·≠"")=secrets at each inside
  induction secrets generalizing text with
  | nil => exact ⟨inside,by simp⟩
  | cons secret secrets ih =>
    have rest := ih (fun secret mem => each secret (List.mem_cons_of_mem _ mem)) inside
    have here := infix_replaceAll (each secret List.mem_cons_self) apart rest.1
    refine ⟨here.1,fun found mem => ?_⟩
    rcases List.mem_cons.mp mem with rfl|later
    · intro same
      exact here.2 (same ▸ List.infix_refl _)
    · exact rest.2 found later

theorem of_bound (apart : ¬Overlaps block (s.mark "...")) (some : block≠[]) {maxBytes : Nat}
    (inside : block <:+: s.bound maxBytes text) : block <:+: text := by
  unfold bound at inside
  split_ifs at inside
  · exact inside
  · rw [← List.append_nil (s.mark "...")] at inside
    rcases infix_around apart inside with here|nothing
    · exact here.trans (((List.rdropWhile_prefix _ _).trans (List.take_prefix _ _)).isInfix)
    · exact absurd (List.infix_nil.mp nothing) some

theorem of_oneLine (apart : ¬Overlaps block (s.mark " ")) (some : block≠[])
    (inside : block <:+: s.oneLine text) : block <:+: text := by
  have words := Words.words_infix (isWhitespace∘s.key) text
  unfold oneLine at inside
  generalize Words.words (isWhitespace∘s.key) text=ws at words inside
  induction ws with
  | nil => exact absurd (List.infix_nil.mp inside) some
  | cons w ws ih =>
    by_cases more : ws=[]
    · subst more
      rw [Words.join,List.intercalate_singleton] at inside
      exact inside.trans (words w List.mem_cons_self)
    · rw [Words.join_cons w ws more] at inside
      rcases infix_around apart inside with here|later
      · exact here.trans (words w List.mem_cons_self)
      · exact ih (fun v mem => words v (List.mem_cons_of_mem w mem)) later

theorem of_trim (inside : block <:+: s.trim text) : block <:+: text :=
  inside.trans ((List.rdropWhile_prefix _ _).isInfix.trans (List.dropWhile_suffix _).isInfix)

/-- Such a block spells no known secret in what is kept of a reason. -/
theorem Apart.clear_reason (apart : s.Apart block) (some : block≠[])
    (inside : block <:+: s.reason knownSecrets text) :
    ∀secret∈knownSecrets,secret≠"" → block.map s.key≠secret.toList := by
  unfold reason at inside
  simp only at inside
  split_ifs at inside
  · exact absurd (.inl inside) apart.redacted
  · exact (of_redact apart.redacted (of_bound apart.dots some (of_trim inside))).2

theorem Apart.clear_detail (apart : s.Apart block) (some : block≠[])
    (inside : block <:+: s.detail knownSecrets text) :
    ∀secret∈knownSecrets,secret≠"" → block.map s.key≠secret.toList :=
  (of_redact apart.redacted (of_oneLine apart.blank some (of_bound apart.dots some inside))).2

end Blocks

/-- Redaction leaves a text as it is that holds no known secret. -/
theorem redact_free {knownSecrets : List String} {text : List α}
    (free : ∀secret∈knownSecrets,secret≠"" → ¬secret.toList <:+: text.map s.key) :
    s.redact knownSecrets text=text := by
  have each : ∀secret∈knownSecrets.filter (·≠""),¬secret.toList <:+: text.map s.key := by
    intro secret mem
    obtain ⟨known,some⟩ := List.mem_filter.mp mem
    exact free secret known (by simpa using some)
  unfold redact
  generalize knownSecrets.filter (·≠"")=secrets at each
  induction secrets with
  | nil => rfl
  | cons secret secrets ih =>
    rw [List.foldl_cons,replaceAll_absent (each secret List.mem_cons_self)]
    exact ih fun secret mem => each secret (List.mem_cons_of_mem _ mem)

theorem plain_mark (text : String) : plain.mark text=text.toList := List.map_id _

theorem plain_key (text : List Char) : text.map plain.key=text := List.map_id _

end Script

/-- The texts that sanitizing writes as they are given. -/
def JournalRecord.textsAsGiven (record : JournalRecord) : List String :=
  [record.timestamp,record.supervisorInstanceId,record.serviceId,record.action.label,
    record.actor.identity.1,record.actor.identity.2,record.previousState.label,
    record.resultingState.label,record.result.label]++
  (record.errorCategory.map ErrorCategory.label).toList++
  (record.shutdown.bind TreeStopReport.gracefulSignalError).toList++
  [record.configFingerprint]

/-- The text fields of the JSON of a record. -/
def JournalRecord.texts (record : JournalRecord) : List String :=
  record.textsAsGiven++record.reason.text::record.errorDetail.toList

/-- A text none of whose characters sanitizing has put in. -/
def given (text : String) : List (Char × Bool) := text.toList.map (·,false)

/-- Characters that sanitizing has put in help to spell the secret. -/
def Straddles (secret : String) (text : List (Char × Bool)) : Prop :=
  ∃block,block <:+: text ∧ block.map Prod.fst=secret.toList ∧ ∃c∈block,c.2=true

section Secrets

variable {knownSecrets : List String} {secret : String}

theorem ofList_given (text : String) :
    String.ofList ((given text).map Script.traced.key)=text := by
  have same : Prod.fst∘(fun c : Char => (c,false))=id := rfl
  rw [given,List.map_map]
  show String.ofList (text.toList.map (Prod.fst∘fun c : Char => (c,false)))=text
  rw [same,List.map_id,String.ofList_toList]

/-- A block of given characters overlaps nothing that sanitizing writes. -/
theorem apart_given {block : List (Char × Bool)} (some : block≠[])
    (unmarked : ∀c∈block,c.2=false) : Script.traced.Apart block := by
  have clear (text : String) (nonempty : text≠"") :
      ¬Overlaps block (Script.traced.mark text) := by
    refine not_overlaps some (by simpa [Script.mark] using nonempty) fun c mem marked => ?_
    obtain ⟨d,-,rfl⟩ := List.mem_map.mp marked
    have one := unmarked _ mem
    cases one
  exact ⟨clear _ (by decide),clear _ (by decide),clear _ (by decide)⟩

/-- A secret is spelled in a sanitized text if characters that sanitizing has put in help to. -/
theorem occurs_iff_straddles {text : List (Char × Bool)} (nonempty : secret≠"")
    (clear : ∀block,Script.traced.Apart block → block≠[] → block <:+: text →
      block.map Prod.fst≠secret.toList) :
    secret.toList <:+: text.map Prod.fst ↔ Straddles secret text := by
  constructor
  · intro inside
    obtain ⟨block,there,same⟩ := List.infix_map_iff.mp inside
    by_contra straight
    have unmarked : ∀c∈block,c.2=false := by
      intro c mem
      by_contra put
      exact straight ⟨block,there,same.symm,c,mem,by simpa using put⟩
    have some : block≠[] := by
      intro none
      rw [none] at same
      exact nonempty (by simpa using same)
    exact clear block (apart_given some unmarked) some there same.symm
  · intro ⟨block,there,same,_⟩
    exact same ▸ there.map Prod.fst

theorem occurs_reason_iff (mem : secret∈knownSecrets) (nonempty : secret≠"") (reason : Reason) :
    secret.toList <:+: (reason.sanitized knownSecrets).text.toList ↔
      Straddles secret (Script.traced.reason knownSecrets (given reason.text)) := by
  rw [← occurs_iff_straddles nonempty fun block apart some inside =>
    apart.clear_reason some inside secret mem nonempty]
  rw [← Script.map_reason Script.traced knownSecrets (ofList_given reason.text)]
  rfl

theorem occurs_detail_iff (mem : secret∈knownSecrets) (nonempty : secret≠"") (detail : String) :
    secret.toList <:+: (sanitizedDetail knownSecrets detail).toList ↔
      Straddles secret (Script.traced.detail knownSecrets (given detail)) := by
  rw [← occurs_iff_straddles nonempty fun block apart some inside =>
    apart.clear_detail some inside secret mem nonempty]
  have chars := Script.map_detail Script.traced knownSecrets (given detail)
  rw [ofList_given] at chars
  rw [← chars]
  rfl

theorem toList_reason (reason : Reason) :
    (reason.sanitized knownSecrets).text.toList=
      Script.plain.reason knownSecrets reason.text.toList := by
  have given : String.ofList (reason.text.toList.map Script.plain.key)=reason.text := by
    rw [Script.plain_key,String.ofList_toList]
  rw [← Script.map_reason Script.plain knownSecrets given,Script.plain_key]

theorem toList_detail (detail : String) :
    (sanitizedDetail knownSecrets detail).toList=
      Script.plain.detail knownSecrets detail.toList := by
  have chars := Script.map_detail Script.plain knownSecrets detail.toList
  rw [Script.plain_key,Script.plain_key,String.ofList_toList] at chars
  exact chars.symm

/-- No known secret stands in the text. -/
def SecretFree (knownSecrets : List String) (text : String) : Prop :=
  ∀secret∈knownSecrets,secret≠"" → ¬secret.toList <:+: text.toList

/-- Every whitespace of the text is one blank between two words. -/
def SingleBlanks (text : String) : Prop :=
  Words.Spaced isWhitespace ' ' text.toList ∧
    (text.toList=[] ∨ Words.Starts isWhitespace text.toList)

/-- A secret that overlaps a mark asks for a reason into which no mark is put. -/
def SparesReason (knownSecrets : List String) (secret : String) (reason : Reason) : Prop :=
  Overlaps secret.toList "[REDACTED]".toList ∨ Overlaps secret.toList "...".toList →
    SecretFree knownSecrets reason.text ∧ FileJournal.isBlank reason.text=false

/-- A secret that overlaps a mark asks for a detail into which that mark is not put: neither the one
of redaction, nor that of a cut, nor the blank that stands for other whitespace. -/
structure SparesDetail (knownSecrets : List String) (secret detail : String) : Prop where
  redacted : Overlaps secret.toList "[REDACTED]".toList → SecretFree knownSecrets detail
  dots : Overlaps secret.toList "...".toList →
    SecretFree knownSecrets detail ∧ detail.utf8ByteSize ≤ maxErrorDetailBytes
  blank : ' '∈secret.toList →
    SecretFree knownSecrets detail ∧ SingleBlanks detail

theorem SecretFree.redact {text : String} (free : SecretFree knownSecrets text) :
    Script.plain.redact knownSecrets text.toList=text.toList :=
  Script.plain.redact_free fun secret mem some => by
    rw [Script.plain_key]
    exact free secret mem some

theorem SparesReason.clear {reason : Reason} (spares : SparesReason knownSecrets secret reason)
    (mem : secret∈knownSecrets) (nonempty : secret≠"") :
    ¬secret.toList <:+: (reason.sanitized knownSecrets).text.toList := by
  have some : secret.toList≠[] := by simpa using nonempty
  intro inside
  rw [toList_reason,Script.reason] at inside
  by_cases touched : Overlaps secret.toList "[REDACTED]".toList ∨
      Overlaps secret.toList "...".toList
  · obtain ⟨free,filled⟩ := spares touched
    have size : byteSize (reason.text.toList.map Script.plain.key) ≤ Reason.maxBytes := by
      rw [Script.plain_key,← utf8ByteSize_ofList,String.ofList_toList]
      exact reason.bounded
    have trimmed : Script.plain.trim reason.text.toList <:+: reason.text.toList :=
      Script.of_trim (List.infix_refl _)
    rw [free.redact,Script.bound,if_pos size] at inside
    split_ifs at inside with refused
    · rcases refused with empty|long
      · have same := Script.map_trim Script.plain reason.text.toList
        rw [Script.plain_key,Script.plain_key,empty] at same
        rw [FileJournal.isBlank,← same] at filled
        cases filled
      · obtain ⟨front,behind,whole⟩ := trimmed
        rw [Script.plain_key,← whole,byteSize_append,byteSize_append] at size
        rw [Script.plain_key] at long
        omega
    · exact free secret mem nonempty (inside.trans trimmed)
  · obtain ⟨redacted,dots⟩ := not_or.mp touched
    rw [← Script.plain_mark "[REDACTED]"] at redacted
    rw [← Script.plain_mark "..."] at dots
    split_ifs at inside
    · exact redacted (.inl inside)
    · have whole := Script.of_bound dots some (Script.of_trim inside)
      exact (Script.of_redact redacted whole).2 secret mem nonempty (Script.plain_key _)

theorem SparesDetail.clear {detail : String} (spares : SparesDetail knownSecrets secret detail)
    (mem : secret∈knownSecrets) (nonempty : secret≠"") :
    ¬secret.toList <:+: (sanitizedDetail knownSecrets detail).toList := by
  have some : secret.toList≠[] := by simpa using nonempty
  intro inside
  rw [toList_detail,Script.detail] at inside
  have line : secret.toList <:+:
      Script.plain.oneLine (Script.plain.redact knownSecrets detail.toList) := by
    by_cases dots : Overlaps secret.toList "...".toList
    · obtain ⟨free,short⟩ := spares.dots dots
      have size : byteSize ((Script.plain.oneLine detail.toList).map Script.plain.key) ≤
          maxErrorDetailBytes := by
        have joined := byteSize_join [] detail.toList
        rw [List.nil_append,← utf8ByteSize_ofList detail.toList,String.ofList_toList] at joined
        rw [Script.plain_key]
        exact Nat.le_trans joined short
      rw [free.redact] at inside ⊢
      rwa [Script.bound,if_pos size] at inside
    · rw [← Script.plain_mark "..."] at dots
      exact Script.of_bound dots some inside
  have left : secret.toList <:+: Script.plain.redact knownSecrets detail.toList := by
    by_cases blank : ' '∈secret.toList
    · obtain ⟨free,spaced,starts⟩ := spares.blank blank
      have kept : Script.plain.oneLine detail.toList=detail.toList :=
        Words.join_wordsFrom [] _ spaced fun _ => starts
      rw [free.redact] at line ⊢
      rwa [kept] at line
    · refine Script.of_oneLine (not_overlaps some (by simp [Script.mark]) fun c here there => ?_)
        some line
      have same : c= ' ' := by simpa [Script.plain_mark] using there
      exact blank (same ▸ here)
  by_cases redacted : Overlaps secret.toList "[REDACTED]".toList
  · have free := spares.redacted redacted
    rw [free.redact] at left
    exact free secret mem nonempty left
  · rw [← Script.plain_mark "[REDACTED]"] at redacted
    exact (Script.of_redact redacted left).2 secret mem nonempty (Script.plain_key _)

end Secrets

variable (journal : FileJournal) (record : JournalRecord)

theorem texts_numbered : (journal.numbered record).texts=
    record.textsAsGiven++(record.reason.sanitized journal.knownSecrets).text::
      (record.errorDetail.map (sanitizedDetail journal.knownSecrets)).toList := rfl

/-- No known secret is in a text that is persisted just if none is in a text that is written as it is
given, and none is spelled in the reason or the detail with the help of characters that sanitizing
puts in. -/
theorem secretFree_iff :
    (∀text∈(journal.numbered record).texts,SecretFree journal.knownSecrets text) ↔
      (∀text∈record.textsAsGiven,SecretFree journal.knownSecrets text) ∧
      ∀secret∈journal.knownSecrets,secret≠"" →
        ¬Straddles secret
          (Script.traced.reason journal.knownSecrets (given record.reason.text)) ∧
        ∀detail∈record.errorDetail,
          ¬Straddles secret (Script.traced.detail journal.knownSecrets (given detail)) := by
  have reason : SecretFree journal.knownSecrets (record.reason.sanitized journal.knownSecrets).text ↔
      ∀secret∈journal.knownSecrets,secret≠"" → ¬Straddles secret
        (Script.traced.reason journal.knownSecrets (given record.reason.text)) :=
    forall_congr' fun secret => forall_congr' fun mem => forall_congr' fun nonempty =>
      not_congr (occurs_reason_iff mem nonempty record.reason)
  have detail (text : String) : SecretFree journal.knownSecrets
      (sanitizedDetail journal.knownSecrets text) ↔ ∀secret∈journal.knownSecrets,secret≠"" →
        ¬Straddles secret (Script.traced.detail journal.knownSecrets (given text)) :=
    forall_congr' fun secret => forall_congr' fun mem => forall_congr' fun nonempty =>
      not_congr (occurs_detail_iff mem nonempty text)
  rw [texts_numbered]
  simp only [List.mem_append,List.mem_cons,Option.mem_toList,or_imp,forall_and,forall_eq,reason]
  cases record.errorDetail with
  | none => simp
  | some original => simp [detail original]

/-- A reason and a detail that repeat a secret. -/
def fixtureRepeated : JournalRecord :=
  { JournalRun.fixtureRecord with
    reason := ⟨"token-4f1c expired",by decide,by decide⟩
    errorDetail := some "refused:\ntoken-4f1c" }

/-- A service whose graceful stop failed with a message that repeats a secret. -/
def fixtureLeak : JournalRecord :=
  { JournalRun.fixtureRecord with
    shutdown := some ⟨[1000],[],false,some "CTRL_BREAK was refused for token-4f1c",true⟩ }

/-- The end of the mark and the character behind it spell the secret again. -/
example : Straddles "]x" (Script.traced.reason ["]x"] (given "]xx")) :=
  ⟨[(']',true),('x',false)],⟨"[REDACTED".toList.map (·,true),[],by decide⟩,by decide,
    (']',true),by decide⟩

end AkuSupervisor
