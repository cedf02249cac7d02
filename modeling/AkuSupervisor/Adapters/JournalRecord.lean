import AkuSupervisor.Lib.JsonText
import AkuSupervisor.Lib.TextLines
import AkuSupervisor.Lib.Words
import AkuSupervisor.Domain.Control
import AkuSupervisor.Domain.Lifecycle
import AkuSupervisor.Application.PlatformPorts

namespace AkuSupervisor

/-- Canonical lifecycle operation result. -/
inductive JournalResult where
  | success
  | failure
  deriving DecidableEq

/-- Stable error categories exposed across every control adapter. -/
inductive ErrorCategory where
  | configInvalid
  | alreadyRunning
  | alreadyStopped
  | portConflictExternal
  | spawnFailed
  | startupTimeout
  | healthFailed
  | shutdownTimeout
  | ownershipLost
  | processExited
  | unauthorized
  | supervisorInternalError
  deriving DecidableEq

/-- Audited lifecycle event, including observations not initiated by a control mutation. -/
inductive JournalAction where
  | start
  | stop
  | restart
  | processExit
  deriving DecidableEq

/-- One deterministic lifecycle record, kept as one line of JSON. -/
structure JournalRecord where
  sequence : Nat
  timestamp : String
  supervisorInstanceId : String
  serviceId : String
  action : JournalAction
  actor : Actor
  reason : Reason
  previousState : LifecycleState
  resultingState : LifecycleState
  ownedPidsBefore : List Nat
  ownedPidsAfter : List Nat
  result : JournalResult
  errorCategory : Option ErrorCategory
  errorDetail : Option String
  exitCode : Option Int
  automaticRestartPlanned : Option Bool
  deferredRestartPlanned : Option Bool
  shutdown : Option TreeStopReport
  configFingerprint : String
  deriving DecidableEq

section Serialization

def Actor.toJson (self : Actor) : String :=
  JsonText.object [("actorType",JsonText.string self.identity.1),("actorId",JsonText.string self.identity.2)]

def LifecycleState.label : LifecycleState → String
  | .stopped => "stopped"
  | .starting => "starting"
  | .running => "running"
  | .stopping => "stopping"
  | .terminationPending => "termination_pending"
  | .unhealthy => "unhealthy"
  | .failed => "failed"

def JournalAction.label : JournalAction → String
  | .start => "start"
  | .stop => "stop"
  | .restart => "restart"
  | .processExit => "process_exit"

def JournalResult.label : JournalResult → String
  | .success => "success"
  | .failure => "failure"

def ErrorCategory.label : ErrorCategory → String
  | .configInvalid => "config_invalid"
  | .alreadyRunning => "already_running"
  | .alreadyStopped => "already_stopped"
  | .portConflictExternal => "port_conflict_external"
  | .spawnFailed => "spawn_failed"
  | .startupTimeout => "startup_timeout"
  | .healthFailed => "health_failed"
  | .shutdownTimeout => "shutdown_timeout"
  | .ownershipLost => "ownership_lost"
  | .processExited => "process_exited"
  | .unauthorized => "unauthorized"
  | .supervisorInternalError => "supervisor_internal_error"

def pidsJson (pids : List Nat) : String := JsonText.array (pids.map toString)

def TreeStopReport.toJson (self : TreeStopReport) : String :=
  JsonText.object [
    ("ownedPidsBefore",pidsJson self.ownedPidsBefore),
    ("ownedPidsAfter",pidsJson self.ownedPidsAfter),
    ("gracefulSignalSent",JsonText.bool self.gracefulSignalSent),
    ("gracefulSignalError",JsonText.option (self.gracefulSignalError.map JsonText.string)),
    ("forced",JsonText.bool self.forced)]

namespace JournalRecord

def jsonFields (self : JournalRecord) : List (String × String) :=
  [("sequence",toString self.sequence),
    ("timestamp",JsonText.string self.timestamp),
    ("supervisorInstanceId",JsonText.string self.supervisorInstanceId),
    ("serviceId",JsonText.string self.serviceId),
    ("action",JsonText.string self.action.label),
    ("actor",self.actor.toJson),
    ("reason",JsonText.string self.reason.text),
    ("previousState",JsonText.string self.previousState.label),
    ("resultingState",JsonText.string self.resultingState.label),
    ("ownedPidsBefore",pidsJson self.ownedPidsBefore),
    ("ownedPidsAfter",pidsJson self.ownedPidsAfter),
    ("result",JsonText.string self.result.label),
    ("errorCategory",JsonText.option (self.errorCategory.map fun category =>
      JsonText.string category.label))]++
  JsonText.optionalField "errorDetail" (self.errorDetail.map JsonText.string)++
  JsonText.optionalField "exitCode" (self.exitCode.map toString)++
  JsonText.optionalField "automaticRestartPlanned"
    (self.automaticRestartPlanned.map JsonText.bool)++
  JsonText.optionalField "deferredRestartPlanned"
    (self.deferredRestartPlanned.map JsonText.bool)++
  JsonText.optionalField "shutdown" (self.shutdown.map TreeStopReport.toJson)++
  [("configFingerprint",JsonText.string self.configFingerprint)]

def toJson (self : JournalRecord) : String := JsonText.object self.jsonFields

theorem toJson_singleLine (self : JournalRecord) : JsonText.SingleLine self.toJson := by
  have pids (list : List Nat) : JsonText.SingleLine (pidsJson list) :=
    JsonText.singleLine_array _ (by simp)
  have actor : JsonText.SingleLine self.actor.toJson :=
    JsonText.singleLine_object _ (by simp)
  have report (r : TreeStopReport) : JsonText.SingleLine r.toJson :=
    JsonText.singleLine_object _ (by
      simp [pids,JsonText.singleLine_option])
  refine JsonText.singleLine_object _ fun field mem => ?_
  simp only [jsonFields,List.mem_append] at mem
  rcases mem with (((((required|detail)|exit)|automatic)|deferred)|shutdown)|last
  · simp only [List.mem_cons,List.not_mem_nil,or_false] at required
    rcases required with rfl|rfl|rfl|rfl|rfl|rfl|rfl|rfl|rfl|rfl|rfl|rfl|rfl
    all_goals simp [pids,actor,JsonText.singleLine_option]
  · exact JsonText.singleLine_optionalField _ _ _ JsonText.singleLine_string field detail
  · exact JsonText.singleLine_optionalField _ _ _ JsonText.singleLine_int field exit
  · exact JsonText.singleLine_optionalField _ _ _ JsonText.singleLine_bool field automatic
  · exact JsonText.singleLine_optionalField _ _ _ JsonText.singleLine_bool field deferred
  · exact JsonText.singleLine_optionalField _ _ _ report field shutdown
  · cases List.mem_singleton.mp last
    exact JsonText.singleLine_string _

end JournalRecord

end Serialization

section Sanitizing

/-- Every known secret that is not empty is replaced. -/
def redactKnownSecrets (value : String) (knownSecrets : List String) : String :=
  (knownSecrets.filter (·≠"")).foldl (fun text secret => text.replace secret "[REDACTED]") value

/-- The longest start of the characters that takes at most `limit` bytes. -/
def takeBytes (limit : Nat) : List Char → List Char
  | [] => []
  | c::cs => if c.utf8Size≤limit then c::takeBytes (limit-c.utf8Size) cs else []

/-- A text of at most `maxBytes` bytes: a longer one is cut between two characters and marked. -/
def boundedText (value : String) (maxBytes : Nat) : String :=
  if value.utf8ByteSize ≤ maxBytes then value
  else
    let limit := maxBytes-"...".utf8ByteSize
    String.ofList ((takeBytes limit value.toList).rdropWhile isWhitespace)++"..."

def maxErrorDetailBytes : Nat := 512

/-- The words of a text with one blank between them. -/
def singleSpaced (value : String) : String :=
  String.ofList (Words.join ' ' (Words.words isWhitespace value.toList))

def boundedErrorDetail (value : String) : String :=
  boundedText (singleSpaced value) maxErrorDetailBytes

def Reason.redacted : Reason := ⟨"[REDACTED]",by decide,by decide⟩

/-- The redacted, bounded reason; one that leaves nothing valid is replaced altogether. -/
def Reason.sanitized (self : Reason) (knownSecrets : List String) : Reason :=
  match Reason.new
      (boundedText (redactKnownSecrets self.text knownSecrets) Reason.maxBytes) with
  | .ok reason => reason
  | .error _ => Reason.redacted

def sanitizedDetail (knownSecrets : List String) (detail : String) : String :=
  boundedErrorDetail (redactKnownSecrets detail knownSecrets)

def JournalRecord.sanitized (self : JournalRecord) (knownSecrets : List String) :
    JournalRecord :=
  { self with
    reason := self.reason.sanitized knownSecrets
    errorDetail := self.errorDetail.map (sanitizedDetail knownSecrets) }

/-- Exactly one record, with the newline that ends its line. -/
def JournalRecord.toJsonLine (self : JournalRecord) (knownSecrets : List String) : String :=
  (self.sanitized knownSecrets).toJson++"\n"

/-- How many bytes the characters take. -/
def byteSize : List Char → Nat
  | [] => 0
  | c::cs => c.utf8Size+byteSize cs

theorem byteSize_append (cs ds : List Char) : byteSize (cs++ds)=byteSize cs+byteSize ds := by
  induction cs with
  | nil => simp [byteSize]
  | cons c cs ih =>
    simp only [List.cons_append,byteSize,ih]
    omega

theorem utf8ByteSize_ofList (cs : List Char) : (String.ofList cs).utf8ByteSize=byteSize cs := by
  induction cs with
  | nil => rfl
  | cons c cs ih =>
    rw [← List.singleton_append,String.ofList_append,String.utf8ByteSize_append,ih,
      byteSize_append]
    simp [byteSize]

theorem takeBytes_split (limit : Nat) (cs : List Char) :
    takeBytes limit cs<+:cs ∧ byteSize (takeBytes limit cs)≤limit := by
  induction cs generalizing limit with
  | nil => exact ⟨List.prefix_refl _,Nat.zero_le _⟩
  | cons c cs ih =>
    rw [takeBytes]
    split_ifs with fits
    · obtain ⟨start,size⟩ := ih (limit-c.utf8Size)
      refine ⟨List.cons_prefix_cons.mpr ⟨rfl,start⟩,?_⟩
      have total : byteSize (c::takeBytes (limit-c.utf8Size) cs)=
          c.utf8Size+byteSize (takeBytes (limit-c.utf8Size) cs) := rfl
      omega
    · exact ⟨List.nil_prefix,Nat.zero_le _⟩

theorem byteSize_prefix {cs ds : List Char} (h : cs<+:ds) : byteSize cs≤byteSize ds := by
  obtain ⟨rest,rfl⟩ := h
  rw [byteSize_append]
  omega

/-- Where the characters start, counted from `index`. -/
def charIndices (index : Nat) : List Char → List Nat
  | [] => []
  | c::cs => index::charIndices (index+c.utf8Size) cs

/-- The last index up to the limit at which a character starts. -/
def boundary (limit : Nat) (cs : List Char) : Nat :=
  ((charIndices 0 cs).takeWhile (· ≤ limit)).getLast?.getD 0

theorem charIndices_takeBytes (index limit : Nat) (cs : List Char) (long : limit < byteSize cs) :
    ((charIndices index cs).takeWhile (· ≤ index+limit)).getLast?.getD index=
      index+byteSize (takeBytes limit cs) := by
  induction cs generalizing index limit with
  | nil => simp [charIndices,takeBytes,byteSize]
  | cons c cs ih =>
    rw [charIndices,List.takeWhile_cons_of_pos (by simp),takeBytes]
    by_cases fits : c.utf8Size≤limit
    · have total : byteSize (c::cs)=c.utf8Size+byteSize cs := rfl
      have rest := ih (index+c.utf8Size) (limit-c.utf8Size) (by omega)
      rw [Nat.add_assoc,Nat.add_sub_cancel' fits] at rest
      rw [if_pos fits,byteSize,← Nat.add_assoc,← rest]
      cases cs with
      | nil =>
        have none : byteSize []=0 := rfl
        omega
      | cons d ds =>
        rw [charIndices,List.takeWhile_cons_of_pos (by simpa using fits)]
        simp [List.getLast?_cons]
    · rw [if_neg fits]
      cases cs with
      | nil => simp [charIndices,byteSize]
      | cons d ds =>
        rw [charIndices,List.takeWhile_cons_of_neg (by simpa using fits)]
        simp [byteSize]

/-- A text that is too long is cut where the last character within the limit starts. -/
theorem boundary_takeBytes (limit : Nat) (cs : List Char) (long : limit < byteSize cs) :
    boundary limit cs=byteSize (takeBytes limit cs) := by
  have counted := charIndices_takeBytes 0 limit cs long
  simpa [boundary] using counted

theorem encode_length (cs : List Char) :
    (TextLines.encode (String.ofList cs)).length=byteSize cs := by
  induction cs with
  | nil => rfl
  | cons c cs ih =>
    rw [TextLines.encode,String.toList_ofList] at ih ⊢
    rw [List.flatMap_cons,List.length_append,ih,String.length_utf8EncodeChar]
    rfl

/-- The bytes before the boundary are whole characters. -/
theorem slice_boundary (limit : Nat) (value : String) (long : limit < byteSize value.toList) :
    TextLines.decode ((TextLines.encode value).take (boundary limit value.toList))=
      some (String.ofList (takeBytes limit value.toList)) := by
  obtain ⟨rest,split⟩ := (takeBytes_split limit value.toList).1
  have parts : value=String.ofList (takeBytes limit value.toList)++String.ofList rest := by
    rw [← String.ofList_append,split,String.ofList_toList]
  have bytes : TextLines.encode value=
      TextLines.encode (String.ofList (takeBytes limit value.toList))++
        TextLines.encode (String.ofList rest) := by
    rw [← TextLines.encode_append,← parts]
  rw [boundary_takeBytes limit _ long,bytes,← encode_length,List.take_left,
    TextLines.decode_encode]

theorem boundedText_size (value : String) (maxBytes : Nat) (room : 3 ≤ maxBytes) :
    (boundedText value maxBytes).utf8ByteSize ≤ maxBytes := by
  unfold boundedText
  split_ifs with short
  · exact short
  · rw [String.utf8ByteSize_append,utf8ByteSize_ofList]
    have cut := (takeBytes_split (maxBytes-"...".utf8ByteSize) value.toList).2
    have trimmed := byteSize_prefix (List.rdropWhile_prefix isWhitespace
      (l := takeBytes (maxBytes-"...".utf8ByteSize) value.toList))
    have mark : "...".utf8ByteSize=3 := by decide
    omega

theorem boundedText_short (value : String) (maxBytes : Nat)
    (short : value.utf8ByteSize ≤ maxBytes) :
    boundedText value maxBytes=value := if_pos short

/-- A text within its bound: the given one, or what stands in it before a character, without the
blanks at the end and with a mark. -/
structure Bounds (value bounded : String) (maxBytes : Nat) : Prop where
  size : bounded.utf8ByteSize ≤ maxBytes
  cut : bounded=value ∨ ∃kept,
    TextLines.decode ((TextLines.encode value).take (boundary (maxBytes-3) value.toList))=
        some kept ∧
      bounded=String.ofList (kept.toList.rdropWhile isWhitespace)++"..."

theorem boundedText_bounds (value : String) (maxBytes : Nat) (room : 3 ≤ maxBytes) :
    Bounds value (boundedText value maxBytes) maxBytes := by
  refine ⟨boundedText_size value maxBytes room,?_⟩
  unfold boundedText
  split_ifs with short
  · exact .inl rfl
  · have size := utf8ByteSize_ofList value.toList
    rw [String.ofList_toList] at size
    refine .inr ⟨_,slice_boundary (maxBytes-3) value (by omega),?_⟩
    rw [String.toList_ofList]
    rfl

/-- A bounded detail is one line of single-spaced words already. -/
theorem singleSpaced_bounded (value : String) :
    singleSpaced (boundedErrorDetail value)=boundedErrorDetail value := by
  unfold boundedErrorDetail boundedText
  split_ifs with short
  · unfold singleSpaced
    rw [String.toList_ofList,Words.join_words_join]
  · obtain ⟨rest,split⟩ := (takeBytes_split (maxErrorDetailBytes-"...".utf8ByteSize)
      (singleSpaced value).toList).1
    rw [singleSpaced] at split
    have clear : ∀c∈['.','.','.'],isWhitespace c=false := by
      intro c mem
      simp only [List.mem_cons,List.not_mem_nil,or_false,or_self] at mem
      subst mem
      rfl
    have again := Words.join_words_cut isWhitespace ' ' ['.','.','.']
      ((String.toList_ofList).symm.trans split.symm) (by simp) clear
    unfold singleSpaced
    rw [String.toList_append,String.toList_ofList]
    exact (congrArg String.ofList again).trans String.ofList_append

theorem boundedErrorDetail_bounded (value : String) :
    boundedErrorDetail (boundedErrorDetail value)=boundedErrorDetail value := by
  have size := boundedText_size (singleSpaced value) maxErrorDetailBytes (by decide)
  rw [boundedErrorDetail,singleSpaced_bounded]
  exact boundedText_short _ _ size

/-- What `Reason.new` returns it returns again. -/
theorem Reason.new_text (value : String) (reason : Reason) (made : Reason.new value=.ok reason) :
    Reason.new reason.text=.ok reason := by
  have text : reason.text=String.ofList (trimChars value.toList) := by
    unfold Reason.new at made
    simp only at made
    split_ifs at made
    cases made
    rfl
  have trimmed : String.ofList (trimChars reason.text.toList)=reason.text := by
    rw [text,String.toList_ofList]
    exact congrArg String.ofList (Words.trim_trim value.toList)
  have some := reason.nonempty
  have short := Nat.not_lt.mpr reason.bounded
  unfold Reason.new
  simp only [trimmed]
  rw [dif_neg some,dif_neg short]

theorem boundedErrorDetail_bounds (value : String) :
    Bounds (singleSpaced value) (boundedErrorDetail value) maxErrorDetailBytes := by
  have room : 3 ≤ maxErrorDetailBytes := by decide
  rw [boundedErrorDetail]
  exact boundedText_bounds (singleSpaced value) maxErrorDetailBytes room

/-- One blank for every run of whitespace makes no text longer. -/
theorem byteSize_join (current cs : List Char) :
    byteSize (Words.join ' ' (Words.wordsFrom isWhitespace current cs))≤
      byteSize (current++cs) := by
  induction cs generalizing current with
  | nil => cases current <;> simp [Words.wordsFrom,Words.join]
  | cons c cs ih =>
    have rest := ih []
    have one := Char.utf8Size_pos c
    rw [List.nil_append] at rest
    rw [Words.wordsFrom,byteSize_append,byteSize]
    split_ifs with blank empty
    · omega
    · by_cases last : Words.wordsFrom isWhitespace [] cs=[]
      · rw [last]
        simp only [Words.join,List.intercalate_singleton]
        omega
      · have single : byteSize (' '::Words.join ' ' (Words.wordsFrom isWhitespace [] cs))=
            1+byteSize (Words.join ' ' (Words.wordsFrom isWhitespace [] cs)) := rfl
        rw [Words.join_cons _ _ last,byteSize_append,single]
        omega
    · have grown := ih (current++[c])
      rw [byteSize_append,byteSize_append] at grown
      simp only [byteSize] at grown
      omega

theorem singleSpaced_blank (value : String) (c : Char) (mem : c∈(singleSpaced value).toList)
    (blank : isWhitespace c=true) : c = ' ' := by
  have proper := Words.wordsFrom_word isWhitespace [] value.toList (by simp)
  rw [singleSpaced,String.toList_ofList] at mem
  exact (Words.join_spaced ' ' _ proper).1.eq_sep c mem blank

/-- All whitespace of a bounded detail is single blanks. -/
theorem boundedErrorDetail_blank (value : String) (c : Char)
    (mem : c∈(boundedErrorDetail value).toList) (blank : isWhitespace c=true) : c = ' ' := by
  rw [← singleSpaced_bounded] at mem
  exact singleSpaced_blank _ c mem blank

@[simp] theorem redactKnownSecrets_nil (value : String) : redactKnownSecrets value []=value := rfl

theorem sanitizedDetail_sanitizedDetail (knownSecrets : List String) (detail : String) :
    sanitizedDetail [] (sanitizedDetail knownSecrets detail)=
      sanitizedDetail knownSecrets detail := by
  rw [sanitizedDetail,redactKnownSecrets_nil,sanitizedDetail,boundedErrorDetail_bounded]

theorem Reason.sanitized_sanitized (self : Reason) (knownSecrets : List String) :
    (self.sanitized knownSecrets).sanitized []=self.sanitized knownSecrets := by
  have again : Reason.new (self.sanitized knownSecrets).text=
      .ok (self.sanitized knownSecrets) := by
    unfold sanitized
    split
    · rename_i reason made
      exact Reason.new_text _ reason made
    · decide
  have short := boundedText_short _ _ (self.sanitized knownSecrets).bounded
  rw [sanitized,redactKnownSecrets_nil,short,again]

/-- How a record is kept: its reason and the detail of its error redacted and bounded, and the
detail as a single line. -/
structure JournalRecord.Keeps (record kept : JournalRecord) (knownSecrets : List String) :
    Prop where
  reasonSize : kept.reason.text.utf8ByteSize ≤ Reason.maxBytes
  reason : ∃bounded,
    Bounds (redactKnownSecrets record.reason.text knownSecrets) bounded Reason.maxBytes ∧
      kept.reason=(Reason.new bounded).toOption.getD Reason.redacted
  details : kept.errorDetail.isSome=record.errorDetail.isSome
  detail : ∀original∈record.errorDetail,∀detail∈kept.errorDetail,
    Bounds (singleSpaced (redactKnownSecrets original knownSecrets)) detail
        maxErrorDetailBytes ∧
      ∀c∈detail.toList,isWhitespace c=true → c = ' '

theorem Reason.sanitized_eq (self : Reason) (knownSecrets : List String) :
    self.sanitized knownSecrets=
      (Reason.new (boundedText (redactKnownSecrets self.text knownSecrets)
        Reason.maxBytes)).toOption.getD Reason.redacted := by
  unfold Reason.sanitized
  generalize Reason.new _=made
  cases made with
  | ok reason => rfl
  | error error => rfl

theorem sanitizedDetail_bounds (knownSecrets : List String) (original : String) :
    Bounds (singleSpaced (redactKnownSecrets original knownSecrets))
        (sanitizedDetail knownSecrets original) maxErrorDetailBytes ∧
      ∀c∈(sanitizedDetail knownSecrets original).toList,isWhitespace c=true → c = ' ' :=
  ⟨boundedErrorDetail_bounds _,boundedErrorDetail_blank _⟩

theorem JournalRecord.sanitized_keeps (self : JournalRecord) (knownSecrets : List String) :
    self.Keeps (self.sanitized knownSecrets) knownSecrets := by
  have room : 3 ≤ Reason.maxBytes := by decide
  have written : (self.sanitized knownSecrets).reason=self.reason.sanitized knownSecrets := by
    rw [sanitized]
  refine ⟨(self.sanitized knownSecrets).reason.bounded,?_,Option.isSome_map,?_⟩
  · rw [written,Reason.sanitized_eq]
    generalize bounded : boundedText (redactKnownSecrets self.reason.text knownSecrets)
      Reason.maxBytes=text
    refine ⟨text,?_,rfl⟩
    rw [← bounded]
    exact boundedText_bounds _ Reason.maxBytes room
  · intro original mem detail kept
    rw [sanitized,Option.mem_def,Option.mem_def.mp mem,Option.map_some,Option.some.injEq] at kept
    rw [← kept]
    exact sanitizedDetail_bounds knownSecrets original

/-- The record that is written is the record that is returned. -/
theorem JournalRecord.sanitized_sanitized (self : JournalRecord) (knownSecrets : List String) :
    (self.sanitized knownSecrets).sanitized []=self.sanitized knownSecrets := by
  have each : sanitizedDetail []∘sanitizedDetail knownSecrets=sanitizedDetail knownSecrets := by
    funext detail
    rw [Function.comp_apply,sanitizedDetail_sanitizedDetail]
  have reason := self.reason.sanitized_sanitized knownSecrets
  simp only [sanitized,Option.map_map,each,reason]

end Sanitizing

end AkuSupervisor
