import AkuSupervisor.Lib.Generations
import AkuSupervisor.Lib.U64

namespace AkuSupervisor

open Generations

def maxLogBytes : Nat := 5*1024*1024

def logGenerations : Nat := 5

def generationPath (path : String) (generation : Nat) : String := s!"{path}.{generation}"

/-- The active file of a log is its generation 0. -/
def logPath (path : String) : Nat → String
  | 0 => path
  | generation+1 => generationPath path (generation+1)

/-- What would make the log pump panic. -/
inductive LogFault where
  | sizeUnderflow
  | sizeOverflow
  | logClosed
  | endless
  deriving DecidableEq

/-- A writer of a log and the files around it. -/
structure RotatingLogWriter where
  path : String
  file : Option String
  bytes : Nat
  files : String → Option (List UInt8)

namespace RotatingLogWriter

/-- The length of the file at a path, or 0 if there is none. -/
def metadataLen (files : String → Option (List UInt8)) (path : String) : Nat :=
  ((files path).getD []).length

/-- The active file is opened for appending, and created if there is none. -/
def openActive (writer : RotatingLogWriter) : RotatingLogWriter :=
  let files := Function.update writer.files writer.path ((writer.files writer.path).getD [])
  { writer with
    file := some writer.path
    bytes := metadataLen files writer.path
    files }

def rotateLog (writer : RotatingLogWriter) : RotatingLogWriter :=
  openActive { writer with
    file := none
    bytes := 0
    files := rotate (logPath writer.path) logGenerations writer.files }

def openLog (path : String) (files : String → Option (List UInt8)) : RotatingLogWriter :=
  let writer : RotatingLogWriter := ⟨path,none,metadataLen files path,files⟩
  if maxLogBytes ≤ writer.bytes then writer.rotateLog else writer.openActive

/-- The next bytes that fit in the active file are appended to it. -/
def append (writer : RotatingLogWriter) (buffer : List UInt8) :
    Except LogFault (RotatingLogWriter × List UInt8) :=
  if maxLogBytes < writer.bytes then .error .sizeUnderflow
  else
    let available := min (maxLogBytes-writer.bytes) buffer.length
    match writer.file with
    | none => .error .logClosed
    | some path =>
      if U64.top < writer.bytes+available then .error .sizeOverflow
      else
        .ok ({ writer with
          bytes := writer.bytes+available
          files := Function.update writer.files path
            ((writer.files path).getD []++buffer.take available) },buffer.drop available)

/-- The loop of a write, of at most `fuel` rounds. -/
def writeLoop : Nat → RotatingLogWriter → List UInt8 → Except LogFault RotatingLogWriter
  | _,writer,[] => .ok writer
  | 0,_,_::_ => .error .endless
  | fuel+1,writer,byte::bytes => do
    let (writer,rest) ←
      append (if maxLogBytes ≤ writer.bytes then writer.rotateLog else writer) (byte::bytes)
    writeLoop fuel writer rest

def write (writer : RotatingLogWriter) (buffer : List UInt8) : Except LogFault RotatingLogWriter :=
  writeLoop buffer.length writer buffer

/-- A log is opened and written to. -/
def writeAll (path : String) (files : String → Option (List UInt8)) (writes : List (List UInt8)) :
    Except LogFault RotatingLogWriter :=
  writes.foldlM write (openLog path files)

theorem toList_generationPath (path : String) (generation : Nat) :
    (generationPath path generation).toList=path.toList++ '.'::Nat.toDigits 10 generation := by
  simp [generationPath,toString]

theorem logPath_injective (path : String) : Function.Injective (logPath path) := by
  have apart (generation : Nat) : path≠generationPath path generation := by
    intro same
    have length := congrArg (fun text => text.toList.length) same
    simp [toList_generationPath] at length
  intro a b same
  cases a with
  | zero =>
    cases b with
    | zero => rfl
    | succ b => exact absurd same (apart _)
  | succ a =>
    cases b with
    | zero => exact absurd same.symm (apart _)
    | succ b =>
      have chars := congrArg String.toList same
      rw [logPath,logPath,toList_generationPath,toList_generationPath] at chars
      have digits := (List.cons.inj (List.append_cancel_left chars)).2
      rw [← Nat.ofDigitChars_ten_toDigits (n := a+1),digits,Nat.ofDigitChars_ten_toDigits]

/-- What the generations of a log hold, from the oldest to the active one. -/
def kept (path : String) (files : String → Option (List UInt8)) : List UInt8 :=
  Generations.kept (logPath path) logGenerations files

/-- Every generation is within its limit. -/
def Within (path : String) (files : String → Option (List UInt8)) : Prop :=
  ∀generation,generation ≤ logGenerations →
    ∀content∈files (logPath path generation),content.length ≤ maxLogBytes

/-- An open writer that knows the size of its active file, which is within its limit like all others. -/
structure Tracks (writer : RotatingLogWriter) : Prop where
  opened : writer.file=some writer.path
  active : ∃content,writer.files writer.path=some content ∧ writer.bytes=content.length
  within : Within writer.path writer.files

/-- What a step keeps of the log: its generations hold the end of what they held and of the bytes
written, and no file but them has changed. -/
structure Keeps (before after : RotatingLogWriter) (written : List UInt8) : Prop where
  path : after.path=before.path
  suffix : kept before.path after.files <:+ kept before.path before.files++written
  others : ∀other,(∀generation,generation ≤ logGenerations → other≠logPath before.path generation) →
    after.files other=before.files other

variable {writer after later : RotatingLogWriter}

theorem Keeps.refl (writer : RotatingLogWriter) : Keeps writer writer [] :=
  ⟨rfl,by simp,fun _ _ => rfl⟩

theorem Keeps.trans {more written : List UInt8} (first : Keeps writer after written)
    (second : Keeps after later more) : Keeps writer later (written++more) := by
  obtain ⟨path,suffix,others⟩ := first
  obtain ⟨path',suffix',others'⟩ := second
  rw [path] at suffix' others'
  refine ⟨path'.trans path,?_,fun other clear => (others' other clear).trans (others other clear)⟩
  refine suffix'.trans ?_
  rw [← List.append_assoc]
  exact List.suffix_append_self_iff.mpr suffix

theorem bytes_openActive (writer : RotatingLogWriter) :
    writer.openActive.bytes=metadataLen writer.files writer.path := by
  show ((Function.update writer.files writer.path _ writer.path).getD []).length=_
  rw [Function.update_self]
  rfl

theorem openActive_tracks (within : Within writer.path writer.files) :
    Tracks writer.openActive ∧ Keeps writer writer.openActive [] := by
  have same (other : String) : (writer.openActive.files other).getD []=
      (writer.files other).getD [] := by
    show (Function.update writer.files writer.path _ other).getD []=_
    rw [Function.update_apply]
    split_ifs with here
    · rw [here]
      rfl
    · rfl
  have held (generation : Nat) (low : generation ≤ logGenerations) (content : List UInt8)
      (mem : content∈writer.openActive.files (logPath writer.path generation)) :
      content.length ≤ maxLogBytes := by
    have now := same (logPath writer.path generation)
    rw [Option.mem_def.mp mem] at now
    cases before : writer.files (logPath writer.path generation) with
    | none =>
      rw [before] at now
      rw [show content=[] from now]
      exact Nat.zero_le _
    | some old =>
      rw [before] at now
      rw [show content=old from now]
      exact within generation low old before
  have opened : writer.openActive.files writer.path=some ((writer.files writer.path).getD []) :=
    Function.update_self ..
  refine ⟨⟨rfl,⟨_,opened,?_⟩,held⟩,rfl,?_,fun other clear => ?_⟩
  · show metadataLen writer.openActive.files writer.path=_
    rw [metadataLen,opened]
    rfl
  · rw [List.append_nil]
    have level : kept writer.path writer.openActive.files=kept writer.path writer.files :=
      Generations.kept_congr fun generation _ => same _
    exact level ▸ List.suffix_refl _
  · exact Function.update_of_ne (clear 0 (Nat.zero_le _)) ..

theorem rotateLog_tracks (within : Within writer.path writer.files) :
    Tracks writer.rotateLog ∧ writer.rotateLog.bytes=0 ∧ Keeps writer writer.rotateLog [] := by
  obtain ⟨up,first,others⟩ := rotate_apply (logPath_injective writer.path)
    (n := logGenerations) (by decide) writer.files
  have closed : Within writer.path (rotate (logPath writer.path) logGenerations writer.files) := by
    intro generation low content mem
    cases generation with
    | zero =>
      rw [first] at mem
      cases mem
    | succ generation =>
      rw [up generation low] at mem
      exact within generation (by omega) content mem
  obtain ⟨tracks,keeps⟩ := @openActive_tracks { writer with
    file := none
    bytes := 0
    files := rotate (logPath writer.path) logGenerations writer.files } closed
  refine ⟨tracks,?_,keeps.path,?_,fun other clear =>
    (keeps.others other clear).trans (others other clear)⟩
  · rw [rotateLog,bytes_openActive,metadataLen]
    show ((rotate (logPath writer.path) logGenerations writer.files (logPath writer.path 0)).getD
      []).length=0
    rw [first]
    rfl
  · have dropped : kept writer.path (rotate (logPath writer.path) logGenerations writer.files)=
        Generations.kept (logPath writer.path) 4 writer.files :=
      Generations.kept_rotate (logPath_injective writer.path) 4 writer.files
    have suffix : kept writer.path writer.rotateLog.files <:+
        kept writer.path (rotate (logPath writer.path) logGenerations writer.files)++[] :=
      keeps.suffix
    rw [List.append_nil,dropped] at suffix
    rw [List.append_nil]
    exact suffix.trans (Generations.kept_suffix 4 writer.files)

/-- What fits is appended to the active file, and of what is left there is less. -/
theorem append_tracks (tracks : Tracks writer) {buffer : List UInt8} (filled : buffer≠[])
    (room : writer.bytes < maxLogBytes) :
    ∃after rest,writer.append buffer=.ok (after,rest) ∧ Tracks after ∧
      rest.length < buffer.length ∧ ∃taken,buffer=taken++rest ∧ Keeps writer after taken := by
  obtain ⟨content,active,size⟩ := tracks.active
  have limit : maxLogBytes=5242880 := rfl
  have top : U64.top=18446744073709551615 := rfl
  have positive := List.length_pos_iff.mpr filled
  generalize count : min (maxLogBytes-writer.bytes) buffer.length=available
  have fits : content.length+available ≤ maxLogBytes := by omega
  have taken : (buffer.take available).length=available := by
    rw [List.length_take]
    omega
  have appended : writer.append buffer=.ok ({ writer with
      bytes := writer.bytes+available
      files := Function.update writer.files writer.path (content++buffer.take available) },
      buffer.drop available) := by
    rw [append,if_neg (by omega),count,tracks.opened]
    simp only [active,Option.getD_some]
    rw [if_neg (by omega)]
  refine ⟨_,_,appended,⟨tracks.opened,⟨_,Function.update_self ..,?_⟩,?_⟩,?_,_,
    (List.take_append_drop available buffer).symm,rfl,?_,fun other clear => ?_⟩
  · rw [List.length_append,taken,← size]
  · intro generation low content' mem
    cases generation with
    | zero =>
      have here : Function.update writer.files writer.path (content++buffer.take available)
          writer.path=some content' := mem
      rw [Function.update_self] at here
      cases here
      rw [List.length_append,taken]
      exact fits
    | succ generation =>
      have apart : logPath writer.path (generation+1)≠writer.path :=
        (logPath_injective writer.path).ne (Nat.succ_ne_zero generation)
      have there : Function.update writer.files writer.path (content++buffer.take available)
          (logPath writer.path (generation+1))=some content' := mem
      rw [Function.update_of_ne apart] at there
      exact tracks.within (generation+1) low content' there
  · rw [List.length_drop]
    omega
  · have grown := Generations.kept_append (logPath_injective writer.path) logGenerations active
      (buffer.take available)
    exact grown ▸ List.suffix_refl _
  · exact Function.update_of_ne (clear 0 (Nat.zero_le _)) ..

theorem writeLoop_tracks (fuel : Nat) (tracks : Tracks writer) {buffer : List UInt8}
    (enough : buffer.length ≤ fuel) :
    ∃after,writeLoop fuel writer buffer=.ok after ∧ Tracks after ∧ Keeps writer after buffer := by
  induction fuel generalizing writer buffer with
  | zero =>
    cases List.eq_nil_of_length_eq_zero (Nat.le_zero.mp enough)
    exact ⟨writer,rfl,tracks,.refl writer⟩
  | succ fuel ih =>
    cases buffer with
    | nil => exact ⟨writer,rfl,tracks,.refl writer⟩
    | cons byte bytes =>
      have ready : ∃ready,(if maxLogBytes ≤ writer.bytes then writer.rotateLog else writer)=ready ∧
          Tracks ready ∧ ready.bytes < maxLogBytes ∧ Keeps writer ready [] := by
        by_cases full : maxLogBytes ≤ writer.bytes
        · obtain ⟨tracks,zero,keeps⟩ := rotateLog_tracks tracks.within
          exact ⟨_,if_pos full,tracks,by rw [zero]; decide,keeps⟩
        · exact ⟨_,if_neg full,tracks,by omega,.refl writer⟩
      obtain ⟨ready,here,tracks,room,keeps⟩ := ready
      obtain ⟨after,rest,appended,tracks,less,taken,split,grown⟩ :=
        append_tracks tracks (List.cons_ne_nil byte bytes) room
      rw [List.length_cons] at enough less
      obtain ⟨last,looped,tracks,more⟩ := ih tracks (Nat.le_of_lt_succ (Nat.lt_of_lt_of_le less enough))
      refine ⟨last,?_,tracks,?_⟩
      · rw [writeLoop,here,appended]
        exact looped
      · rw [split]
        exact (keeps.trans grown).trans more

theorem openLog_tracks {path : String} {files : String → Option (List UInt8)}
    (within : Within path files) :
    Tracks (openLog path files) ∧
      Keeps ⟨path,none,metadataLen files path,files⟩ (openLog path files) [] := by
  unfold openLog
  simp only
  split_ifs
  · obtain ⟨tracks,-,keeps⟩ := @rotateLog_tracks ⟨path,none,_,files⟩ within
    exact ⟨tracks,keeps⟩
  · exact @openActive_tracks ⟨path,none,_,files⟩ within

theorem write_tracks (tracks : Tracks writer) (buffer : List UInt8) :
    ∃after,writer.write buffer=.ok after ∧ Tracks after ∧ Keeps writer after buffer :=
  writeLoop_tracks buffer.length tracks (Nat.le_refl _)

theorem writes_track (tracks : Tracks writer) (writes : List (List UInt8)) :
    ∃after,writes.foldlM write writer=.ok after ∧ Tracks after ∧
      Keeps writer after writes.flatten := by
  induction writes generalizing writer with
  | nil => exact ⟨writer,rfl,tracks,.refl writer⟩
  | cons buffer writes ih =>
    obtain ⟨next,written,tracks,keeps⟩ := write_tracks tracks buffer
    obtain ⟨after,rest,tracks,more⟩ := ih tracks
    refine ⟨after,?_,tracks,keeps.trans more⟩
    rw [List.foldlM_cons,written]
    exact rest

/-- After any writes the generations of a log hold the end of what they held and of all that was
written, each within its limit, and no file but these generations has changed. -/
theorem rotation_keeps_suffix (path : String) (files : String → Option (List UInt8))
    (within : Within path files) (writes : List (List UInt8)) :
    ∃after,writeAll path files writes=.ok after ∧
      kept path after.files <:+ kept path files++writes.flatten ∧
      Within path after.files ∧
      (∀generation,logGenerations < generation →
        after.files (logPath path generation)=files (logPath path generation)) ∧
      ∀other,(∀generation,generation ≤ logGenerations → other≠logPath path generation) →
        after.files other=files other := by
  obtain ⟨opened,begun⟩ := openLog_tracks within
  obtain ⟨after,written,tracks,more⟩ := writes_track opened writes
  have all := begun.trans more
  have same : after.path=path := all.path
  exact ⟨after,written,all.suffix,same ▸ tracks.within,fun generation beyond =>
    all.others _ fun g low => (logPath_injective path).ne (by omega),all.others⟩

/-- A log with one rotated generation that gets three bytes in three writes. -/
theorem rotation_keeps_suffix_short : ∃after,
    writeAll "api.stdout.log" (fun path => if path="api.stdout.log.1" then some [1] else none)
      [[2],[],[3,4]]=.ok after ∧
    kept "api.stdout.log" after.files <:+ [1]++[2,3,4] := by
  have within : Within "api.stdout.log"
      fun path => if path="api.stdout.log.1" then some [1] else none := by
    intro generation low content mem
    simp only [Option.mem_def,Option.ite_none_right_eq_some] at mem
    cases mem.2
    decide
  obtain ⟨after,written,suffix,-⟩ := rotation_keeps_suffix _ _ within [[2],[],[3,4]]
  have held : kept "api.stdout.log"
      (fun path => if path="api.stdout.log.1" then some [1] else none)=[1] := by decide
  exact ⟨after,written,held ▸ suffix⟩

end RotatingLogWriter

end AkuSupervisor
