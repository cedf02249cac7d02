import AkuSupervisor.Adapters.ServiceLogs

namespace AkuSupervisor

open ServiceLogs TextLines

/-- The buffer of the log pump. -/
def logBufferBytes : Nat := 8*1024

namespace LiveLogHub

/-- The whole of `publish` or `close_stream`, with the texts that it publishes. -/
def publish (hub : LiveLogHub) (serviceId : String) (stream : LogStream) (bytes : List UInt8)
    (close : Bool) (now : Nat) (gapTimes : Nat → Nat) : List String × LiveLogHub :=
  let taken := hub.takeLines serviceId stream bytes close
  (taken.1,taken.1.foldl (fun hub text =>
    (hub.publishLine serviceId stream text now gapTimes).2) taken.2)

end LiveLogHub

/-- The texts that the log pump of a stream has published when it has read these chunks and closed the
stream. -/
def pumpLog (serviceId : String) (stream : LogStream) (now : Nat) (gapTimes : Nat → Nat) :
    List (List UInt8) → LiveLogHub → List String
  | [],hub => (hub.publish serviceId stream [] true now gapTimes).1
  | chunk::chunks,hub =>
    let published := hub.publish serviceId stream chunk false now gapTimes
    published.1++pumpLog serviceId stream now gapTimes chunks published.2

/-- One way to read a stream of bytes. -/
def Chunked (bytes : List UInt8) (chunks : List (List UInt8)) : Prop :=
  chunks.flatten=bytes ∧ ∀chunk∈chunks,chunk≠[] ∧ chunk.length ≤ logBufferBytes

/-- The texts of the chunks, and the start of the next line, when it began with `current`. -/
def feed (current : List UInt8) : List (List UInt8) → List String × List UInt8
  | [] => ([],current)
  | chunk::chunks =>
    let taken := takeCompleteLines (current++chunk) false
    let rest := feed taken.2 chunks
    (taken.1++rest.1,rest.2)

/-- The texts of the chunks of a stream that is closed behind them. -/
def framed (current : List UInt8) (chunks : List (List UInt8)) : List String :=
  let fed := feed current chunks
  fed.1++(takeCompleteLines fed.2 true).1

section Pump

variable (serviceId : String) (stream : LogStream) (now : Nat) (gapTimes : Nat → Nat)

theorem partial_publishLine {hub : LiveLogHub} {service : LiveServiceState}
    (found : hub.services[serviceId]?=some service) (text : String) :
    ∃after,(hub.publishLine serviceId stream text now gapTimes).2.services[serviceId]?=some after ∧
      after.partialOf stream=service.partialOf stream := by
  unfold LiveLogHub.publishLine
  simp only [found,Std.ExtTreeMap.getElem?_insert_self]
  exact ⟨_,rfl,by cases stream <;> rfl⟩

theorem partial_publishLines (hub : LiveLogHub) {service : LiveServiceState}
    (found : hub.services[serviceId]?=some service) (texts : List String) :
    ∃after,(texts.foldl (fun hub text =>
        (hub.publishLine serviceId stream text now gapTimes).2) hub).services[serviceId]?=some after ∧
      after.partialOf stream=service.partialOf stream := by
  induction texts generalizing hub service with
  | nil => exact ⟨service,found,rfl⟩
  | cons text texts ih =>
    obtain ⟨next,there,same⟩ := partial_publishLine serviceId stream now gapTimes found text
    obtain ⟨after,last,same'⟩ := ih _ there
    exact ⟨after,last,same'.trans same⟩

theorem publish_eq {hub : LiveLogHub} {service : LiveServiceState}
    (found : hub.services[serviceId]?=some service) (bytes : List UInt8) (close : Bool) :
    (hub.publish serviceId stream bytes close now gapTimes).1=
        (takeCompleteLines (service.partialOf stream++bytes) close).1 ∧
      ∃after,(hub.publish serviceId stream bytes close now gapTimes).2.services[serviceId]?=some after ∧
        after.partialOf stream=(takeCompleteLines (service.partialOf stream++bytes) close).2 := by
  unfold LiveLogHub.publish LiveLogHub.takeLines
  simp only [found]
  refine ⟨trivial,?_⟩
  have stored : (hub.services.insert serviceId (service.setPartial stream
      (takeCompleteLines (service.partialOf stream++bytes) close).2))[serviceId]?=some _ :=
    Std.ExtTreeMap.getElem?_insert_self
  obtain ⟨after,there,same⟩ := partial_publishLines serviceId stream now gapTimes
    ({ hub with services := hub.services.insert serviceId (service.setPartial stream
      (takeCompleteLines (service.partialOf stream++bytes) close).2) }) stored
    (takeCompleteLines (service.partialOf stream++bytes) close).1
  exact ⟨after,there,by rw [same]; cases stream <;> rfl⟩

/-- The hub publishes what the partial line and the chunks give. -/
theorem pumpLog_eq (chunks : List (List UInt8)) {hub : LiveLogHub} {service : LiveServiceState}
    (found : hub.services[serviceId]?=some service) :
    pumpLog serviceId stream now gapTimes chunks hub=framed (service.partialOf stream) chunks := by
  induction chunks generalizing hub service with
  | nil =>
    have published := (publish_eq serviceId stream now gapTimes found [] true).1
    rw [List.append_nil] at published
    exact published
  | cons chunk chunks ih =>
    obtain ⟨texts,after,there,current⟩ := publish_eq serviceId stream now gapTimes found chunk false
    rw [pumpLog,texts,ih there,current,framed,framed,feed,List.append_assoc]

end Pump

/-- What is published of bytes that are cut for their length. -/
def truncatedText (bytes : List UInt8) : String := s!"{decodeLossy bytes} [line truncated]"

def cutBlocks (bytes : List UInt8) : List String × List UInt8 := truncatedLines bytes.length bytes

def cutLine (line : List UInt8) : List String :=
  (cutBlocks line).1++[decodeLossy (dropReturn (cutBlocks line).2)]

/-- The texts of a stream when every line is cut into blocks for its length alone. The first line
begins with `current`. -/
def framing (current : List UInt8) : List UInt8 → List String
  | [] =>
    (cutBlocks current).1++
      if (cutBlocks current).2≠[] then [decodeLossy (cutBlocks current).2] else []
  | b::bytes =>
    if b=newline then cutLine current++framing [] bytes else framing (current++[b]) bytes

/-- Every line that a newline ends is shorter than a block, or goes beyond its last whole block by as
much as a chunk can hold. -/
def Steady (current bytes : List UInt8) : Prop :=
  ∀line∈rawLines current bytes,line.length < maxPartialLineBytes ∨
    logBufferBytes-1 ≤ line.length%maxPartialLineBytes

theorem maxPartialLineBytes_eq : maxPartialLineBytes=65536 := rfl

theorem logBufferBytes_eq : logBufferBytes=8192 := rfl

section Blocks

theorem truncatedLines_fuel (n m : Nat) (bytes : List UInt8) (enough : bytes.length ≤ n)
    (enough' : bytes.length ≤ m) : truncatedLines n bytes=truncatedLines m bytes := by
  have size := maxPartialLineBytes_eq
  induction n generalizing m bytes with
  | zero =>
    cases m with
    | zero => rfl
    | succ m =>
      have short : ¬maxPartialLineBytes ≤ bytes.length := by omega
      rw [truncatedLines,truncatedLines,if_neg short]
  | succ n ih =>
    cases m with
    | zero =>
      have short : ¬maxPartialLineBytes ≤ bytes.length := by omega
      rw [truncatedLines,truncatedLines,if_neg short]
    | succ m =>
      rw [truncatedLines,truncatedLines]
      by_cases long : maxPartialLineBytes ≤ bytes.length
      · have rest := ih m (bytes.drop maxPartialLineBytes) (by rw [List.length_drop]; omega)
          (by rw [List.length_drop]; omega)
        simp only [if_pos long,rest]
      · rw [if_neg long,if_neg long]

theorem cutBlocks_short {bytes : List UInt8} (short : bytes.length < maxPartialLineBytes) :
    cutBlocks bytes=([],bytes) := by
  unfold cutBlocks
  cases bytes.length with
  | zero => rfl
  | succ n => rw [truncatedLines,if_neg (by omega)]

@[simp] theorem cutBlocks_nil : cutBlocks []=([],[]) := rfl

theorem cutBlocks_block {block : List UInt8} (whole : block.length=maxPartialLineBytes)
    (bytes : List UInt8) :
    cutBlocks (block++bytes)=(truncatedText block::(cutBlocks bytes).1,(cutBlocks bytes).2) := by
  have size := maxPartialLineBytes_eq
  have length : (block++bytes).length=(maxPartialLineBytes-1+bytes.length)+1 := by
    rw [List.length_append]
    omega
  have taken : (block++bytes).take maxPartialLineBytes=block := by rw [← whole,List.take_left]
  have behind : (block++bytes).drop maxPartialLineBytes=bytes := by rw [← whole,List.drop_left]
  have rest := truncatedLines_fuel (maxPartialLineBytes-1+bytes.length) bytes.length bytes
    (by omega) (Nat.le_refl _)
  unfold cutBlocks
  rw [length,truncatedLines,if_pos (by rw [length]; omega),taken,behind,rest]
  rfl

/-- Whole blocks are cut off before a line is complete as they are after. -/
theorem framing_block {block : List UInt8} (whole : block.length=maxPartialLineBytes)
    (current bytes : List UInt8) :
    framing (block++current) bytes=truncatedText block::framing current bytes := by
  induction bytes generalizing current with
  | nil =>
    rw [framing,framing,cutBlocks_block whole]
    rfl
  | cons b bytes ih =>
    rw [framing,framing]
    by_cases ends : b=newline
    · rw [if_pos ends,if_pos ends,cutLine,cutLine,cutBlocks_block whole]
      rfl
    · rw [if_neg ends,if_neg ends,List.append_assoc]
      exact ih (current++[b])

theorem framing_cutBlocks (current bytes : List UInt8) :
    framing current bytes=(cutBlocks current).1++framing (cutBlocks current).2 bytes := by
  induction length : current.length using Nat.strongRecOn generalizing current with
  | _ n ih =>
    have size := maxPartialLineBytes_eq
    by_cases short : current.length < maxPartialLineBytes
    · rw [cutBlocks_short short,List.nil_append]
    · have split := List.take_append_drop maxPartialLineBytes current
      have whole : (current.take maxPartialLineBytes).length=maxPartialLineBytes := by
        rw [List.length_take]
        omega
      have rest := ih _ (by rw [List.length_drop]; omega) (current.drop maxPartialLineBytes) rfl
      rw [← split,framing_block whole,cutBlocks_block whole,rest]
      rfl

theorem cutBlocks_rest (bytes : List UInt8) :
    (cutBlocks bytes).2.length < maxPartialLineBytes ∧ (cutBlocks bytes).2 <:+ bytes := by
  refine ⟨truncatedLines_rest _ _ (Nat.le_refl _),?_⟩
  induction length : bytes.length using Nat.strongRecOn generalizing bytes with
  | _ n ih =>
    have size := maxPartialLineBytes_eq
    by_cases short : bytes.length < maxPartialLineBytes
    · exact (cutBlocks_short short).symm ▸ List.suffix_refl bytes
    · have split := List.take_append_drop maxPartialLineBytes bytes
      have whole : (bytes.take maxPartialLineBytes).length=maxPartialLineBytes := by
        rw [List.length_take]
        omega
      have rest := ih _ (by rw [List.length_drop]; omega) (bytes.drop maxPartialLineBytes) rfl
      rw [← split,cutBlocks_block whole]
      exact rest.trans (List.suffix_append _ _)

end Blocks

section Lines

variable {current chunk bytes line : List UInt8}

theorem endedLines_open (current : List UInt8) {part : List UInt8} (single : newline∉part)
    (bytes : List UInt8) : endedLines current (part++bytes)=endedLines (current++part) bytes := by
  induction part generalizing current with
  | nil => simp
  | cons b part ih =>
    obtain ⟨other,later⟩ := not_or.mp fun mem => single (List.mem_cons.mpr mem)
    rw [List.cons_append,endedLines,if_neg (Ne.symm other),ih _ later]
    simp

theorem endedLines_eq (current chunk : List UInt8) :
    endedLines current chunk=((rawLines current chunk).map dropReturn,unfinished current chunk) := by
  induction chunk generalizing current with
  | nil => rfl
  | cons b chunk ih =>
    rw [endedLines,rawLines,unfinished]
    by_cases ends : b=newline
    · simp only [if_pos ends,ih,List.map_cons]
    · simp only [if_neg ends,ih]

/-- When the lines that end in a chunk are short, they are published as they are. -/
theorem framing_append (short : ∀line∈rawLines current chunk,line.length < maxPartialLineBytes)
    (bytes : List UInt8) :
    framing current (chunk++bytes)=(endedLines current chunk).1.map decodeLossy++
      framing (endedLines current chunk).2 bytes := by
  induction chunk generalizing current with
  | nil => rfl
  | cons b chunk ih =>
    rw [List.cons_append,framing,endedLines]
    rw [rawLines] at short
    by_cases ends : b=newline
    · rw [if_pos ends] at short ⊢
      rw [if_pos ends,cutLine,cutBlocks_short (short current List.mem_cons_self),
        ih fun line mem => short line (List.mem_cons_of_mem _ mem)]
      rfl
    · rw [if_neg ends] at short ⊢
      rw [if_neg ends,ih short]

theorem length_of_mem (mem : line∈rawLines current chunk) :
    line.length+1 ≤ current.length+chunk.length := by
  induction chunk generalizing current with
  | nil => simp [rawLines] at mem
  | cons b chunk ih =>
    rw [rawLines] at mem
    rw [List.length_cons]
    split_ifs at mem with ends
    · rcases List.mem_cons.mp mem with rfl|later
      · omega
      · have less := ih later
        rw [List.length_nil] at less
        omega
    · have less := ih mem
      rw [List.length_append,List.length_singleton] at less
      omega

/-- The lines behind a block are the lines with it, the first of them cut. -/
theorem mem_rawLines_block (block : List UInt8) (mem : line∈rawLines current bytes) :
    line∈rawLines (block++current) bytes ∨ block++line∈rawLines (block++current) bytes := by
  induction bytes generalizing current with
  | nil => simp [rawLines] at mem
  | cons b bytes ih =>
    rw [rawLines] at mem ⊢
    split_ifs at mem ⊢ with ends
    · rcases List.mem_cons.mp mem with rfl|later
      · exact .inr List.mem_cons_self
      · exact .inl (List.mem_cons_of_mem _ later)
    · have rest := ih mem
      rw [← List.append_assoc] at rest
      exact rest

theorem Steady.block {block : List UInt8} (whole : block.length=maxPartialLineBytes)
    (steady : Steady (block++current) bytes) : Steady current bytes := by
  intro line mem
  rcases mem_rawLines_block block mem with same|longer
  · exact steady line same
  · rcases steady _ longer with short|long
    · rw [List.length_append] at short
      omega
    · rw [List.length_append,whole,Nat.add_mod_left] at long
      exact .inr long

theorem Steady.cutBlocks (steady : Steady current bytes) :
    Steady (cutBlocks current).2 bytes := by
  induction length : current.length using Nat.strongRecOn generalizing current with
  | _ n ih =>
    have size := maxPartialLineBytes_eq
    by_cases short : current.length < maxPartialLineBytes
    · rw [cutBlocks_short short]
      exact steady
    · have split := List.take_append_drop maxPartialLineBytes current
      have whole : (current.take maxPartialLineBytes).length=maxPartialLineBytes := by
        rw [List.length_take]
        omega
      rw [← split] at steady
      rw [← split,cutBlocks_block whole]
      exact ih _ (by rw [List.length_drop]; omega) (steady.block whole) rfl

end Lines

section Steady

variable {current : List UInt8}

theorem takeCompleteLines_append (single : newline∉current) (chunk : List UInt8) :
    takeCompleteLines (current++chunk) false=
      ((endedLines current chunk).1.map decodeLossy++(cutBlocks (endedLines current chunk).2).1,
        (cutBlocks (endedLines current chunk).2).2) := by
  rw [takeCompleteLines,endedLines_open [] single chunk]
  simp [cutBlocks]

theorem takeCompleteLines_close (short : current.length < maxPartialLineBytes)
    (single : newline∉current) : (takeCompleteLines current true).1=framing current [] := by
  have ended : endedLines [] current=([],current) := by
    have open_ := endedLines_open [] single []
    rw [List.append_nil] at open_
    exact open_
  have cut := cutBlocks_short short
  rw [framing,cut,takeCompleteLines,ended]
  unfold cutBlocks at cut
  simp only [cut]
  by_cases empty : current=[] <;> simp [empty]

/-- A partial line as the hub keeps it. -/
structure Partial (current : List UInt8) : Prop where
  short : current.length < maxPartialLineBytes
  single : newline∉current

theorem partial_nil : Partial [] := ⟨by decide,by simp⟩

theorem Partial.next (kept : Partial current) (chunk : List UInt8) :
    Partial (takeCompleteLines (current++chunk) false).2 := by
  rw [takeCompleteLines_append kept.single]
  obtain ⟨short,suffix⟩ := cutBlocks_rest (endedLines current chunk).2
  refine ⟨short,fun mem => ?_⟩
  have inside := suffix.subset mem
  rw [endedLines_eq] at inside
  exact newline_not_mem_unfinished current chunk kept.single inside

/-- The lines that end in a chunk are short, if the lines are steady. -/
theorem Steady.short {chunk bytes : List UInt8} (steady : Steady current (chunk++bytes))
    (kept : Partial current) (fits : chunk.length ≤ logBufferBytes) :
    ∀line∈rawLines current chunk,line.length < maxPartialLineBytes := by
  intro line mem
  have size := maxPartialLineBytes_eq
  have buffer := logBufferBytes_eq
  have short := kept.short
  have length := length_of_mem mem
  rw [Steady,rawLines_append] at steady
  rcases steady line (List.mem_append_left _ mem) with small|long
  · exact small
  · by_contra large
    have rest : line.length%maxPartialLineBytes=line.length-maxPartialLineBytes := by
      rw [Nat.mod_eq_sub_mod (by omega),Nat.mod_eq_of_lt (by omega)]
    omega

/-- Of steady lines the texts do not depend on the chunks. -/
theorem framed_steady (chunks : List (List UInt8))
    (fit : ∀chunk∈chunks,chunk.length ≤ logBufferBytes) (kept : Partial current)
    (steady : Steady current chunks.flatten) :
    framed current chunks=framing current chunks.flatten := by
  induction chunks generalizing current with
  | nil => exact takeCompleteLines_close kept.short kept.single
  | cons chunk chunks ih =>
    rw [List.flatten_cons] at steady ⊢
    have short := steady.short kept (fit chunk List.mem_cons_self)
    have taken := takeCompleteLines_append kept.single chunk
    have later : Steady (takeCompleteLines (current++chunk) false).2 chunks.flatten := by
      rw [taken]
      apply Steady.cutBlocks
      intro line mem
      rw [endedLines_eq] at mem
      apply steady line
      rw [rawLines_append]
      exact List.mem_append_right _ mem
    have rest := ih (fun other mem => fit other (List.mem_cons_of_mem _ mem)) (kept.next chunk) later
    have split : framed current (chunk::chunks)=(takeCompleteLines (current++chunk) false).1++
        framed (takeCompleteLines (current++chunk) false).2 chunks := by
      rw [framed,framed,feed,List.append_assoc]
    rw [split,rest,framing_append short,framing_cutBlocks (endedLines current chunk).2,taken]
    simp

end Steady

section Unsteady

variable {current : List UInt8}

/-- A line that a newline ends, with what comes before and behind it. -/
theorem rawLines_split {bytes line : List UInt8} (single : newline∉current)
    (mem : line∈rawLines current bytes) : newline∉line ∧
      ((∃part behind,bytes=part++newline::behind ∧ line=current++part) ∨
        ∃front behind,bytes=front++newline::(line++newline::behind)) := by
  induction bytes generalizing current with
  | nil => simp [rawLines] at mem
  | cons b bytes ih =>
    rw [rawLines] at mem
    split_ifs at mem with ends
    · rcases List.mem_cons.mp mem with rfl|later
      · exact ⟨single,.inl ⟨[],bytes,by rw [ends]; rfl,by simp⟩⟩
      · obtain ⟨none,⟨part,behind,split,same⟩|⟨front,behind,split⟩⟩ := ih (by simp) later
        · refine ⟨none,.inr ⟨[],behind,?_⟩⟩
          rw [split,same,ends]
          rfl
        · exact ⟨none,.inr ⟨b::front,behind,by rw [split]; rfl⟩⟩
    · obtain ⟨none,⟨part,behind,split,same⟩|⟨front,behind,split⟩⟩ :=
        ih (by simp [single,Ne.symm ends]) mem
      · exact ⟨none,.inl ⟨b::part,behind,by rw [split]; rfl,by simp [same]⟩⟩
      · exact ⟨none,.inr ⟨b::front,behind,by rw [split]; rfl⟩⟩

/-- One byte at a time. -/
def singles (bytes : List UInt8) : List (List UInt8) := bytes.map ([·])

theorem flatten_singles (bytes : List UInt8) : (singles bytes).flatten=bytes := by
  induction bytes with
  | nil => rfl
  | cons b bytes ih =>
    show [b]++(singles bytes).flatten=_
    rw [ih]
    rfl

theorem chunked_singles (bytes : List UInt8) :
    ∀chunk∈singles bytes,chunk≠[] ∧ chunk.length ≤ logBufferBytes := by
  intro chunk mem
  obtain ⟨b,-,rfl⟩ := List.mem_map.mp mem
  exact ⟨List.cons_ne_nil _ _,Nat.le_of_ble_eq_true rfl⟩

theorem feed_append (xs ys : List (List UInt8)) :
    feed current (xs++ys)=((feed current xs).1++(feed (feed current xs).2 ys).1,
      (feed (feed current xs).2 ys).2) := by
  induction xs generalizing current with
  | nil => simp [feed]
  | cons x xs ih => simp [feed,ih]

/-- A byte that ends no line. -/
theorem feed_single (kept : Partial current) {b : UInt8} (other : b≠newline) :
    feed current [[b]]=if current.length+1 < maxPartialLineBytes then ([],current++[b])
      else ([truncatedText (current++[b])],[]) := by
  have size := maxPartialLineBytes_eq
  have ended : endedLines current [b]=([],current++[b]) := by
    rw [endedLines,if_neg other]
    rfl
  have taken := takeCompleteLines_append kept.single [b]
  rw [ended] at taken
  by_cases short : current.length+1 < maxPartialLineBytes
  · rw [cutBlocks_short (by simpa using short)] at taken
    rw [if_pos short]
    simp [feed,taken]
  · have whole : (current++[b]).length=maxPartialLineBytes := by
      have small := kept.short
      rw [List.length_append,List.length_singleton]
      omega
    have cut := cutBlocks_block whole []
    rw [List.append_nil,cutBlocks_nil] at cut
    simp only [cut] at taken
    rw [if_neg short]
    simp [feed,taken]

theorem partial_feed (chunks : List (List UInt8)) (kept : Partial current) :
    Partial (feed current chunks).2 := by
  induction chunks generalizing current with
  | nil => exact kept
  | cons chunk chunks ih => exact ih (kept.next chunk)

/-- Byte by byte, what is kept of a line is what goes beyond its whole blocks. -/
theorem length_feed_singles (bytes : List UInt8) (single : newline∉bytes) (kept : Partial current) :
    (feed current (singles bytes)).2.length=(current.length+bytes.length)%maxPartialLineBytes := by
  induction bytes generalizing current with
  | nil => exact (Nat.mod_eq_of_lt kept.short).symm
  | cons b bytes ih =>
    obtain ⟨other,later⟩ := not_or.mp fun mem => single (List.mem_cons.mpr mem)
    have first := feed_single kept (Ne.symm other)
    have split : singles (b::bytes)=[[b]]++singles bytes := rfl
    have next : Partial (feed current [[b]]).2 := partial_feed [[b]] kept
    rw [split,feed_append]
    simp only
    rw [ih later next,first,List.length_cons]
    split_ifs with short
    · rw [List.length_append,List.length_singleton]
      congr 1
      omega
    · have small := kept.short
      have whole : current.length+(bytes.length+1)=maxPartialLineBytes+bytes.length := by omega
      rw [whole,Nat.add_mod_left,List.length_nil,Nat.zero_add]

/-- A part of a line that is no block yet gives no text. -/
theorem feed_short (bytes : List UInt8) (single : newline∉bytes) (kept : Partial current)
    (short : current.length+bytes.length < maxPartialLineBytes) :
    feed current (singles bytes)=([],current++bytes) := by
  induction bytes generalizing current with
  | nil => simp [singles,feed]
  | cons b bytes ih =>
    obtain ⟨other,later⟩ := not_or.mp fun mem => single (List.mem_cons.mpr mem)
    rw [List.length_cons] at short
    have first := feed_single kept (Ne.symm other)
    rw [if_pos (by omega)] at first
    have next : Partial (current++[b]) := by
      have after := partial_feed [[b]] kept
      rw [first] at after
      exact after
    have split : singles (b::bytes)=[[b]]++singles bytes := rfl
    rw [split,feed_append,first]
    simp only
    rw [ih later next (by rw [List.length_append,List.length_singleton]; omega)]
    simp

/-- A chunk with the end of a line publishes one text. -/
theorem feed_end (kept : Partial current) (part : List UInt8) (single : newline∉part) :
    feed current [part++[newline]]=([decodeLossy (dropReturn (current++part))],[]) := by
  have ended : endedLines current (part++[newline])=([dropReturn (current++part)],[]) := by
    rw [endedLines_open current single,endedLines,if_pos rfl]
    rfl
  have taken := takeCompleteLines_append kept.single (part++[newline])
  simp only [ended,cutBlocks_nil] at taken
  simp [feed,taken]

theorem framed_append (xs ys : List (List UInt8)) :
    framed current (xs++ys)=(feed current xs).1++framed (feed current xs).2 ys := by
  rw [framed,framed,feed_append,List.append_assoc]

/-- Behind a newline nothing is kept. -/
theorem feed_front (front : List UInt8) (start : front=[] ∨ ∃before,front=before++[newline]) :
    (feed [] (singles front)).2=[] := by
  rcases start with rfl|⟨before,rfl⟩
  · rfl
  · have split : singles (before++[newline])=singles before++[[]++[newline]] := by
      simp [singles]
    rw [split,feed_append]
    simp only
    rw [feed_end (partial_feed (singles before) partial_nil) [] (by simp)]

/-- The end of an unsteady line gives one text more byte by byte than in one chunk. -/
theorem feed_unsteady (kept : Partial current) (full : current.length+1=maxPartialLineBytes)
    (part : List UInt8) (single : newline∉part) (some : part≠[])
    (short : part.length ≤ maxPartialLineBytes) :
    ∃first second one,feed current (singles part++[[newline]])=([first,second],[]) ∧
      feed current [part++[newline]]=([one],[]) := by
  obtain ⟨b,rest,rfl⟩ := List.exists_cons_of_ne_nil some
  obtain ⟨other,later⟩ := not_or.mp fun mem => single (List.mem_cons.mpr mem)
  rw [List.length_cons] at short
  have first := feed_single kept (Ne.symm other)
  rw [if_neg (by omega)] at first
  have middle := feed_short rest later partial_nil (by rw [List.length_nil]; omega)
  have kept_rest : Partial rest := ⟨by omega,later⟩
  have last := feed_end kept_rest [] (by simp)
  rw [List.nil_append] at last middle
  have split : singles (b::rest)++[[newline]]=[[b]]++(singles rest++[[newline]]) := rfl
  have slow : feed current (singles (b::rest)++[[newline]])=
      ([truncatedText (current++[b]),decodeLossy (dropReturn (rest++[]))],[]) := by
    rw [split,feed_append,first]
    simp only
    rw [feed_append,middle]
    simp only
    rw [last]
    rfl
  exact ⟨_,_,_,slow,feed_end kept (b::rest) single⟩

/-- A stream with a line that is not steady has two ways to be read with different texts. -/
theorem framed_apart {bytes : List UInt8} (unsteady : ¬Steady [] bytes) :
    ∃chunks chunks',Chunked bytes chunks ∧ Chunked bytes chunks' ∧
      framed [] chunks≠framed [] chunks' := by
  have size := maxPartialLineBytes_eq
  have buffer := logBufferBytes_eq
  unfold Steady at unsteady
  push Not at unsteady
  obtain ⟨line,mem,long,excess⟩ := unsteady
  obtain ⟨single,where_⟩ := rawLines_split (by simp) mem
  have found : ∃front behind,bytes=front++(line++newline::behind) ∧
      (front=[] ∨ ∃before,front=before++[newline]) := by
    rcases where_ with ⟨part,behind,split,same⟩|⟨front,behind,split⟩
    · exact ⟨[],behind,by rw [split,same]; rfl,.inl rfl⟩
    · exact ⟨front++[newline],behind,by rw [split]; simp,.inr ⟨front,rfl⟩⟩
  obtain ⟨front,behind,rfl,start⟩ := found
  have blocks := Nat.div_add_mod line.length maxPartialLineBytes
  have some_block : 1 ≤ line.length/maxPartialLineBytes :=
    (Nat.le_div_iff_mul_le (by omega)).mpr (by omega)
  generalize rest : line.length%maxPartialLineBytes=r at excess blocks
  generalize count : line.length/maxPartialLineBytes=k at blocks some_block
  have split := List.take_append_drop (line.length-r-1) line
  generalize head : line.take (line.length-r-1)=before at split
  generalize tail : line.drop (line.length-r-1)=part at split
  have wide : maxPartialLineBytes*1 ≤ maxPartialLineBytes*k := Nat.mul_le_mul_left _ some_block
  have before_length : before.length=line.length-r-1 := by
    rw [← head,List.length_take]
    omega
  have part_length : part.length=r+1 := by
    rw [← tail,List.length_drop]
    omega
  have fresh : newline∉before ∧ newline∉part := by
    rw [← split,List.mem_append] at single
    exact not_or.mp single
  -- all is read byte by byte up to the last byte of the last whole block
  have kept := partial_feed (singles before) (partial_feed (singles front) partial_nil)
  have full := length_feed_singles before fresh.1 (partial_feed (singles front) partial_nil)
  rw [feed_front front start] at kept full
  have filled : (feed [] (singles before)).2.length+1=maxPartialLineBytes := by
    have last : before.length=maxPartialLineBytes*(k-1)+(maxPartialLineBytes-1) := by
      have step : maxPartialLineBytes*k=maxPartialLineBytes*(k-1)+maxPartialLineBytes := by
        rw [← Nat.mul_succ]
        congr 1
        omega
      omega
    rw [full,List.length_nil,Nat.zero_add,last,Nat.mul_add_mod,Nat.mod_eq_of_lt (by omega)]
    omega
  obtain ⟨first,second,one,slow,fast⟩ := feed_unsteady kept filled part fresh.2
    (List.ne_nil_of_length_pos (by omega)) (by omega)
  refine ⟨singles front++(singles before++((singles part++[[newline]])++singles behind)),
    singles front++(singles before++([part++[newline]]++singles behind)),⟨?_,?_⟩,⟨?_,?_⟩,?_⟩
  · simp [flatten_singles,← split]
  · intro chunk mem
    simp only [List.mem_append,List.mem_singleton] at mem
    rcases mem with mem|mem|(mem|rfl)|mem
    · exact chunked_singles _ chunk mem
    · exact chunked_singles _ chunk mem
    · exact chunked_singles _ chunk mem
    · exact chunked_singles [newline] _ List.mem_cons_self
    · exact chunked_singles _ chunk mem
  · simp [flatten_singles,← split]
  · intro chunk mem
    simp only [List.mem_append,List.mem_singleton] at mem
    rcases mem with mem|mem|rfl|mem
    · exact chunked_singles _ chunk mem
    · exact chunked_singles _ chunk mem
    · refine ⟨by simp,?_⟩
      rw [List.length_append,List.length_singleton]
      omega
    · exact chunked_singles _ chunk mem
  · intro same
    have split_one (chunks : List (List UInt8)) :
        framed [] (singles front++(singles before++(chunks++singles behind)))=
          (feed [] (singles front)).1++((feed [] (singles before)).1++
            ((feed (feed [] (singles before)).2 chunks).1++
              framed (feed (feed [] (singles before)).2 chunks).2 (singles behind))) := by
      rw [framed_append,feed_front front start,framed_append,framed_append]
    rw [split_one,split_one,slow,fast] at same
    have lengths := congrArg List.length same
    simp only [List.length_append,List.length_cons,List.length_nil] at lengths
    omega

end Unsteady

/-- The texts that a hub publishes for a stream do not depend on how it is read exactly when every line
of it that a newline ends is shorter than 64 KiB, or goes beyond a multiple of 64 KiB by as much as a
chunk can hold besides the newline. -/
theorem pumpLog_independent (hub : LiveLogHub) (serviceId : String) (service : LiveServiceState)
    (found : hub.services[serviceId]?=some service) (stream : LogStream)
    (fresh : service.partialOf stream=[]) (now : Nat) (gapTimes : Nat → Nat) (bytes : List UInt8) :
    (∀chunks chunks',Chunked bytes chunks → Chunked bytes chunks' →
      pumpLog serviceId stream now gapTimes chunks hub=
        pumpLog serviceId stream now gapTimes chunks' hub) ↔
      ∀line∈rawLines [] bytes,line.length < maxPartialLineBytes ∨
        logBufferBytes-1 ≤ line.length%maxPartialLineBytes := by
  have texts (chunks : List (List UInt8)) := pumpLog_eq serviceId stream now gapTimes chunks found
  simp only [texts,fresh]
  constructor
  · intro independent
    by_contra unsteady
    obtain ⟨chunks,chunks',one,two,apart⟩ := framed_apart unsteady
    exact apart (independent chunks chunks' one two)
  · rintro steady chunks chunks' ⟨rfl,fit⟩ ⟨same,fit'⟩
    have first := framed_steady chunks (fun chunk mem => (fit chunk mem).2) partial_nil steady
    have second := framed_steady chunks' (fun chunk mem => (fit' chunk mem).2) partial_nil
      (same ▸ steady)
    rw [first,second,same]

/-- A hub with one service that has written nothing yet. -/
def fixtureHub : LiveLogHub where
  instanceId := "1-1"
  nextSequence := 0
  nextSubscriberId := 0
  services := (∅ : Std.ExtTreeMap String LiveServiceState).insert "api" .default

theorem found_fixtureHub : fixtureHub.services["api"]?=some .default :=
  Std.ExtTreeMap.getElem?_insert_self

theorem pumpLog_independent_short :
    pumpLog "api" .stdout 0 (fun _ => 0) [[104,105],[10]] fixtureHub=
      pumpLog "api" .stdout 0 (fun _ => 0) [[104],[105,10]] fixtureHub := by
  apply (pumpLog_independent fixtureHub "api" .default found_fixtureHub .stdout rfl 0 (fun _ => 0)
    [104,105,10]).mpr
  · intro line mem
    rw [List.mem_singleton.mp mem]
    exact .inl (by decide)
  · unfold Chunked
    decide
  · unfold Chunked
    decide

/-- All but the last byte of a line of 64 KiB. -/
def longPart : List UInt8 := List.replicate (maxPartialLineBytes-1) 97

/-- A line of 64 KiB is published cut, with an empty line behind it, when it is read byte by byte, and
whole when its last byte comes with the newline. -/
theorem pumpLog_depends :
    Chunked (longPart++[97,10]) (singles longPart++[[97],[10]]) ∧
      Chunked (longPart++[97,10]) (singles longPart++[[97,10]]) ∧
      pumpLog "api" .stdout 0 (fun _ => 0) (singles longPart++[[97],[10]]) fixtureHub≠
        pumpLog "api" .stdout 0 (fun _ => 0) (singles longPart++[[97,10]]) fixtureHub := by
  have single : newline∉longPart := by
    intro inside
    exact absurd (List.eq_of_mem_replicate inside) (by decide)
  have kept := partial_feed (singles longPart) partial_nil
  have full : (feed [] (singles longPart)).2.length+1=maxPartialLineBytes := by
    rw [length_feed_singles longPart single partial_nil,longPart,List.length_replicate]
    rfl
  obtain ⟨first,second,one,slow,fast⟩ :=
    feed_unsteady kept full [97] (by decide) (by decide) (by decide)
  refine ⟨⟨by simp [flatten_singles],fun chunk mem => ?_⟩,
    ⟨by simp [flatten_singles],fun chunk mem => ?_⟩,fun same => ?_⟩
  · rcases List.mem_append.mp mem with part|last
    · exact chunked_singles _ chunk part
    · exact chunked_singles [97,10] chunk last
  · rcases List.mem_append.mp mem with part|last
    · exact chunked_singles _ chunk part
    · rw [List.mem_singleton.mp last]
      exact ⟨by decide,by decide⟩
  · rw [pumpLog_eq "api" .stdout 0 (fun _ => 0) _ found_fixtureHub,
      pumpLog_eq "api" .stdout 0 (fun _ => 0) _ found_fixtureHub] at same
    have fresh : LiveServiceState.default.partialOf .stdout=[] := rfl
    have slow' : feed (feed [] (singles longPart)).2 [[97],[10]]=([first,second],[]) := slow
    have fast' : feed (feed [] (singles longPart)).2 [[97,10]]=([one],[]) := fast
    rw [fresh,framed_append,framed_append,framed,framed,slow',fast'] at same
    have lengths := congrArg List.length same
    simp at lengths

end AkuSupervisor
