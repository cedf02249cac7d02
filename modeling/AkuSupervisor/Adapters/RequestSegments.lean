import AkuSupervisor.Adapters.HttpRequest

namespace AkuSupervisor

/-- The request that the bytes hold which are sent until the stream ends, or why they hold none. How
the bytes come in reads does not matter for it. -/
def requestIn (sent : List UInt8) : Except RequestError HttpRequest :=
  match Cut.once headerEnd sent with
  | none => .error .unexpectedEnd
  | some (front,rest) => do
    let ((method,target),scan) ← parseHeaders (front++headerEnd)
    let wanted := scan.contentLength.getD 0
    if rest.length<wanted then throw .unexpectedEnd
    return { scan.headers with method, target, body := rest.take wanted }

/-- A header section within its limit, and behind it as many bytes as it announces. -/
structure Delimited (front rest : List UInt8) : Prop where
  section_ : Cut.once headerEnd (front++headerEnd++rest)=some (front,rest)
  fits : (front++headerEnd).length ≤ maxHeaderBytes
  body : ∀(fields : String × String) (scan : HeaderScan),
    parseHeaders (front++headerEnd)=.ok (fields,scan) →
      rest.length=scan.contentLength.getD 0 ∧ rest.length ≤ maxBodyBytes

theorem readChunk_ok {bytes chunk : List UInt8} (filled : chunk≠[]) :
    readChunk bytes (.ok chunk)=.ok (bytes++chunk) := if_neg filled

/-- However the header section arrives, it is found where it ends, and what has been read by then is
a first part of what is sent. -/
theorem readHeader_found {sent front rest : List UInt8}
    (cut : Cut.once headerEnd sent=some (front,rest))
    (fits : (front++headerEnd).length ≤ maxHeaderBytes) (more : List ReadResult)
    {chunks : List (List UInt8)} (filled : ∀chunk∈chunks,chunk≠[]) {bytes : List UInt8}
    (missing : Cut.once headerEnd bytes=none) (joined : bytes++chunks.flatten=sent) :
    ∃(read : List UInt8) (left : List (List UInt8)),readHeader (chunks.map .ok++more) bytes=
        .ok (front.length+4,front++headerEnd++read,left.map .ok++more) ∧
      read++left.flatten=rest ∧ ∀chunk∈left,chunk≠[] := by
  induction chunks generalizing bytes with
  | nil =>
    rw [List.flatten_nil,List.append_nil] at joined
    rw [← joined,missing] at cut
    cases cut
  | cons chunk chunks ih =>
    have here := filled chunk List.mem_cons_self
    have later (c : List UInt8) (mem : c∈chunks) := filled c (List.mem_cons_of_mem _ mem)
    rw [List.flatten_cons,← List.append_assoc] at joined
    -- without the end of the section fewer bytes have been read than it has
    have room : ¬maxHeaderBytes ≤ bytes.length := by
      intro full
      have split := Cut.once_append cut
      have whole : front++headerEnd <+: sent := ⟨rest,split.symm⟩
      have part : bytes <+: sent := ⟨chunk++chunks.flatten,by rw [← joined,List.append_assoc]⟩
      have inside := List.prefix_of_prefix_length_le whole part (Nat.le_trans fits full)
      obtain ⟨tail,same⟩ := inside
      have absent := (Cut.once_eq_none (by decide)).mp missing
      exact absent ⟨front,tail,same⟩
    rw [List.map_cons,List.cons_append,readHeader,if_neg room,readChunk_ok here]
    cases found : Cut.once headerEnd (bytes++chunk) with
    | none =>
      simp only [found]
      exact ih later found joined
    | some parts =>
      obtain ⟨before,after⟩ := parts
      have extended := Cut.once_extend (by decide) found chunks.flatten
      rw [joined,cut] at extended
      cases extended
      refine ⟨after,chunks,?_,rfl,later⟩
      simp only [found]
      rw [← Cut.once_append found]

theorem readHeader_missing {sent : List UInt8} (missing : Cut.once headerEnd sent=none)
    (short : sent.length < maxHeaderBytes) {chunks : List (List UInt8)}
    (filled : ∀chunk∈chunks,chunk≠[]) {bytes : List UInt8} (joined : bytes++chunks.flatten=sent) :
    readHeader (chunks.map .ok) bytes=.error .unexpectedEnd := by
  have size := congrArg List.length joined
  rw [List.length_append] at size
  have room : ¬maxHeaderBytes ≤ bytes.length := by omega
  induction chunks generalizing bytes with
  | nil =>
    rw [List.map_nil,readHeader,if_neg room]
  | cons chunk chunks ih =>
    have here := filled chunk List.mem_cons_self
    rw [List.flatten_cons,← List.append_assoc] at joined
    have total := congrArg List.length joined
    rw [List.length_append] at total
    rw [List.map_cons,readHeader,if_neg room,readChunk_ok here]
    have absent : Cut.once headerEnd (bytes++chunk)=none := by
      cases found : Cut.once headerEnd (bytes++chunk) with
      | none => rfl
      | some parts =>
        have extended := Cut.once_extend (by decide) found chunks.flatten
        rw [joined,missing] at extended
        cases extended
    simp only [absent]
    exact ih (fun c mem => filled c (List.mem_cons_of_mem _ mem)) joined total (by omega)

/-- However the body arrives, it is complete once enough has been read. -/
theorem readBody_complete {header wanted : Nat} {whole : List UInt8}
    (enough : wanted ≤ whole.length-header) (fits : whole.length-header ≤ maxBodyBytes) (more : List ReadResult)
    {chunks : List (List UInt8)} (filled : ∀chunk∈chunks,chunk≠[]) {bytes : List UInt8}
    (joined : bytes++chunks.flatten=whole) :
    ∃read,readBody header wanted (chunks.map .ok++more) bytes=.ok read ∧ read <+: whole ∧
      wanted ≤ read.length-header := by
  induction chunks generalizing bytes with
  | nil =>
    rw [List.flatten_nil,List.append_nil] at joined
    refine ⟨bytes,?_,joined ▸ List.prefix_rfl,joined ▸ enough⟩
    subst joined
    cases more with
    | nil => rw [List.map_nil,List.append_nil,readBody,if_pos enough]
    | cons read reads => rw [List.map_nil,List.nil_append,readBody,if_pos enough]
  | cons chunk chunks ih =>
    have here := filled chunk List.mem_cons_self
    rw [List.flatten_cons] at joined
    rw [List.map_cons,List.cons_append,readBody]
    by_cases complete : wanted ≤ bytes.length-header
    · rw [if_pos complete]
      exact ⟨bytes,rfl,⟨_,joined⟩,complete⟩
    · rw [← List.append_assoc] at joined
      have size := congrArg List.length joined
      rw [List.length_append] at size
      have room : ¬maxBodyBytes < (bytes++chunk).length-header := by omega
      rw [if_neg complete,readChunk_ok here]
      simp only [if_neg room]
      exact ih (fun c mem => filled c (List.mem_cons_of_mem _ mem)) joined

theorem readBody_short {header wanted : Nat} {whole : List UInt8}
    (lacks : whole.length-header < wanted) (fits : whole.length-header ≤ maxBodyBytes)
    {chunks : List (List UInt8)} (filled : ∀chunk∈chunks,chunk≠[]) {bytes : List UInt8}
    (joined : bytes++chunks.flatten=whole) :
    readBody header wanted (chunks.map .ok) bytes=.error .unexpectedEnd := by
  have size := congrArg List.length joined
  rw [List.length_append] at size
  have incomplete : ¬wanted ≤ bytes.length-header := by omega
  induction chunks generalizing bytes with
  | nil => rw [List.map_nil,readBody,if_neg incomplete]
  | cons chunk chunks ih =>
    have here := filled chunk List.mem_cons_self
    rw [List.flatten_cons,← List.append_assoc] at joined
    have total := congrArg List.length joined
    rw [List.length_append] at total
    have room : ¬maxBodyBytes < (bytes++chunk).length-header := by omega
    rw [List.map_cons,readBody,if_neg incomplete,readChunk_ok here]
    simp only [if_neg room]
    exact ih (fun c mem => filled c (List.mem_cons_of_mem _ mem)) joined total (by omega)

/-- What is taken of the bytes behind the headers, however they arrive. -/
theorem readBody_take {header wanted : Nat} {whole : List UInt8}
    (fits : whole.length-header ≤ maxBodyBytes) {more : List ReadResult}
    (ended : whole.length-header < wanted → more=[]) {chunks : List (List UInt8)}
    (filled : ∀chunk∈chunks,chunk≠[]) {bytes : List UInt8} (joined : bytes++chunks.flatten=whole) :
    (readBody header wanted (chunks.map .ok++more) bytes).map
        (fun read => (read.drop header).take wanted)=
      if whole.length-header < wanted then .error .unexpectedEnd
      else .ok ((whole.drop header).take wanted) := by
  by_cases lacks : whole.length-header < wanted
  · rw [if_pos lacks,ended lacks,List.append_nil,readBody_short lacks fits filled joined]
    rfl
  · obtain ⟨read,done,part,enough⟩ :=
      readBody_complete (Nat.not_lt.mp lacks) fits more filled joined
    obtain ⟨tail,rfl⟩ := part
    rw [if_neg lacks,done,List.drop_append,
      List.take_append_of_le_length (by rw [List.length_drop]; exact enough)]
    rfl

/-- What is sent of a delimited stream holds its header section, or it is shorter than that. -/
theorem Delimited.sent_cases {front rest sent : List UInt8} (delimited : Delimited front rest)
    (part : sent <+: front++headerEnd++rest) :
    (∃body,sent=front++headerEnd++body ∧ body <+: rest ∧
        Cut.once headerEnd sent=some (front,body)) ∨
      Cut.once headerEnd sent=none ∧ sent.length < maxHeaderBytes := by
  rcases Cut.prefix_append_cases part with ⟨short,proper⟩|⟨body,split,inside⟩
  · have missing : Cut.once headerEnd sent=none := by
      cases found : Cut.once headerEnd sent with
      | none => rfl
      | some parts =>
        obtain ⟨before,after⟩ := parts
        obtain ⟨tail,whole⟩ := short
        have extended := Cut.once_extend (by decide) found (tail++rest)
        rw [← List.append_assoc,whole,delimited.section_] at extended
        have behind := congrArg (fun cut => cut.2.length) (Option.some.inj extended)
        simp only [List.length_append] at behind
        have nothing : tail=[] := List.length_eq_zero_iff.mp (by omega)
        rw [nothing,List.append_nil] at whole
        exact absurd whole proper
    refine .inr ⟨missing,?_⟩
    have less := short.length_le
    have other : sent.length≠(front++headerEnd).length := fun same =>
      proper (short.eq_of_length same)
    have fits := delimited.fits
    omega
  · refine .inl ⟨body,split,inside,?_⟩
    cases found : Cut.once headerEnd sent with
    | none =>
      have absent := (Cut.once_eq_none (by decide)).mp found
      exact absurd ⟨front,body,split.symm⟩ absent
    | some parts =>
      obtain ⟨before,after⟩ := parts
      obtain ⟨tail,whole⟩ := inside
      have extended := Cut.once_extend (by decide) found tail
      rw [split,List.append_assoc,whole,delimited.section_] at extended
      cases extended
      have here := Cut.once_append found
      rw [split] at here
      rw [← List.append_cancel_left here]

/-- A request is read from what is sent and not from the pieces in which it comes. Behind a whole
request, nothing more is read. -/
theorem readRequest_eq {front rest sent : List UInt8} (delimited : Delimited front rest)
    (part : sent <+: front++headerEnd++rest) {chunks : List (List UInt8)}
    (filled : ∀chunk∈chunks,chunk≠[]) (joined : chunks.flatten=sent) {more : List ReadResult}
    (ended : sent≠front++headerEnd++rest → more=[]) :
    readRequest (chunks.map .ok++more)=requestIn sent := by
  have start : Cut.once headerEnd []=none := rfl
  rcases delimited.sent_cases part with ⟨body,split,inside,cut⟩|⟨missing,short⟩
  · obtain ⟨read,left,header,rests,filled'⟩ :=
      readHeader_found cut delimited.fits more filled start joined
    have section_ : (front++headerEnd++read).take (front.length+4)=front++headerEnd := by
      exact List.take_left' (by simp [headerEnd])
    have behind : (front++headerEnd++body).drop (front.length+4)=body :=
      List.drop_left' (by simp [headerEnd])
    have size : (front++headerEnd++body).length-(front.length+4)=body.length := by
      rw [← List.length_drop,behind]
    have whole : (front++headerEnd++read)++left.flatten=front++headerEnd++body := by
      rw [List.append_assoc,rests]
    have less := inside.length_le
    rw [readRequest,header,requestIn,cut]
    simp only [bind,Except.bind,section_]
    cases parsed : parseHeaders (front++headerEnd) with
    | error e => rfl
    | ok parsedHeaders =>
      obtain ⟨⟨method,target⟩,scan⟩ := parsedHeaders
      obtain ⟨all,small⟩ := delimited.body _ _ parsed
      have fits : (front++headerEnd++body).length-(front.length+4) ≤ maxBodyBytes := by
        rw [size]
        omega
      have ended' : (front++headerEnd++body).length-(front.length+4) < scan.contentLength.getD 0 →
          more=[] := fun lacks => ended fun same => by
        rw [split] at same
        rw [size,List.append_cancel_left same] at lacks
        omega
      have taken := readBody_take fits ended' filled' whole
      rw [size,behind] at taken
      dsimp only
      cases result : readBody (front.length+4) (scan.contentLength.getD 0)
          (left.map .ok++more) (front++headerEnd++read) with
      | error e =>
        rw [result] at taken
        by_cases lacks : body.length < scan.contentLength.getD 0
        · rw [if_pos lacks] at taken ⊢
          cases taken
          rfl
        · rw [if_neg lacks] at taken
          cases taken
      | ok bytes =>
        rw [result] at taken
        by_cases lacks : body.length < scan.contentLength.getD 0
        · rw [if_pos lacks] at taken
          cases taken
        · rw [if_neg lacks] at taken ⊢
          rw [← Except.ok.inj taken]
  · have ends : more=[] := by
      refine ended fun same => ?_
      rw [same,delimited.section_] at missing
      cases missing
    rw [ends,List.append_nil,readRequest,readHeader_missing missing short filled joined,requestIn,
      missing]
    rfl

/-- Two ways in which the same bytes arrive lead to the same request or the same rejection, and the
body of a request is as long as its headers announce. -/
theorem readRequest_ignores_segments {front rest sent : List UInt8}
    (delimited : Delimited front rest) (part : sent <+: front++headerEnd++rest)
    (first second : List (List UInt8)) (filled : ∀chunk∈first++second,chunk≠[])
    (joined : first.flatten=sent) (joined' : second.flatten=sent) (more more' : List ReadResult)
    (ended : sent≠front++headerEnd++rest → more=[] ∧ more'=[]) :
    readRequest (first.map .ok++more)=readRequest (second.map .ok++more') ∧
      ∀request,readRequest (first.map .ok++more)=.ok request →
        ∃fields scan,parseHeaders (front++headerEnd)=.ok (fields,scan) ∧
          request.body.length=scan.contentLength.getD 0 ∧ request.body <+: rest := by
  have left (chunk : List UInt8) (mem : chunk∈first) : chunk≠[] :=
    filled chunk (List.mem_append_left _ mem)
  have right (chunk : List UInt8) (mem : chunk∈second) : chunk≠[] :=
    filled chunk (List.mem_append_right _ mem)
  rw [readRequest_eq delimited part left joined fun proper => (ended proper).1,
    readRequest_eq delimited part right joined' fun proper => (ended proper).2]
  refine ⟨rfl,fun request found => ?_⟩
  rcases delimited.sent_cases part with ⟨body,-,inside,cut⟩|⟨missing,-⟩
  · rw [requestIn,cut] at found
    simp only [bind,Except.bind] at found
    cases parsed : parseHeaders (front++headerEnd) with
    | error e =>
      rw [parsed] at found
      cases found
    | ok parsedHeaders =>
      obtain ⟨fields,scan⟩ := parsedHeaders
      rw [parsed] at found
      dsimp only at found
      split_ifs at found with lacks
      cases found
      refine ⟨fields,scan,rfl,?_,(List.take_prefix _ _).trans inside⟩
      simp only [List.length_take]
      omega
  · rw [requestIn,missing] at found
    cases found

def announcedTwo : List UInt8 := "GET / HTTP/1.1\r\nContent-Length: 2".toUTF8.data.toList

theorem delimited_announcedTwo : Delimited announcedTwo [104,105] where
  section_ := by decide +kernel
  fits := by decide +kernel
  body fields scan parsed := by
    have found : parseHeaders (announcedTwo++headerEnd)=
        .ok (("GET","/"),⟨HeaderScan.start.headers,some 2⟩) := by decide +kernel
    rw [found] at parsed
    cases parsed
    decide

/-- The end of the headers and the body are both split, or all comes at once and nothing more can be
read. -/
theorem readRequest_ignores_segments_split :
    readRequest ([announcedTwo++[13],[10,13],[10,104],[105]].map .ok++[])=
      readRequest ([announcedTwo++headerEnd++[104,105]].map .ok++[.error "reset"]) :=
  (readRequest_ignores_segments delimited_announcedTwo List.prefix_rfl
    [announcedTwo++[13],[10,13],[10,104],[105]] [announcedTwo++headerEnd++[104,105]]
    (by decide +kernel) (by decide +kernel) (by decide +kernel) [] [.error "reset"]
    fun proper => absurd rfl proper).1

end AkuSupervisor
