import Mathlib.Data.List.Flatten
import AkuSupervisor.Adapters.ChunkedBody
import AkuSupervisor.Adapters.ControlClient
import AkuSupervisor.Lib.Interleaving

namespace AkuSupervisor

open Program Interleaving

/-- Why a call on the file system or the generator fails. -/
inductive TokenIoError where
  | notFound
  | alreadyExists
  | invalidData
  | writeZero
  | other (text : String)
  deriving DecidableEq

inductive RuntimeTokenError where
  | read (path : String) (source : TokenIoError)
  | createDirectory (path : String) (source : TokenIoError)
  | generate (source : TokenIoError)
  | write (path : String) (source : TokenIoError)
  | invalid (path : String)
  deriving DecidableEq

/-- What a process asks of its environment about the token; `use` is a server that compares bearers
with the token, or a client that sends it. -/
inductive TokenCall where
  | openFile
  | readToEnd
  | createDirectory
  | generate
  | createNew
  | write (position : Nat) (bytes : List UInt8)
  | sync
  | use (token : RuntimeToken)

def TokenCall.Answer : TokenCall → Type
  | .openFile | .createDirectory | .createNew | .sync => Except TokenIoError Unit
  | .readToEnd => Except TokenIoError (List UInt8)
  | .generate => Except TokenIoError String
  | .write _ _ => Except TokenIoError Nat
  | .use _ => Unit

def TokenCall.ask {ε : Type} (call : TokenCall) :
    Attempt ε TokenCall TokenCall.Answer call.Answer := Attempt.ask call

/-- A part of a process that handles the token, up to its calls. -/
abbrev TokenM := Attempt RuntimeTokenError TokenCall TokenCall.Answer

/-- The path of the token file and the directory that it is created in. -/
structure TokenPath where
  path : String
  parent : Option String

namespace TokenPath

open Attempt (settle)
open TokenCall (ask)

variable (file : TokenPath)

def parse (value : String) : Except RuntimeTokenError RuntimeToken :=
  match RuntimeToken.parse value with
  | some token => .ok token
  | none => .error (.invalid file.path)

def utf8 (bytes : List UInt8) : Except TokenIoError String :=
  match TextLines.decode bytes with
  | some text => .ok text
  | none => .error .invalidData

variable {file}

theorem parse_ok {value : String} {token : RuntimeToken} (parsed : file.parse value=.ok token) :
    RuntimeToken.parse value=some token := by
  unfold parse at parsed
  split at parsed
  · next token' known =>
    cases parsed
    exact known
  · cases parsed

theorem utf8_ok {bytes : List UInt8} {text : String} (decoded : utf8 bytes=.ok text) :
    TextLines.decode bytes=some text := by
  unfold utf8 at decoded
  split at decoded
  · next text' known =>
    cases decoded
    exact known
  · cases decoded

variable (file)

def load : TokenM RuntimeToken := do
  settle (.read file.path) (← ask .openFile)
  let bytes ← settle (.read file.path) (← ask .readToEnd)
  let value ← settle (.read file.path) (utf8 bytes)
  settle id (file.parse value)

/-- Writes all bytes from a position on; `fuel` is at least their number. -/
def writeAll : Nat → Nat → List UInt8 → TokenM Unit
  | 0,_,_ | _+1,_,[] => pure ()
  | fuel+1,position,byte::bytes => do
    let count ← settle (.write file.path) (← ask (.write position (byte::bytes)))
    if count=0 then throw (.write file.path .writeZero)
    else writeAll fuel (position+count) ((byte::bytes).drop count)

/-- Writes a fresh token to a file that nobody else has created. -/
def create : TokenM RuntimeToken := do
  match file.parent with
  | some parent => settle (.createDirectory parent) (← ask .createDirectory)
  | none => pure ()
  let value ← settle .generate (← ask .generate)
  let token ← settle id (file.parse value)
  match ← ask .createNew with
  | .ok () =>
    let bytes := TextLines.encode token.text
    file.writeAll bytes.length 0 bytes
    file.writeAll 1 bytes.length [10]
    settle (.write file.path) (← ask .sync)
    pure token
  | .error .alreadyExists => file.load
  | .error source => throw (.write file.path source)

def loadOrCreate : TokenM RuntimeToken := do
  match ← (monadLift file.load.run : TokenM (Except RuntimeTokenError RuntimeToken)) with
  | .ok token => pure token
  | .error (.read _ .notFound) => file.create
  | .error error => throw error

/-- What a process makes of the token: a server creates it if need be, a client only loads it. -/
inductive TokenRequest where
  | server
  | client

def process : TokenRequest → Program TokenCall TokenCall.Answer (Except RuntimeTokenError Unit)
  | .server => (file.loadOrCreate >>= fun token => ask (.use token) : TokenM Unit).run
  | .client => (file.load >>= fun token => ask (.use token) : TokenM Unit).run

end TokenPath

/-- The token file, if there is one, and the tokens that processes have used, the latest first. -/
structure TokenStore where
  file : Option (List UInt8)
  used : List RuntimeToken
  deriving DecidableEq

/-- What the environment contributes to a call: that it fails, how much is written, what is
generated. -/
structure TokenChoice where
  failure : Option TokenIoError
  count : Nat
  value : String

namespace TokenStore

variable (store : TokenStore)

def attempt {α : Type} (choice : TokenChoice) (answer : Except TokenIoError α)
    (after : TokenStore) : Except TokenIoError α × TokenStore :=
  match choice.failure with
  | some source => (.error source,store)
  | none => (answer,after)

/-- The file with the bytes in the place of what is there. -/
def put (position : Nat) (bytes : List UInt8) : TokenStore :=
  { store with file := store.file.map fun content =>
      content.take position++bytes++content.drop (position+bytes.length) }

def createNew : Except TokenIoError Unit × TokenStore :=
  match store.file with
  | none => (.ok (),{ store with file := some [] })
  | some _ => (.error .alreadyExists,store)

def respond (choice : TokenChoice) (call : TokenCall) (store : TokenStore) :
    call.Answer × TokenStore :=
  match call with
  | .openFile =>
    store.attempt choice (if store.file.isSome then .ok () else .error .notFound) store
  | .readToEnd =>
    store.attempt choice ((store.file.map Except.ok).getD (.error .notFound)) store
  | .createDirectory | .sync => store.attempt choice (.ok ()) store
  | .generate => store.attempt choice (.ok choice.value) store
  | .createNew => store.attempt choice store.createNew.1 store.createNew.2
  | .write position bytes =>
    store.attempt choice (.ok (min choice.count bytes.length))
      (store.put position (bytes.take choice.count))
  | .use token => ((),{ store with used := token::store.used })

end TokenStore

/-- Supervisors and their clients over one token file, which none of them removes; any of them may
crash. -/
def tokenSystem (file : TokenPath) :
    Interleaving TokenStore TokenCall TokenCall.Answer TokenChoice TokenPath.TokenRequest Empty
      (Except RuntimeTokenError Unit) where
  respond _ choice call store := TokenStore.respond choice call store
  program := file.process
  abandon _ store := store
  disturb := Empty.elim

namespace RuntimeToken

/-- What `load` makes of the bytes of the file. -/
def ofBytes (bytes : List UInt8) : Option RuntimeToken := (TextLines.decode bytes).bind parse

/-- What a token file contains when it is complete. -/
def line (token : RuntimeToken) : List UInt8 := TextLines.encode token.text++[10]

variable (token : RuntimeToken)

theorem parse_blanks {blanks : List Char} (blank : ∀c∈blanks,isWhitespace c) :
    parse (token.text++String.ofList blanks)=some token := by
  have solid : ∀c∈token.text.toList,isWhitespace c=false := fun c mem =>
    isWhitespace_token (List.all_eq_true.mp token.digits c mem)
  have bare : trim (token.text++String.ofList blanks)=token.text := by
    rw [trim,String.toList_append,String.toList_ofList,trimChars_blanks solid blank,
      String.ofList_toList]
  simp only [parse,bare,token.length,token.digits,and_self,dite_true]

theorem ofBytes_text : ofBytes (TextLines.encode token.text)=some token := by
  have parsed := @parse_blanks token [] (by simp)
  rw [show token.text++String.ofList []=token.text by simp] at parsed
  rw [ofBytes,TextLines.decode_encode,Option.bind_some,parsed]

theorem ofBytes_line : ofBytes token.line=some token := by
  have parsed := @parse_blanks token ['\n'] (List.forall_mem_singleton.mpr (by decide))
  have text : token.line=TextLines.encode (token.text++String.ofList ['\n']) := by
    rw [TextLines.encode_append]
    rfl
  rw [ofBytes,text,TextLines.decode_encode,Option.bind_some,parsed]

theorem length_line : token.line.length=tokenLength+1 := by
  rw [line,List.length_append,token.length]
  rfl

variable {token} {bytes : List UInt8}

/-- A file with fewer bytes than a token has digits is not taken for one. -/
theorem length_of_ofBytes (reads : ofBytes bytes=some token) : tokenLength ≤ bytes.length := by
  obtain ⟨text,decoded,parsed⟩ := Option.bind_eq_some_iff.mp reads
  have trimmed : (TextLines.encode (trim text)).length=tokenLength := by
    simp only [parse] at parsed
    split at parsed
    · next h => exact h.1
    · cases parsed
  have shorter : (trimChars text.toList).Sublist text.toList := by
    unfold trimChars
    apply List.Sublist.trans _ (List.dropWhile_sublist isWhitespace)
    rw [← List.reverse_sublist,List.reverse_reverse]
    exact List.dropWhile_sublist isWhitespace
  have fewer : (TextLines.encode (trim text)).length ≤ (TextLines.encode text).length := by
    rw [TextLines.encode,TextLines.encode,trim,String.toList_ofList]
    exact (shorter.flatMap _).length_le
  rw [TextLines.encode_of_decode decoded] at fewer
  omega

/-- A part of a token's line is the token or nothing, and what is the token stays it as the line
gets longer. -/
theorem ofBytes_part {other : RuntimeToken} (part : bytes <+: token.line)
    (reads : ofBytes bytes=some other) :
    other=token ∧ ∀more,bytes++more <+: token.line → ofBytes (bytes++more)=some token := by
  have whole (front : List UInt8) (part : front <+: token.line) (long : tokenLength ≤ front.length) :
      ofBytes front=some token := by
    have short := part.length_le
    rw [length_line] at short
    rcases (show front.length=tokenLength ∨ front.length=tokenLength+1 by omega) with text|all
    · have same : front=TextLines.encode token.text := by
        apply List.IsPrefix.eq_of_length _ (text.trans token.length.symm)
        apply List.prefix_of_prefix_length_le part (List.prefix_append _ _)
        rw [text,token.length]
      rw [same,ofBytes_text]
    · rw [part.eq_of_length (all.trans token.length_line.symm),ofBytes_line]
  have long := length_of_ofBytes reads
  refine ⟨?_,fun more longer => whole _ longer (by rw [List.length_append]; omega)⟩
  rw [whole bytes part long] at reads
  exact (Option.some.inj reads).symm

end RuntimeToken

/-- How far a process is: what it may write, and which token it may use. -/
inductive TokenMode where
  | looking
  | prepared (token : RuntimeToken)
  | writing (token : RuntimeToken) (content : List UInt8)
  | knowing (token : RuntimeToken)

namespace TokenMode

/-- Only the creator of the file writes, and no more than its token's line; a token is used after
its line is complete, or after it was read. -/
def permits (m : TokenMode) : TokenCall → Prop
  | .createNew => ∃token,m=.prepared token
  | .write position bytes => ∃token content,m=.writing token content ∧
      position=content.length ∧ content++bytes <+: token.line
  | .use token => m=.knowing token ∨ m=.writing token token.line
  | _ => True

def after (m : TokenMode) : (call : TokenCall) → call.Answer → TokenMode
  | .readToEnd,.ok bytes => (RuntimeToken.ofBytes bytes).elim m .knowing
  | .generate,.ok value => (RuntimeToken.parse value).elim m .prepared
  | .createNew,.ok () =>
    match m with
    | .prepared token => .writing token []
    | _ => m
  | .write _ bytes,.ok count =>
    match m with
    | .writing token content => .writing token (content++bytes.take count)
    | _ => m
  | _,_ => m

end TokenMode

/-- The way processes use the token file. -/
def tokenDiscipline : Discipline TokenCall TokenCall.Answer TokenMode :=
  ⟨TokenMode.permits,TokenMode.after⟩

/-- `x` keeps to the discipline from the mode and succeeds in modes that meet `ok` only. -/
def TokenMode.Keeps {α : Type} (x : TokenM α) (m : TokenMode) (ok : α → TokenMode → Prop) : Prop :=
  Tries tokenDiscipline x m ok fun _ _ => True

namespace TokenMode

open Attempt (settle)
open TokenCall (ask)

variable {file : TokenPath} {m : TokenMode}

-- Keeping to the discipline does not depend on what the text of a token is.
attribute [local irreducible] RuntimeToken.parse

/-- What has been loaded may be used. -/
theorem keeps_load {ok : RuntimeToken → TokenMode → Prop}
    (good : ∀token,ok token (.knowing token)) : Keeps file.load m ok := by
  refine tries_then trivial fun _ _ _ => tries_then trivial fun x bytes answered => ?_
  refine tries_settle_then fun value decoded => ?_
  refine tries_settle (fun token parsed => ?_) fun _ _ => trivial
  have read : RuntimeToken.ofBytes bytes=some token := by
    rw [RuntimeToken.ofBytes,TokenPath.utf8_ok decoded,Option.bind_some,TokenPath.parse_ok parsed]
  rw [show x=.ok bytes from answered]
  show ok token ((RuntimeToken.ofBytes bytes).elim _ _)
  rw [read]
  exact good token

/-- A buffer is written whole where the file ends, or the write fails. -/
theorem keeps_writeAll (token : RuntimeToken) {ok : Unit → TokenMode → Prop} (fuel position : Nat)
    (bytes content : List UInt8) (enough : bytes.length≤fuel)
    (atEnd : bytes≠[] → position=content.length) (part : content++bytes <+: token.line)
    (good : ok () (.writing token (content++bytes))) :
    Keeps (file.writeAll fuel position bytes) (.writing token content) ok := by
  induction fuel generalizing position bytes content with
  | zero =>
    have empty : bytes=[] := List.eq_nil_of_length_eq_zero (by omega)
    subst empty
    rw [List.append_nil] at good
    exact good
  | succ fuel ih =>
    cases bytes with
    | nil =>
      rw [List.append_nil] at good
      exact good
    | cons byte bytes =>
      have start := atEnd (List.cons_ne_nil _ _)
      refine tries_then ⟨token,content,rfl,start,part⟩ fun x count answered => ?_
      rw [show x=.ok count from answered]
      show Keeps _ (.writing token (content++(byte::bytes).take count)) ok
      by_cases none : count=0
      · rw [if_pos none]
        exact trivial
      rw [if_neg none]
      rw [List.length_cons] at enough
      have joined : content++(byte::bytes).take count++(byte::bytes).drop count=
          content++byte::bytes := by
        rw [List.append_assoc,List.take_append_drop]
      refine ih _ _ _ ?_ (fun more => ?_) (joined ▸ part) (joined ▸ good)
      · rw [List.length_drop,List.length_cons]
        omega
      · have within : count < (byte::bytes).length := by
          by_contra past
          exact more (List.drop_eq_nil_of_le (by omega))
        rw [List.length_append,List.length_take,start]
        omega

theorem keeps_create {ok : RuntimeToken → TokenMode → Prop}
    (made : ∀token,ok token (.writing token token.line))
    (loaded : ∀token,ok token (.knowing token)) : Keeps file.create m ok := by
  have rest (m' : TokenMode) : Keeps (do
      let value ← settle .generate (← ask .generate)
      let token ← settle id (file.parse value)
      match ← ask .createNew with
      | .ok () =>
        let bytes := TextLines.encode token.text
        file.writeAll bytes.length 0 bytes
        file.writeAll 1 bytes.length [10]
        settle (.write file.path) (← ask .sync)
        pure token
      | .error .alreadyExists => file.load
      | .error source => throw (.write file.path source)) m' ok := by
    refine tries_then trivial fun x value answered => ?_
    refine tries_settle_then fun token parsed => ?_
    rw [show x=.ok value from answered]
    show Tries _ _ ((RuntimeToken.parse value).elim _ _) ok _
    rw [TokenPath.parse_ok parsed]
    apply (tries_bind _ _).mpr
    refine (tries_ask _).mpr ⟨⟨token,rfl⟩,fun created => ?_⟩
    cases created with
    | error source =>
      cases source with
      | alreadyExists => exact keeps_load loaded
      | _ => exact trivial
    | ok _ =>
      apply (tries_bind _ _).mpr
      have whole : ([] : List UInt8)++TextLines.encode token.text <+: token.line :=
        List.prefix_append _ _
      refine keeps_writeAll token _ 0 _ [] (Nat.le_refl _) (fun _ => rfl) whole ?_
      apply (tries_bind _ _).mpr
      refine keeps_writeAll token 1 _ [10] _ (Nat.le_refl _) (fun _ => rfl)
        (List.prefix_refl token.line) ?_
      exact tries_then trivial fun _ _ _ => made token
  unfold TokenPath.create
  cases file.parent with
  | none => exact rest m
  | some parent => exact tries_then trivial fun _ _ _ => rest _

/-- A server and a client use a token that they have read or completely written. -/
theorem follows_process (request : TokenPath.TokenRequest) :
    (file.process request).Follows tokenDiscipline .looking fun _ _ => True := by
  have use {x : TokenM RuntimeToken} (keeps : Keeps x .looking fun token m =>
      m=.knowing token ∨ m=.writing token token.line) :
      (x >>= fun token => ask (.use token) : TokenM Unit).run.Follows tokenDiscipline .looking
        fun _ _ => True := by
    have used : Keeps (x >>= fun token => ask (.use token)) .looking fun _ _ => True :=
      (tries_bind _ _).mpr (Tries.mono keeps
        (fun token _ may => (tries_ask _).mpr ⟨may,fun _ => trivial⟩) fun _ _ _ => trivial)
    exact Follows.mono used fun _ _ _ => trivial
  cases request with
  | client => exact use (keeps_load fun _ => .inl rfl)
  | server =>
    apply use
    have loads : Keeps file.load .looking fun token m' => m'=.knowing token :=
      keeps_load fun _ => rfl
    refine tries_caught loads (fun token m' known => .inl known) fun error m' _ => ?_
    cases error with
    | read path source =>
      cases source with
      | notFound => exact keeps_create (fun _ => .inr rfl) fun _ => .inl rfl
      | _ => exact trivial
    | _ => exact trivial

end TokenMode

end AkuSupervisor
