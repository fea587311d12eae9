import Librtcdc.Metadata.Convergence
import Librtcdc.Metadata.Routing

set_option autoImplicit false

namespace Librtcdc.Repositories

open Systems Librtcdc.Metadata

-- The metadata server and one file server, with the texts that are under way between them.
structure Servers where
  db : Db
  fileserver : FsStore
  directories : List Bytes
  toFileserver : List CString
  toMetadata : List CString

-- A position tells which of the texts under way is taken.
inductive Action where
  | request (wsi : Wsi) (input : Received)
  | mkdir (position : Nat) (wsi : Wsi) (input : FsReceived)
  | reply (position : Nat) (oid : Oid)

inductive Event where
  | existed (sessionId : CString)
  | made (sessionId uriCode : CString)
  deriving DecidableEq

def textIn (J : Jansson) (key : String) (dataStr : CString) : Option CString :=
  (J.loads dataStr).bind fun recvd => recvd.text key

def repoPath (repoName : CString) : Bytes :=
  warehousePath.val ++ repoName.val

def isInit (J : Jansson) (dataStr : CString) : Bool :=
  match (J.loads dataStr).map metadataType with
  | some (.ok (some .syInit)) => true
  | _ => false

-- `bson_oid_init` generates no identifier twice.
def Generated (J : Jansson) (db : Db) (oid : Oid) : Prop :=
  (findSession db oid.val).isNone = true ∧ J.accepts oid.val = true

instance (J : Jansson) (db : Db) (oid : Oid) : Decidable (Generated J db oid) :=
  inferInstanceAs (Decidable (_ ∧ _))

def sentTexts {Store : Type} (served : Served Store) : List CString :=
  served.sent.toList.map Message.data

def requested (J : Jansson) (s : Servers) (wsi : Wsi) (input : Received) : Option Servers :=
  if isInit J input.dataStr = true ∧ Generated J s.db input.oid then
    match callbackSdpReceive J s.db wsi input with
    | .error _ => none
    | .ok served =>
        some { s with db := served.store, toFileserver := s.toFileserver ++ sentTexts served }
  else none

-- The call of mkdir fails when the directory is there, or for a reason of its own.
def handled (J : Jansson) (s : Servers) (position : Nat) (wsi : Wsi) (input : FsReceived)
    (dataStr repoName : CString) : Option Servers :=
  let mkdirFails := input.mkdirFails || decide (repoPath repoName ∈ s.directories)
  match callbackFileserverReceive J s.fileserver wsi { input with dataStr, mkdirFails } with
  | .error _ => none
  | .ok served =>
      some { s with
        fileserver := served.store
        directories := if mkdirFails then s.directories else repoPath repoName :: s.directories
        toFileserver := s.toFileserver.eraseIdx position
        toMetadata := s.toMetadata ++ sentTexts served }

def replied (J : Jansson) (s : Servers) (position : Nat) (oid : Oid) (dataStr : CString) :
    Option Servers :=
  match callbackSdpReceive J s.db (getWsi s.db fileserverDns) { dataStr, oid } with
  | .error _ => none
  | .ok served =>
      some { s with db := served.store, toMetadata := s.toMetadata.eraseIdx position }

-- A handler that faults takes no step.
def step (J : Jansson) (s : Servers) : Action → Option (Servers × List Event)
  | .request wsi input => (requested J s wsi input).map fun next => (next, [])
  | .mkdir position wsi input => do
      let dataStr ← s.toFileserver[position]?
      let repoName ← textIn J "repo_name" dataStr
      let sessionId ← textIn J "session_id" dataStr
      let next ← handled J s position wsi input dataStr repoName
      return (next, if repoPath repoName ∈ s.directories then [.existed sessionId] else [])
  | .reply position oid => do
      let dataStr ← s.toMetadata[position]?
      let sessionId ← textIn J "session_id" dataStr
      let next ← replied J s position oid dataStr
      return (next, [.made sessionId oid.val])

def Makes (J : Jansson) (s : Servers) : Action → Prop
  | .mkdir position _ input => input.mkdirFails = false ∧ ∀ dataStr ∈ s.toFileserver[position]?,
      ∀ repoName ∈ textIn J "repo_name" dataStr, repoPath repoName ∉ s.directories
  | _ => True

def repository (row : FilesysRow) : BitVec 32 × CString :=
  (row.fileserverWsi, row.repoName)

structure OnePerDirectory (s : Servers) (events : List Event) : Prop where
  distinct : (s.db.filesys.map repository).Nodup
  refused : ∀ sessionId, .existed sessionId ∈ events → ∀ uriCode, .made sessionId uriCode ∉ events

structure Settled (s : Servers) : Prop where
  toFileserver : s.toFileserver = []
  toMetadata : s.toMetadata = []
  nodup : (s.db.filesys.map FilesysRow.repoName).Nodup
  present : ∀ row ∈ s.db.filesys, repoPath row.repoName ∈ s.directories

-- What the servers have agreed on: the names that are recorded, and the replies under way, each with
-- its session and its name.
structure Ledger where
  recorded : List CString
  replies : List (CString × CString)
  directories : List Bytes

def Ledger.names (l : Ledger) : List CString :=
  l.recorded ++ l.replies.map Prod.snd

inductive Ledger.Moves (l : Ledger) : Bool → Ledger → List Event → Prop
  | still : Moves l false l []
  | made (sessionId repoName : CString) (absent : repoPath repoName ∉ l.directories) :
      Moves l false
        { l with replies := l.replies ++ [(sessionId, repoName)]
                 directories := repoPath repoName :: l.directories } []
  | failed (sessionId repoName : CString) :
      Moves l true { l with replies := l.replies ++ [(sessionId, repoName)] }
        (if repoPath repoName ∈ l.directories then [.existed sessionId] else [])
  | recorded (position : Nat) (sessionId repoName uriCode : CString)
      (found : l.replies[position]? = some (sessionId, repoName)) :
      Moves l false
        { l with recorded := l.recorded ++ [repoName]
                 replies := l.replies.eraseIdx position } [.made sessionId uriCode]

structure Ledger.Sound (l : Ledger) : Prop where
  nodup : l.names.Nodup
  present : ∀ name ∈ l.names, repoPath name ∈ l.directories

def Ledger.Traced (l : Ledger) (events : List Event) : Prop :=
  ∀ sessionId, .existed sessionId ∈ events →
    sessionId ∈ l.replies.map Prod.fst ∨ ∃ uriCode, .made sessionId uriCode ∈ events

variable {l l' : Ledger} {failed : Bool} {events emitted : List Event}

theorem names_recorded {position : Nat} {sessionId repoName : CString}
    (found : l.replies[position]? = some (sessionId, repoName)) :
    (l.recorded ++ [repoName] ++ (l.replies.eraseIdx position).map Prod.snd).Perm l.names := by
  obtain ⟨inside, here⟩ := List.getElem?_eq_some_iff.mp found
  have moved := (List.getElem_cons_eraseIdx_perm inside).map Prod.snd
  rw [here, List.map_cons] at moved
  rw [List.append_assoc]
  exact moved.append_left l.recorded

theorem Ledger.Sound.moves (sound : l.Sound) (moves : l.Moves false l' emitted) : l'.Sound := by
  cases moves with
  | still => exact sound
  | made sessionId repoName absent =>
      have names : Ledger.names
          { l with replies := l.replies ++ [(sessionId, repoName)]
                   directories := repoPath repoName :: l.directories } =
          l.names ++ [repoName] := by simp [Ledger.names]
      constructor
      · rw [names]
        refine List.nodup_append.mpr ⟨sound.nodup, List.nodup_singleton _, ?_⟩
        intro name member last here same
        rw [List.mem_singleton.mp here] at same
        exact absent (same ▸ sound.present name member)
      · rw [names]
        intro name member
        rcases List.mem_append.mp member with before | last
        · exact List.mem_cons_of_mem _ (sound.present name before)
        · rw [List.mem_singleton.mp last]
          exact List.mem_cons_self
  | recorded position sessionId repoName uriCode found =>
      have same := names_recorded found
      exact ⟨same.nodup_iff.mpr sound.nodup, fun name member =>
        sound.present name (same.mem_iff.mp member)⟩

theorem Ledger.Traced.moves (traced : l.Traced events) (moves : l.Moves failed l' emitted) :
    l'.Traced (events ++ emitted) := by
  cases moves with
  | still => simpa using traced
  | made sessionId repoName absent =>
      intro id existed
      rw [List.append_nil] at existed ⊢
      rcases traced id existed with under | made
      · exact .inl (by simpa using Or.inl (by simpa using under))
      · exact .inr made
  | failed sessionId repoName =>
      intro id existed
      rcases List.mem_append.mp existed with before | now
      · rcases traced id before with under | ⟨uriCode, made⟩
        · exact .inl (by simpa using Or.inl (by simpa using under))
        · exact .inr ⟨uriCode, List.mem_append_left _ made⟩
      · split_ifs at now
        · obtain rfl : id = sessionId := by simpa using now
          exact .inl (by simp)
        · simp at now
  | recorded position sessionId repoName uriCode found =>
      intro id existed
      have before : Event.existed id ∈ events := by simpa using existed
      rcases traced id before with under | ⟨uriCode', made⟩
      · by_cases here : id = sessionId
        · exact .inr ⟨uriCode, by simp [here]⟩
        · refine .inl ?_
          obtain ⟨inside, at_position⟩ := List.getElem?_eq_some_iff.mp found
          have moved := (List.getElem_cons_eraseIdx_perm inside).map Prod.fst
          rw [at_position, List.map_cons] at moved
          exact (List.mem_cons.mp (moved.mem_iff.mpr under)).resolve_left here
      · exact .inr ⟨uriCode', List.mem_append_left _ made⟩

structure Reads (J : Jansson) : Prop where
  lossless : J.Lossless
  accepts : ∀ dataStr key value, textIn J key dataStr = some value → J.accepts value = true

def initBody (repoName sessionId : CString) : Json :=
  object .syInit [("repo_name", .string repoName), ("session_id", .string sessionId)]

def initOkBody (sessionId : CString) : Json :=
  object .fsInitOk [("session_id", .string sessionId)]

structure Known (J : Jansson) (db : Db) (sessionId repoName : CString) : Prop where
  idAccepted : J.accepts sessionId = true
  nameAccepted : J.accepts repoName = true
  stored : (findSession db sessionId).map SessionRow.repoName = some repoName

structure Agreed (J : Jansson) (s : Servers) (l : Ledger) : Prop where
  forwarded : ∀ dataStr ∈ s.toFileserver, ∃ sessionId repoName,
    dataStr = J.dumps (initBody repoName sessionId) ∧ Known J s.db sessionId repoName
  replies : s.toMetadata = l.replies.map fun reply => J.dumps (initOkBody reply.1)
  known : ∀ reply ∈ l.replies, Known J s.db reply.1 reply.2
  recorded : s.db.filesys.map FilesysRow.repoName = l.recorded
  directories : s.directories = l.directories

variable {J : Jansson} {s next : Servers} {wsi : Wsi} {oid : Oid} {db : Db}
  {dataStr sessionId repoName : CString} {position : Nat} {recvd : Json} {action : Action}

theorem isInit_true : isInit J dataStr = true ↔
    ∃ recvd, J.loads dataStr = some recvd ∧ metadataType recvd = .ok (some .syInit) := by
  unfold isInit
  cases J.loads dataStr with
  | none => simp
  | some recvd => simp only [Option.map_some, Option.some.injEq, exists_eq_left']; split <;> simp_all

theorem textIn_loaded {key : String} (loaded : J.loads dataStr = some recvd) :
    textIn J key dataStr = recvd.text key := by
  rw [textIn, loaded, Option.bind_some]

theorem Reads.initBody (reads : Reads J) (known : Known J db sessionId repoName) :
    J.loads (J.dumps (initBody repoName sessionId)) =
      some (Repositories.initBody repoName sessionId) := by
  apply reads.lossless
  simp [Repositories.initBody, object, holds_code, known.idAccepted, known.nameAccepted]

theorem Reads.initOkBody (reads : Reads J) (known : Known J db sessionId repoName) :
    J.loads (J.dumps (initOkBody sessionId)) = some (Repositories.initOkBody sessionId) := by
  apply reads.lossless
  simp [Repositories.initOkBody, object, holds_code, known.idAccepted]

theorem Known.inserted (known : Known J db sessionId repoName) (id : CString)
    (fileserverWsi clientWsi : Wsi) (name : CString) (state : MetadataType) :
    Known J (insertSession db id fileserverWsi clientWsi name state) sessionId repoName := by
  refine ⟨known.idAccepted, known.nameAccepted, ?_⟩
  obtain ⟨row, found, same⟩ := Option.map_eq_some_iff.mp known.stored
  rw [findSession_insert_found found, Option.map_some, same]

theorem known_new (generated : Generated J db oid) (accepted : J.accepts repoName = true)
    (fileserverWsi : Wsi) (state : MetadataType) :
    Known J (insertSession db oid.val fileserverWsi wsi repoName state) oid.val repoName := by
  refine ⟨generated.2, accepted, ?_⟩
  rw [findSession_insert (Option.isNone_iff_eq_none.mp generated.1)]
  rfl

def setState (state : MetadataType) (row : SessionRow) : SessionRow :=
  { row with state }

theorem keeps_setState (state : MetadataType) : Keeps (setState state) :=
  ⟨fun _ => rfl, fun _ => rfl⟩

theorem Known.updated (known : Known J db sessionId repoName) (id : CString)
    (state : MetadataType) : Known J (updated db id (setState state)) sessionId repoName := by
  refine ⟨known.idAccepted, known.nameAccepted, ?_⟩
  by_cases here : sessionId = id
  · subst here
    rw [findSession_updated (keeps_setState state), Option.map_map]
    exact known.stored
  · rw [findSession_updated_other (keeps_setState state) here]
    exact known.stored

theorem Known.recorded (known : Known J db sessionId repoName) (uriCode name : CString)
    (fileserverWsi : Wsi) :
    Known J (insertFilesys db uriCode name fileserverWsi) sessionId repoName :=
  ⟨known.idAccepted, known.nameAccepted, known.stored⟩

theorem request_cases {input : Received} (reads : Reads J)
    (taken : requested J s wsi input = some next) :
    next = s ∨ ∃ repoName, J.accepts repoName = true ∧ Generated J s.db input.oid ∧
      next = { s with
        db := insertSession s.db input.oid.val (getWsi s.db fileserverDns) wsi repoName .syInit
        toFileserver := s.toFileserver ++ [J.dumps (initBody repoName input.oid.val)] } := by
  unfold requested at taken
  split_ifs at taken with asked
  obtain ⟨init, generated⟩ := asked
  obtain ⟨recvd, loaded, type⟩ := isInit_true.mp init
  split at taken
  · cases taken
  · rename_i served received
    obtain rfl := Option.some.inj taken
    simp only [callbackSdpReceive, loaded, type, ok_bind, onSyInit] at received
    split_ifs at received
    · obtain rfl := return_ok.mp received
      left
      simp [Served.silent, sentTexts]
    · simp only [bind_ok, return_ok, unpackText_ok] at received
      obtain ⟨repoName, named, m, composed, rfl⟩ := received
      obtain ⟨_, rfl⟩ := compose_ok.mp composed
      have accepted : J.accepts repoName = true := by
        apply reads.accepts input.dataStr "repo_name"
        rw [textIn_loaded loaded, named]
      exact .inr ⟨repoName, accepted, generated, rfl⟩

theorem mkdir_spec {input : FsReceived} {named : CString}
    (loaded : J.loads dataStr = some (initBody repoName sessionId))
    (taken : handled J s position wsi input dataStr named = some next) :
    next = { s with
      directories :=
        if input.mkdirFails = false ∧ repoPath named ∉ s.directories then
          repoPath named :: s.directories
        else s.directories
      toFileserver := s.toFileserver.eraseIdx position
      toMetadata := s.toMetadata ++ [J.dumps (initOkBody sessionId)] } := by
  unfold handled at taken
  simp only at taken
  split at taken
  · cases taken
  · rename_i served received
    obtain rfl := Option.some.inj taken
    simp only [callbackFileserverReceive, loaded, initBody, metadataType_object, ok_bind,
      fileserverSyInit, bind_ok, return_ok, ite_self] at received
    obtain ⟨_, _, id, session, _, _, m, composed, rfl⟩ := received
    obtain rfl : sessionId = id := Option.some.inj (unpackText_ok.mp session)
    obtain ⟨_, rfl⟩ := compose_ok.mp composed
    by_cases succeeds : input.mkdirFails = false ∧ repoPath named ∉ s.directories
    · simp [succeeds, sentTexts, initOkBody]
    · have fails : (input.mkdirFails || decide (repoPath named ∈ s.directories)) = true := by
        by_contra no
        exact succeeds (by simpa using no)
      simp [succeeds, fails, sentTexts, initOkBody]

theorem reply_spec (loaded : J.loads dataStr = some (initOkBody sessionId))
    (stored : (findSession s.db sessionId).map SessionRow.repoName = some repoName)
    (taken : replied J s position oid dataStr = some next) :
    ∃ fileserverWsi, next = { s with
      db := updated (insertFilesys s.db oid.val repoName fileserverWsi) sessionId
        (setState .syInitOk)
      toMetadata := s.toMetadata.eraseIdx position } := by
  unfold replied at taken
  split at taken
  · cases taken
  · rename_i served received
    obtain rfl := Option.some.inj taken
    simp only [callbackSdpReceive, loaded, initOkBody, metadataType_object, ok_bind, onFsInitOk,
      bind_ok, return_ok, deref_ok] at received
    obtain ⟨id, named, pointer, got, session, rfl, db, moved, m, composed, rfl⟩ := received
    obtain rfl : sessionId = id := Option.some.inj (unpackText_ok.mp named)
    obtain ⟨row, found, _, rfl⟩ := getSession_ok.mp got
    obtain rfl : row.repoName = repoName := by simpa [found] using stored
    obtain ⟨_, assigned, rfl⟩ := updateSession_ok moved
    obtain rfl := Except.ok.inj assigned
    exact ⟨_, rfl⟩

theorem step_mkdir {input : FsReceived}
    (taken : step J s (.mkdir position wsi input) = some (next, emitted)) :
    ∃ dataStr repoName sessionId, s.toFileserver[position]? = some dataStr ∧
      textIn J "repo_name" dataStr = some repoName ∧
      textIn J "session_id" dataStr = some sessionId ∧
      handled J s position wsi input dataStr repoName = some next ∧
      emitted = if repoPath repoName ∈ s.directories then [.existed sessionId] else [] := by
  simp only [step, Option.bind_eq_bind, Option.bind_eq_some_iff, Option.pure_def,
    Option.some.injEq, Prod.mk.injEq] at taken
  obtain ⟨dataStr, here, repoName, name, sessionId, id, _, moved, rfl, rfl⟩ := taken
  exact ⟨dataStr, repoName, sessionId, here, name, id, moved, rfl⟩

theorem step_reply (taken : step J s (.reply position oid) = some (next, emitted)) :
    ∃ dataStr sessionId, s.toMetadata[position]? = some dataStr ∧
      textIn J "session_id" dataStr = some sessionId ∧
      replied J s position oid dataStr = some next ∧ emitted = [.made sessionId oid.val] := by
  simp only [step, Option.bind_eq_bind, Option.bind_eq_some_iff, Option.pure_def,
    Option.some.injEq, Prod.mk.injEq] at taken
  obtain ⟨dataStr, here, sessionId, id, _, moved, rfl, rfl⟩ := taken
  exact ⟨dataStr, sessionId, here, id, moved, rfl⟩

theorem Agreed.request {input : Received} (agreed : Agreed J s l) (reads : Reads J)
    (taken : requested J s wsi input = some next) : Agreed J next l := by
  rcases request_cases reads taken with rfl | ⟨repoName, accepted, generated, rfl⟩
  · exact agreed
  · refine ⟨?_, agreed.replies, fun reply member => (agreed.known reply member).inserted _ _ _ _ _,
      agreed.recorded, agreed.directories⟩
    intro dataStr member
    rcases List.mem_append.mp member with before | last
    · obtain ⟨sessionId, name, same, known⟩ := agreed.forwarded dataStr before
      exact ⟨sessionId, name, same, known.inserted _ _ _ _ _⟩
    · rw [List.mem_singleton.mp last]
      exact ⟨_, repoName, rfl, known_new generated accepted _ _⟩

theorem Agreed.mkdir {input : FsReceived} (agreed : Agreed J s l) (reads : Reads J)
    (taken : step J s (.mkdir position wsi input) = some (next, emitted)) :
    ∃ failed l', Agreed J next l' ∧ l.Moves failed l' emitted ∧
      (Makes J s (.mkdir position wsi input) → failed = false) := by
  obtain ⟨dataStr, named, id, here, name, session, moved, rfl⟩ := step_mkdir taken
  obtain ⟨sessionId, repoName, rfl, known⟩ :=
    agreed.forwarded dataStr (List.mem_of_getElem? here)
  have loaded := reads.initBody known
  obtain rfl : repoName = named := Option.some.inj ((textIn_loaded loaded).symm.trans name)
  obtain rfl : sessionId = id := Option.some.inj ((textIn_loaded loaded).symm.trans session)
  obtain rfl := mkdir_spec loaded moved
  have later : ∀ directories, Agreed J
      { s with
        directories
        toFileserver := s.toFileserver.eraseIdx position
        toMetadata := s.toMetadata ++ [J.dumps (initOkBody sessionId)] }
      { l with replies := l.replies ++ [(sessionId, repoName)], directories } := by
    intro directories
    refine ⟨fun dataStr member => agreed.forwarded dataStr (List.mem_of_mem_eraseIdx member), ?_, ?_,
      agreed.recorded, rfl⟩
    · rw [agreed.replies, List.map_append, List.map_singleton]
    · intro reply member
      rcases List.mem_append.mp member with before | last
      · exact agreed.known reply before
      · rw [List.mem_singleton.mp last]
        exact known
  by_cases succeeds : input.mkdirFails = false ∧ repoPath repoName ∉ s.directories
  · rw [if_pos succeeds, if_neg succeeds.2]
    refine ⟨false, _, later _, ?_, fun _ => rfl⟩
    rw [agreed.directories] at succeeds ⊢
    exact .made sessionId repoName succeeds.2
  · rw [if_neg succeeds, agreed.directories]
    refine ⟨true, _, later _, .failed sessionId repoName, fun makes => absurd ?_ succeeds⟩
    exact ⟨makes.1, makes.2 _ here repoName name⟩

theorem Agreed.reply (agreed : Agreed J s l) (reads : Reads J)
    (taken : step J s (.reply position oid) = some (next, emitted)) :
    ∃ l', Agreed J next l' ∧ l.Moves false l' emitted := by
  obtain ⟨dataStr, id, here, session, moved, rfl⟩ := step_reply taken
  rw [agreed.replies, List.getElem?_map] at here
  obtain ⟨⟨sessionId, repoName⟩, found, rfl⟩ := Option.map_eq_some_iff.mp here
  have known := agreed.known _ (List.mem_of_getElem? found)
  have loaded := reads.initOkBody known
  obtain rfl : sessionId = id := Option.some.inj ((textIn_loaded loaded).symm.trans session)
  obtain ⟨fileserverWsi, rfl⟩ := reply_spec loaded known.stored moved
  refine ⟨_, ?_, .recorded position sessionId repoName oid.val found⟩
  constructor
  · intro dataStr member
    obtain ⟨other, name, same, known⟩ := agreed.forwarded dataStr member
    exact ⟨other, name, same, (known.recorded _ _ _).updated _ _⟩
  · rw [← List.eraseIdx_map, ← agreed.replies]
  · intro reply member
    exact ((agreed.known reply (List.mem_of_mem_eraseIdx member)).recorded _ _ _).updated _ _
  · simp [updated, insertFilesys_eq, agreed.recorded]
  · exact agreed.directories

theorem Agreed.step (agreed : Agreed J s l) (reads : Reads J)
    (taken : step J s action = some (next, emitted)) :
    ∃ failed l', Agreed J next l' ∧ l.Moves failed l' emitted ∧ (Makes J s action → failed = false) := by
  cases action with
  | request wsi input =>
      obtain ⟨_, moved, same⟩ := Option.map_eq_some_iff.mp taken
      obtain ⟨rfl, rfl⟩ := Prod.mk.inj same
      exact ⟨false, l, agreed.request reads moved, .still, fun _ => rfl⟩
  | mkdir position wsi input => exact agreed.mkdir reads taken
  | reply position oid =>
      obtain ⟨l', agreed', moves⟩ := agreed.reply reads taken
      exact ⟨false, l', agreed', moves, fun _ => rfl⟩

theorem Settled.agreed (settled : Settled s) :
    Agreed J s ⟨s.db.filesys.map FilesysRow.repoName, [], s.directories⟩ := by
  constructor
  · simp [settled.toFileserver]
  · simp [settled.toMetadata]
  · simp
  · rfl
  · rfl

theorem Settled.sound (settled : Settled s) :
    Ledger.Sound ⟨s.db.filesys.map FilesysRow.repoName, [], s.directories⟩ := by
  constructor
  · simpa [Ledger.names] using settled.nodup
  · simpa [Ledger.names] using settled.present

theorem Agreed.distinct (agreed : Agreed J s l) (sound : l.Sound) :
    (s.db.filesys.map repository).Nodup := by
  have names : (s.db.filesys.map FilesysRow.repoName).Nodup := by
    rw [agreed.recorded]
    exact sound.nodup.of_append_left
  apply List.Nodup.of_map Prod.snd
  rw [List.map_map]
  exact names

variable {start : Servers} {actions : List Action}

theorem moves_makes (moves : l.Moves false l' emitted) : ∀ sessionId, .existed sessionId ∉ emitted := by
  cases moves <;> simp

theorem makes_distinct (reads : Reads J) (settled : Settled start)
    (run : RunIf (Makes J) (step J) start actions s events) : OnePerDirectory s events := by
  have kept : ∃ l, Agreed J s l ∧ l.Sound ∧ ∀ sessionId, .existed sessionId ∉ events := by
    apply run.invariant fun s events =>
      ∃ l, Agreed J s l ∧ l.Sound ∧ ∀ sessionId, .existed sessionId ∉ events
    · exact ⟨_, settled.agreed, settled.sound, by simp⟩
    · intro s events action next emitted inv makes taken
      obtain ⟨l, agreed, sound, none_existed⟩ := inv
      obtain ⟨failed, l', agreed', moves, succeeds⟩ := agreed.step reads taken
      obtain rfl := succeeds makes
      refine ⟨l', agreed', sound.moves moves, fun sessionId existed => ?_⟩
      rcases List.mem_append.mp existed with before | now
      · exact none_existed sessionId before
      · exact moves_makes moves sessionId now
  obtain ⟨l, agreed, sound, none_existed⟩ := kept
  exact ⟨agreed.distinct sound, fun sessionId existed => absurd existed (none_existed sessionId)⟩

theorem run_traced (reads : Reads J) (settled : Settled start)
    (run : Run (step J) start actions s events) : ∃ l, Agreed J s l ∧ l.Traced events := by
  apply run.invariant fun s events => ∃ l, Agreed J s l ∧ l.Traced events
  · exact ⟨_, settled.agreed, by simp [Ledger.Traced]⟩
  · intro s events action next emitted inv _ taken
    obtain ⟨l, agreed, traced⟩ := inv
    obtain ⟨failed, l', agreed', moves, _⟩ := agreed.step reads taken
    exact ⟨l', agreed', traced.moves moves⟩

theorem none_existed_makes (run : Run (step J) start actions s events)
    (mkdirs : ∀ position wsi input, .mkdir position wsi input ∈ actions → input.mkdirFails = false)
    (none_existed : ∀ sessionId, .existed sessionId ∉ events) :
    RunIf (Makes J) (step J) start actions s events := by
  induction run with
  | refl => exact .refl
  | @snoc actions s next events emitted action run allowed taken ih =>
      have before := ih (fun position wsi input member =>
        mkdirs position wsi input (List.mem_append_left _ member))
        fun sessionId existed => none_existed sessionId (List.mem_append_left _ existed)
      refine .snoc before ?_ taken
      cases action with
      | request => trivial
      | reply => trivial
      | mkdir position wsi input =>
          obtain ⟨dataStr, repoName, sessionId, here, name, _, _, rfl⟩ := step_mkdir taken
          refine ⟨mkdirs position wsi input (by simp), ?_⟩
          intro dataStr' here' repoName' name' there
          obtain rfl : dataStr = dataStr' := Option.some.inj (here.symm.trans here')
          obtain rfl : repoName = repoName' := Option.some.inj (name.symm.trans name')
          exact none_existed sessionId (by simp [there])

/-- There is one repository per directory in every run whose calls of mkdir succeed, and in no other run
that is over and of which mkdir fails only for existing directories. -/
theorem distinct_iff_makes (reads : Reads J) (settled : Settled start) :
    (RunIf (Makes J) (step J) start actions s events → OnePerDirectory s events) ∧
      (Run (step J) start actions s events → s.toMetadata = [] →
        (∀ position wsi input, .mkdir position wsi input ∈ actions → input.mkdirFails = false) →
        OnePerDirectory s events → RunIf (Makes J) (step J) start actions s events) := by
  constructor
  · exact makes_distinct reads settled
  · intro run finished mkdirs one
    obtain ⟨l, agreed, traced⟩ := run_traced reads settled run
    refine none_existed_makes run mkdirs fun sessionId existed => ?_
    have done : l.replies = [] := by simpa [finished] using agreed.replies
    rcases traced sessionId existed with under | ⟨uriCode, made⟩
    · simp [done] at under
    · exact one.refused sessionId existed uriCode made

instance (J : Jansson) (s : Servers) (action : Action) : Decidable (Makes J s action) := by
  cases action <;> unfold Makes <;> infer_instance

def registered : Servers where
  db := insertFileserver (Db.empty .inOrder) fileserverDns 1
  fileserver := { transfers := [] }
  directories := []
  toFileserver := []
  toMetadata := []

def mkdirFirst : Action :=
  .mkdir 0 1 ⟨CString.empty, false, fun _ => none, fun _ => CString.empty, CString.empty,
    CString.empty⟩

def initsOf (first second : String) : List Action :=
  [.request 2 (inits first firstOid), .request 3 (inits second secondOid), mkdirFirst, mkdirFirst,
    .reply 1 thirdOid, .reply 0 fourthOid]

def records (s : Servers) : List (CString × BitVec 32 × CString) :=
  s.db.filesys.map fun row => (row.uriCode, repository row)

theorem registered_settled : Settled registered where
  toFileserver := rfl
  toMetadata := rfl
  nodup := List.nodup_nil
  present _ member := absurd member List.not_mem_nil

def readable : Json → Bool
  | .object fields => fields.all fun field =>
      match field.2 with
      | .string value => Jansson.canonical.accepts value
      | _ => true
  | _ => true

def strict : Jansson where
  loads dataStr := (Jansson.canonical.loads dataStr).filter readable
  dumps := Jansson.canonical.dumps
  accepts := Jansson.canonical.accepts
  loads_empty := rfl
  dumps_nonempty := Jansson.canonical.dumps_nonempty

theorem holds_readable {json : Json} (holds : strict.Holds json) : readable json = true := by
  cases holds with
  | @object fields _ values =>
      simp only [readable, List.all_eq_true]
      intro field member
      split
      · rename_i value same
        have written := values field member
        rw [same] at written
        have accepted : strict.accepts value = true := Jansson.holds_string.mp written
        exact accepted
      · rfl
  | array | string | integer => rfl

theorem readable_accepts {key : String} (all : readable recvd = true)
    (found : recvd.text key = some repoName) : Jansson.canonical.accepts repoName = true := by
  have field := Json.text_eq_some.mp found
  cases recvd with
  | object fields =>
      obtain ⟨before, after, split, _⟩ := List.lookup_eq_some_iff.mp field
      have member : (key, Json.string repoName) ∈ fields := by simp [split]
      simpa using List.all_eq_true.mp all _ member
  | array | string | integer | other => cases field

theorem strict_reads : Reads strict where
  lossless json holds := by
    have read : strict.loads (strict.dumps json) = (some json).filter readable := by
      rw [← Jansson.canonical_loads_dumps json]
      rfl
    rw [read, Option.filter_some, if_pos (holds_readable holds)]
  accepts dataStr key value found := by
    obtain ⟨recvd, loaded, text⟩ := Option.bind_eq_some_iff.mp found
    exact readable_accepts (Option.filter_eq_some_iff.mp loaded).2 text

theorem different_names_distinct : ∃ s events,
    RunIf (Makes strict) (step strict) registered (initsOf "left" "right") s
      events ∧
    records s = [(thirdOid.val, 1, CString.literal "right"),
      (fourthOid.val, 1, CString.literal "left")] ∧ OnePerDirectory s events := by
  have moved : (execIf (Makes strict) (step strict) registered
      (initsOf "left" "right")).map (fun last => records last.1) =
        some [(thirdOid.val, 1, CString.literal "right"),
          (fourthOid.val, 1, CString.literal "left")] := by decide +kernel
  obtain ⟨⟨s, events⟩, taken, recorded⟩ := Option.map_eq_some_iff.mp moved
  have run := execIf_runIf taken
  exact ⟨s, events, run, recorded, (distinct_iff_makes strict_reads registered_settled).1 run⟩

theorem same_name_shared : ∃ s events,
    Run (step strict) registered (initsOf "left" "left") s events ∧
    records s = [(thirdOid.val, 1, CString.literal "left"),
      (fourthOid.val, 1, CString.literal "left")] ∧ ¬ OnePerDirectory s events := by
  have moved : (exec (step strict) registered (initsOf "left" "left")).map
      (fun last => records last.1) =
        some [(thirdOid.val, 1, CString.literal "left"),
          (fourthOid.val, 1, CString.literal "left")] := by decide +kernel
  obtain ⟨⟨s, events⟩, taken, recorded⟩ := Option.map_eq_some_iff.mp moved
  refine ⟨s, events, exec_run taken, recorded, fun one => ?_⟩
  have distinct := one.distinct
  have both : s.db.filesys.map repository = (records s).map Prod.snd := by
    rw [records, List.map_map]
    rfl
  rw [both, recorded] at distinct
  simp at distinct

end Librtcdc.Repositories
