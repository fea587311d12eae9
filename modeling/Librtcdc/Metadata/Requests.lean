import Librtcdc.Metadata.Answers
import Librtcdc.Metadata.Stored
import Librtcdc.Shared.JsonText

set_option autoImplicit false

namespace Librtcdc.Metadata

open Systems Sync

inductive Request where
  | fsRegister
  | syInit (repoName : CString)
  | fsInitOk (sessionId : CString)
  | syConnect (uriCode : CString)
  | syStatus (sessionId : CString) (files : List (CString × CString))
  | fsStatusOk (sessionId : CString) (files : List (CString × CString))
  | transfer (d : Direction) (sessionId clientSdp clientCandidates : CString)
  | ready (d : Direction) (sessionId : CString)
  | syCleanup (sessionId : CString)

def Request.type : Request → MetadataType
  | .fsRegister => .fsRegister
  | .syInit _ => .syInit
  | .fsInitOk _ => .fsInitOk
  | .syConnect _ => .syConnect
  | .syStatus .. => .syStatus
  | .fsStatusOk .. => .fsStatusOk
  | .transfer d .. => requestType d
  | .ready d _ => readyType d
  | .syCleanup _ => .syCleanup

def Request.CarriedBy (recvd : Json) : Request → Prop
  | .fsRegister => True
  | .syInit repoName => recvd.text "repo_name" = some repoName
  | .syConnect uriCode => recvd.text "URI_code" = some uriCode
  | .fsInitOk sessionId | .ready _ sessionId | .syCleanup sessionId =>
      recvd.text "session_id" = some sessionId
  | .syStatus sessionId files =>
      recvd.text "session_id" = some sessionId ∧
        HasFiles "client_checksum" (recvd.get "files") files
  | .fsStatusOk sessionId files =>
      recvd.text "session_id" = some sessionId ∧
        HasFiles "fs_checksum" (recvd.get "files") files
  | .transfer _ sessionId clientSdp clientCandidates =>
      recvd.text "session_id" = some sessionId ∧ recvd.text "client_SDP" = some clientSdp ∧
        recvd.text "client_candidates" = some clientCandidates

-- The message goes back to the requester or on to the other party of a session: to its file server
-- when a client asks, and to its client when the file server does.
def Addressed (wsi : Wsi) (type : MetadataType) (db : Db) (m : Message) : Prop :=
  m.targetWsi = wsi ∨ ∃ row ∈ db.session, m.sessionId = some row.sessionId ∧
    m.targetWsi = ofInt32 (if type.isReply then row.clientWsi else row.fileserverWsi)

def Answered (J : Jansson) (db : Db) (wsi : Wsi) (input : Received) (type : MetadataType) : Prop :=
  ∃ served m, callbackSdpReceive J db wsi input = .ok served ∧ served.sent = some m ∧
    Addressed wsi type served.store m

variable {J : Jansson} {db : Db} {wsi : Wsi} {oid : Oid} {recvd : Json} {served : Served Db}
  {m : Message} {type : MetadataType} {sessionId : CString} {row : SessionRow} {input : Received}

theorem updated_stores {assign : SessionRow → SessionRow} (keeps : Keeps assign)
    (found : findSession db sessionId = some row) :
    assign row ∈ (updated db sessionId assign).session := by
  have after : findSession (updated db sessionId assign) sessionId = some (assign row) := by
    rw [findSession_eq, updated, findOne_updateOne_same keeps.sessionId, ← findSession_eq, found,
      Option.map_some]
  exact findSession_mem after

theorem Handled.addressed (handled : Handled J db wsi oid recvd (some type) served)
    (sent : served.sent = some m) : Addressed wsi type served.store m := by
  cases handled with
  | silent => cases sent
  | register m _ target _ =>
      obtain rfl := Option.some.inj sent
      exact .inl target
  | cleanup m _ _ _ target _ =>
      obtain rfl := Option.some.inj sent
      exact .inl target
  | opened m _ fileserverWsi repoName state stored about addressed _ =>
      obtain rfl := Option.some.inj sent
      rcases addressed with ⟨rfl, _, target, _, _⟩ | ⟨_, _, target⟩
      · refine .inr ⟨newSession oid.val fileserverWsi wsi repoName state, ?_, about, ?_⟩
        · rw [insertSession_eq]
          exact List.mem_append_right _ List.mem_cons_self
        · exact target.trans stored.symm
      · exact .inl target
  | request m sessionId row assign about keeps _ asked target _ =>
      obtain rfl := Option.some.inj sent
      have same : row.sessionId = sessionId := findSession_named about.found
      have forward : m.type.isReply = false := by
        cases kind : m.type <;> simp_all [MetadataType.isRequest, MetadataType.isReply]
      refine .inr ⟨assign row, updated_stores keeps about.found, ?_, ?_⟩
      · rw [about.about, keeps.sessionId, same]
      · rw [target, forward, if_neg Bool.false_ne_true, keeps.fileserverWsi]
  | response m _ sessionId row assign _ about keeps client replied _ target _ =>
      obtain rfl := Option.some.inj sent
      have same : row.sessionId = sessionId := findSession_named about.found
      refine .inr ⟨assign row, updated_stores keeps about.found, ?_, ?_⟩
      · rw [about.about, keeps.sessionId, same]
      · rw [target, replied, if_pos rfl, client]

def registerBody : Json :=
  object .fsRegisterOk [("fileserver_dns", .string fileserverDns)]

def initBody (repoName : CString) (oid : Oid) : Json :=
  object .syInit [("repo_name", .string repoName), ("session_id", .string oid.val)]

def initOkBody (oid : Oid) (sessionId : CString) : Json :=
  object .syInitOk [("URI_code", .string oid.val), ("session_id", .string sessionId)]

def connectOkBody (oid : Oid) : Json :=
  object .syConnectOk [("session_id", .string oid.val)]

def cleanupBody : Json :=
  object .syCleanupOk []

def statusDiff (fsFiles clientFiles : List (CString × CString)) : List Json :=
  (joinedRows fsFiles clientFiles).map fun row => diffEntry row.1 (fileStatus row.2.2 row.2.1)

abbrev Sends (x : Except Fault (Served Db)) : Prop :=
  ∃ served, x = .ok served ∧ ∃ m, served.sent = some m

variable {repoName uriCode : CString} {d : Direction}

theorem onFsRegister_fits :
    Fills (Short (J.dumps registerBody)) (onFsRegister J db wsi) fun served =>
      ∃ m, served.sent = some m :=
  compose_fits.then fun m _ => ⟨m, rfl⟩

theorem onSyInit_nobody (nobody : getWsi db fileserverDns = Wsi.null) :
    onSyInit J db wsi oid recvd = .ok (Served.silent db) :=
  if_pos nobody

theorem onSyInit_fits (somebody : getWsi db fileserverDns ≠ Wsi.null)
    (named : recvd.text "repo_name" = some repoName) :
    Fills (Short (J.dumps (initBody repoName oid))) (onSyInit J db wsi oid recvd) fun served =>
      ∃ m, served.sent = some m := by
  rw [onSyInit, if_neg somebody, unpackText_ok.mpr named, ok_bind]
  exact compose_fits.then fun m _ => ⟨m, rfl⟩

theorem onFsInitOk_fits (named : recvd.text "session_id" = some sessionId)
    (found : findSession db sessionId = some row) :
    Fills (row.Fits J ∧ Short (J.dumps (initOkBody oid sessionId))) (onFsInitOk J db oid recvd)
      fun served => ∃ m, served.sent = some m := by
  rw [onFsInitOk, unpackText_ok.mpr named, ok_bind]
  refine (getSession_fits found).bind fun _ session => ?_
  subst session
  exact compose_fits.then fun m _ => ⟨m, rfl⟩

theorem onSyConnect_unknown (named : recvd.text "URI_code" = some uriCode)
    (unknown : findOne FilesysRow.uriCode uriCode db.filesys = none) :
    onSyConnect J db wsi oid recvd = .ok (Served.silent db) := by
  rw [onSyConnect, unpackText_ok.mpr named, ok_bind, getUri, findUri_eq, unknown]
  rfl

theorem getUri_fits {uri : FilesysRow}
    (found : findOne FilesysRow.uriCode uriCode db.filesys = some uri) :
    Fills (uri.repoName.val.length < repoNameSize ∧ uriCode.val.length < idSize)
      (getUri db uriCode) fun pointer => ∃ info, pointer = some info := by
  rw [getUri, findUri_eq, found]
  exact strcpy_fits.bind fun _ _ => strcpy_fits.then fun _ _ => ⟨_, rfl⟩

theorem onSyConnect_fits {uri : FilesysRow} (named : recvd.text "URI_code" = some uriCode)
    (found : findOne FilesysRow.uriCode uriCode db.filesys = some uri) :
    Fills ((uri.repoName.val.length < repoNameSize ∧ uriCode.val.length < idSize) ∧
        Short (J.dumps (connectOkBody oid)))
      (onSyConnect J db wsi oid recvd) fun served => ∃ m, served.sent = some m := by
  rw [onSyConnect, unpackText_ok.mpr named, ok_bind]
  refine (getUri_fits found).bind fun _ pointer => ?_
  obtain ⟨info, rfl⟩ := pointer
  exact compose_fits.then fun m _ => ⟨m, rfl⟩

theorem onSyCleanup_fits (named : recvd.text "session_id" = some sessionId) :
    Fills (Short (J.dumps cleanupBody)) (onSyCleanup J db wsi recvd) fun served =>
      ∃ m, served.sent = some m := by
  rw [onSyCleanup, unpackText_ok.mpr named, ok_bind]
  exact compose_fits.then fun m _ => ⟨m, rfl⟩

theorem onFsStatusOk_sends {fsFiles clientFiles : List (CString × CString)}
    (named : recvd.text "session_id" = some sessionId)
    (received : HasFiles "fs_checksum" (recvd.get "files") fsFiles)
    (found : findSession db sessionId = some row)
    (stored : J.loads (J.dumps row.files) = some row.files)
    (kept : HasFiles "client_checksum" (some row.files) clientFiles) :
    Fills (row.Fits J ∧
        Short (J.dumps (filesBody .syStatusOk sessionId (statusDiff fsFiles clientFiles))))
      (onFsStatusOk J db recvd) fun served => ∃ m, served.sent = some m := by
  have apart : Apart "filename" "fs_checksum" "client_checksum" :=
    ⟨by decide, by decide, by decide⟩
  obtain ⟨joined, joins, described⟩ := joinChecksumArrays_first apart received kept
  obtain ⟨documents, written⟩ := joined_documents described
  obtain ⟨db', _, outcome⟩ := onFsStatusOk_joined found named (stored ▸ joins) written
    (joined_diff described)
    (documentArray_diff db.mongo (fun row : CString × CString × CString => row.1) _)
  rw [outcome]
  exact (getSession_fits found).bind fun _ _ => compose_fits.then fun m _ => ⟨m, rfl⟩

theorem session_missing {α : Type} {next : SessionInfo → Except Fault α}
    (missing : findSession db sessionId = none) :
    (do let session ← deref (← getSession J db sessionId); next session) =
      .error .nullPointer := by
  rw [getSession, missing]
  rfl

theorem onSyStatus_missing (named : recvd.text "session_id" = some sessionId)
    (missing : findSession db sessionId = none) :
    onSyStatus J db wsi recvd = .error .nullPointer := by
  rw [onSyStatus, unpackText_ok.mpr named, ok_bind]
  exact session_missing missing

def Known (J : Jansson) (db : Db) (sessionId : CString) (text : SessionRow → CString) : Prop :=
  ∃ row, findSession db sessionId = some row ∧ row.Fits J ∧ Short (text row)

def filesOf (key : String) (array : Option Json) : List (CString × CString) :=
  (Json.elements array).filterMap fun element => do
    let filename ← element.text "filename"
    let checksum ← element.text key
    return (filename, checksum)

theorem filesOf_hasFiles {key : String} {array : Option Json} {files : List (CString × CString)}
    (has : HasFiles key array files) : filesOf key array = files := by
  unfold HasFiles at has
  unfold filesOf
  generalize Json.elements array = elements at has
  induction has with
  | nil => rfl
  | cons here _ ih =>
      rw [List.filterMap_cons, here.name, here.checksum]
      exact congrArg (List.cons _) ih

-- What the code looks up for the request is there, and every text fits its buffer.
def Request.Answerable (J : Jansson) (db : Db) (input : Received) : Request → Prop
  | .fsRegister => Short (J.dumps registerBody)
  | .syInit repoName =>
      getWsi db fileserverDns ≠ Wsi.null ∧ Short (J.dumps (initBody repoName input.oid))
  | .syConnect uriCode =>
      ∃ uri, findOne FilesysRow.uriCode uriCode db.filesys = some uri ∧
        (uri.repoName.val.length < repoNameSize ∧ uriCode.val.length < idSize) ∧
        Short (J.dumps (connectOkBody input.oid))
  | .fsInitOk sessionId =>
      Known J db sessionId fun _ => J.dumps (initOkBody input.oid sessionId)
  | .syStatus sessionId _ =>
      Known J db sessionId fun row => J.dumps (repoBody sessionId row.repoName)
  | .fsStatusOk sessionId files =>
      Known J db sessionId fun row => J.dumps (filesBody .syStatusOk sessionId
        (statusDiff files (filesOf "client_checksum" (some row.files))))
  | .transfer d sessionId clientSdp clientCandidates =>
      Known J db sessionId fun row => J.dumps (transferBody (requestType d) sessionId row.repoName
        clientSdp clientCandidates (sentDiff J d (row.info J)))
  | .ready _ sessionId => Known J db sessionId fun _ => input.dataStr
  | .syCleanup _ => Short (J.dumps cleanupBody)

theorem sends_iff_known {x : Except Fault (Served Db)} {text : SessionRow → CString}
    (missing : findSession db sessionId = none → x = .error .nullPointer)
    (present : ∀ row, findSession db sessionId = some row →
      Fills (row.Fits J ∧ Short (text row)) x fun served => ∃ m, served.sent = some m) :
    Sends x ↔ Known J db sessionId text := by
  cases found : findSession db sessionId with
  | none => simp [Known, missing found, found]
  | some row =>
      rw [Sends, (present row found).ok_iff]
      simp [Known, found]

def Request.handle (J : Jansson) (db : Db) (wsi : Wsi) (input : Received) (recvd : Json) :
    Request → Except Fault (Served Db)
  | .fsRegister => onFsRegister J db wsi
  | .syInit _ => onSyInit J db wsi input.oid recvd
  | .fsInitOk _ => onFsInitOk J db input.oid recvd
  | .syConnect _ => onSyConnect J db wsi input.oid recvd
  | .syStatus .. => onSyStatus J db wsi recvd
  | .fsStatusOk .. => onFsStatusOk J db recvd
  | .transfer d .. => onTransfer J (requestType d) (sentDiff J d) db wsi recvd
  | .ready d _ => onReady J (readyType d) db input.dataStr recvd
  | .syCleanup _ => onSyCleanup J db wsi recvd

theorem receive_handle {request : Request} (loaded : J.loads input.dataStr = some recvd)
    (typed : metadataType recvd = .ok (some request.type)) :
    callbackSdpReceive J db wsi input = request.handle J db wsi input recvd := by
  cases request with
  | transfer d | ready d =>
      cases d <;> simp only [callbackSdpReceive, loaded, typed, ok_bind, Request.type, requestType,
        readyType] <;> rfl
  | _ => simp only [callbackSdpReceive, loaded, typed, ok_bind, Request.type, Request.handle]

theorem handle_sends_iff {request : Request} (lossless : J.Lossless)
    (kept : db.Kept J) (carried : request.CarriedBy recvd) :
    Sends (request.handle J db wsi input recvd) ↔ request.Answerable J db input := by
  cases request with
  | fsRegister => exact onFsRegister_fits.ok_iff
  | syCleanup sessionId => exact (onSyCleanup_fits carried).ok_iff
  | syInit repoName =>
      by_cases nobody : getWsi db fileserverDns = Wsi.null
      · simp [Request.handle, Request.Answerable, onSyInit_nobody nobody, nobody, Served.silent]
      · rw [Request.Answerable, and_iff_right nobody]
        exact (onSyInit_fits nobody carried).ok_iff
  | syConnect uriCode =>
      cases found : findOne FilesysRow.uriCode uriCode db.filesys with
      | none =>
          simp [Request.handle, Request.Answerable, onSyConnect_unknown carried found, found,
            Served.silent]
      | some uri =>
          have only : (Request.syConnect uriCode).Answerable J db input ↔
              (uri.repoName.val.length < repoNameSize ∧ uriCode.val.length < idSize) ∧
                Short (J.dumps (connectOkBody input.oid)) := by
            simp [Request.Answerable, found]
          rw [only]
          exact (onSyConnect_fits carried found).ok_iff
  | fsInitOk sessionId =>
      refine sends_iff_known (fun missing => ?_) fun row found => onFsInitOk_fits carried found
      rw [Request.handle, onFsInitOk, unpackText_ok.mpr carried, ok_bind]
      exact session_missing missing
  | syStatus sessionId files =>
      obtain ⟨named, listed⟩ := carried
      refine sends_iff_known (fun missing => ?_) fun row found => ?_
      · exact onSyStatus_missing named missing
      · refine (onSyStatus_fits found named (files_documents db.mongo listed)).weaken ?_
        rintro served ⟨m, sent, _⟩
        exact ⟨m, sent⟩
  | fsStatusOk sessionId files =>
      obtain ⟨named, listed⟩ := carried
      refine sends_iff_known (fun missing => ?_) fun row found => ?_
      · rw [Request.handle, onFsStatusOk, unpackText_ok.mpr named, ok_bind]
        exact session_missing missing
      · obtain ⟨holds, clientFiles, hasFiles⟩ := kept row (findSession_mem found)
        rw [filesOf_hasFiles hasFiles]
        exact onFsStatusOk_sends named listed found (lossless _ holds) hasFiles
  | transfer d sessionId clientSdp clientCandidates =>
      obtain ⟨named, sdp, candidates⟩ := carried
      refine sends_iff_known (fun missing => ?_) fun row found => ?_
      · rw [Request.handle, onTransfer, unpackText_ok.mpr named, ok_bind, unpackText_ok.mpr sdp,
          ok_bind, unpackText_ok.mpr candidates, ok_bind]
        exact session_missing missing
      · refine (onTransfer_fits (sentDiff J d) found named sdp candidates).weaken ?_
        rintro served ⟨m, sent, _⟩
        exact ⟨m, sent⟩
  | ready d sessionId =>
      refine sends_iff_known (fun missing => ?_) fun row found => ?_
      · rw [Request.handle, onReady, unpackText_ok.mpr carried, ok_bind]
        exact session_missing missing
      · refine (onReady_fits found carried).weaken ?_
        rintro served ⟨m, sent, _⟩
        exact ⟨m, sent⟩

theorem answered_iff_sends {request : Request} (loaded : J.loads input.dataStr = some recvd)
    (typed : metadataType recvd = .ok (some request.type)) :
    Answered J db wsi input request.type ↔ Sends (request.handle J db wsi input recvd) := by
  rw [Answered, receive_handle loaded typed]
  constructor
  · rintro ⟨served, m, outcome, sent, _⟩
    exact ⟨served, outcome, m, sent⟩
  · rintro ⟨served, outcome, m, sent⟩
    have received : callbackSdpReceive J db wsi input = .ok served :=
      (receive_handle loaded typed).trans outcome
    obtain ⟨json, type, loaded', typed', handled⟩ := receive_handled received
    obtain rfl := Option.some.inj (loaded'.symm.trans loaded)
    obtain rfl := Except.ok.inj (typed'.symm.trans typed)
    exact ⟨served, m, outcome, sent, handled.addressed sent⟩

/-- A request is answered exactly when the records it is about are there and all texts fit. -/
theorem answered_iff {request : Request} (lossless : J.Lossless) (kept : db.Kept J)
    (loaded : J.loads input.dataStr = some recvd)
    (typed : metadataType recvd = .ok (some request.type)) (carried : request.CarriedBy recvd) :
    Answered J db wsi input request.type ↔ request.Answerable J db input :=
  (answered_iff_sends loaded typed).trans (handle_sends_iff lossless kept carried)

def oneSession : Db :=
  insertSession (Db.empty .inOrder) firstOid.val 1 2 (CString.literal "repository") .syInit

def asksStatus : Request := .syStatus firstOid.val []

def statusRequest : Json :=
  object .syStatus [("session_id", .string firstOid.val), ("files", .array [])]

def statusInput : Received where
  dataStr := text statusRequest
  oid := secondOid

theorem status_loaded : Jansson.canonical.loads statusInput.dataStr = some statusRequest :=
  Jansson.canonical_loads_dumps statusRequest

theorem status_typed : metadataType statusRequest = .ok (some asksStatus.type) :=
  metadataType_object ..

theorem status_carried : asksStatus.CarriedBy statusRequest := ⟨rfl, .nil⟩

theorem oneSession_kept : oneSession.Kept Jansson.canonical := by
  intro row member
  obtain rfl := List.mem_singleton.mp member
  exact ⟨.array (fun _ there => absurd there List.not_mem_nil), [], .nil⟩

theorem status_answered : Answered Jansson.canonical oneSession 2 statusInput asksStatus.type := by
  have answerable : asksStatus.Answerable Jansson.canonical oneSession statusInput :=
    ⟨newSession firstOid.val 1 2 (CString.literal "repository") .syInit,
      findSession_first rfl rfl,
      ⟨by decide +kernel, by decide +kernel, by decide +kernel, by decide +kernel⟩,
      by decide +kernel⟩
  exact (answered_iff Jansson.canonical_lossless oneSession_kept status_loaded status_typed
    status_carried).mpr answerable

def AnswerLaw : Prop :=
  ∀ (J : Jansson) (db : Db) (wsi : Wsi) (input : Received) (recvd : Json) (request : Request),
    J.Lossless → db.Kept J → J.loads input.dataStr = some recvd →
    metadataType recvd = .ok (some request.type) → request.CarriedBy recvd →
    Answered J db wsi input request.type

theorem cleaned_up_crashes : ¬ AnswerLaw := by
  intro law
  have missing : findSession (deleteSession oneSession firstOid.val) firstOid.val = none := by
    decide +kernel
  have kept : (deleteSession oneSession firstOid.val).Kept Jansson.canonical :=
    deleteSession_kept oneSession_kept
  have crashes : callbackSdpReceive Jansson.canonical (deleteSession oneSession firstOid.val) 2
      statusInput = .error .nullPointer :=
    (receive_handle status_loaded status_typed).trans (onSyStatus_missing rfl missing)
  obtain ⟨served, _, returned, _⟩ := law _ _ 2 _ _ asksStatus Jansson.canonical_lossless kept
    status_loaded status_typed status_carried
  rw [crashes] at returned
  cases returned

end Librtcdc.Metadata
