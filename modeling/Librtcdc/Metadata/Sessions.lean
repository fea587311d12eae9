import Librtcdc.Metadata.Calls
import Librtcdc.Metadata.Requests

set_option autoImplicit false

namespace Librtcdc.Metadata

open Systems Sync

-- sy.c: the calls that open a session and the call that closes it.

structure OpenedSession extends SySession where
  uriCode : CString
  repoName : CString

variable (J : Jansson)

-- The metadata server reads neither.
def credentials (apiKey token : CString) : List (String × Json) :=
  textField J "api_key" apiKey ++ textField J "token" token

def syInitRequest (wsi : Wsi) (repoName apiKey token : CString) : Except Fault Message :=
  compose J wsi .syInit
    (object .syInit (textField J "repo_name" repoName ++ credentials J apiKey token))

def syConnectRequest (wsi : Wsi) (uriCode apiKey token : CString) : Except Fault Message :=
  compose J wsi .syConnect
    (object .syConnect (textField J "URI_code" uriCode ++ credentials J apiKey token))

def syCleanupRequest (wsi : Wsi) (sySession : SySession) : Except Fault Message :=
  compose J wsi .syCleanup (object .syCleanup (textField J "session_id" sySession.sessionId))

def syInitSession (answer repoName localRepoPath : CString) : Except Fault OpenedSession :=
  match J.loads answer with
  | none => .error .uninitialised
  | some recvd => do
      let sessionId ← unpackText recvd "session_id"
      let uriCode ← unpackText recvd "URI_code"
      let repoName ← strcpy repoNameSize repoName
      return { sessionId, localRepoPath, uriCode, repoName }

-- What sy_connect makes of it. It unpacks the code into its own parameter, which keeps its value when
-- the answer has none, and leaves `repo_name` zero.
def syConnectSession (answer uriCode localRepoPath : CString) : Except Fault OpenedSession :=
  match J.loads answer with
  | none => .error .uninitialised
  | some recvd => do
      let sessionId ← unpackText recvd "session_id"
      let uriCode := (recvd.text "URI_code").getD uriCode
      return { sessionId, localRepoPath, uriCode, repoName := CString.empty }

structure OpenArgs where
  localRepoPath : CString
  apiKey : CString
  token : CString

structure InitCall where
  client : Connection
  sessionId : Oid
  uriCode : Oid
  mkdirFails : Bool

structure ConnectCall where
  client : Connection
  sessionId : Oid

structure CleanupCall where
  client : Connection
  oid : Oid

def InitCall.answers (call : InitCall) : FsAnswers where
  mkdirFails := call.mkdirFails
  readdir := fun _ => none
  genMd5 := fun _ => CString.empty
  fsSdp := CString.empty
  localCandidates := CString.empty

def syInit (fileserver : Connection) (call : InitCall) (repoName : CString) (args : OpenArgs)
    (p : Parties) : Except Fault (Parties × OpenedSession) := do
  let request ← syInitRequest J call.client.own repoName args.apiKey args.token
  let (p, answer) ← exchangeIds J fileserver call.client call.sessionId call.uriCode call.answers
    request .syInitOk p
  let session ← syInitSession J answer repoName args.localRepoPath
  return (p, session)

def syConnect (call : ConnectCall) (uriCode : CString) (args : OpenArgs) (p : Parties) :
    Except Fault (Parties × OpenedSession) := do
  let request ← syConnectRequest J call.client.own uriCode args.apiKey args.token
  let (p, answer) ← consult J call.client call.sessionId request .syConnectOk p
  let session ← syConnectSession J answer uriCode args.localRepoPath
  return (p, session)

def syCleanup (call : CleanupCall) (sySession : SySession) (p : Parties) :
    Except Fault Parties := do
  let request ← syCleanupRequest J call.client.own sySession
  let (p, _) ← consult J call.client call.oid request .syCleanupOk p
  return p

def initRequestBody (repoName apiKey token : CString) : Json :=
  object .syInit
    [("repo_name", .string repoName), ("api_key", .string apiKey), ("token", .string token)]

def createdBody (sessionId : CString) : Json :=
  object .fsInitOk [("session_id", .string sessionId)]

def connectRequestBody (uriCode apiKey token : CString) : Json :=
  object .syConnect
    [("URI_code", .string uriCode), ("api_key", .string apiKey), ("token", .string token)]

def cleanupRequestBody (sessionId : CString) : Json :=
  object .syCleanup [("session_id", .string sessionId)]

variable {J} {db : Db} {wsi : Wsi} {oid : Oid} {text repoName uriCode sessionId : CString}
  {apiKey token : CString} {row : SessionRow} {recvd : Json} {fields : List (String × Json)}

theorem holds_initRequestBody (name : J.accepts repoName = true) (key : J.accepts apiKey = true)
    (secret : J.accepts token = true) : J.Holds (initRequestBody repoName apiKey token) := by
  simp [initRequestBody, object, holds_code, name, key, secret]

theorem holds_initBody (name : J.accepts repoName = true) (id : J.accepts oid.val = true) :
    J.Holds (initBody repoName oid) := by
  simp [initBody, object, holds_code, name, id]

theorem holds_createdBody (id : J.accepts sessionId = true) : J.Holds (createdBody sessionId) := by
  simp [createdBody, object, holds_code, id]

theorem holds_initOkBody (code : J.accepts oid.val = true) (id : J.accepts sessionId = true) :
    J.Holds (initOkBody oid sessionId) := by
  simp [initOkBody, object, holds_code, code, id]

theorem holds_connectRequestBody (code : J.accepts uriCode = true) (key : J.accepts apiKey = true)
    (secret : J.accepts token = true) : J.Holds (connectRequestBody uriCode apiKey token) := by
  simp [connectRequestBody, object, holds_code, code, key, secret]

theorem holds_connectOkBody (id : J.accepts oid.val = true) : J.Holds (connectOkBody oid) := by
  simp [connectOkBody, object, holds_code, id]

theorem holds_cleanupRequestBody (id : J.accepts sessionId = true) :
    J.Holds (cleanupRequestBody sessionId) := by
  simp [cleanupRequestBody, object, holds_code, id]

theorem holds_cleanupBody : J.Holds cleanupBody := by
  simp [cleanupBody, object, holds_code]

theorem onSyInit_stores {fileserverWsi : Wsi} (registered : getWsi db fileserverDns = fileserverWsi)
    (present : fileserverWsi ≠ Wsi.null) (name : recvd.text "repo_name" = some repoName) :
    Fills (Short (J.dumps (initBody repoName oid))) (onSyInit J db wsi oid recvd)
      fun served => ∃ m, served.sent = some m ∧
        m = composed J fileserverWsi .syInit (initBody repoName oid) ∧
        served.store = insertSession db oid.val fileserverWsi wsi repoName .syInit := by
  subst registered
  simp only [onSyInit, if_neg present, unpackText_ok.mpr name, ok_bind]
  exact compose_fits.then fun m made => ⟨m, rfl, made, rfl⟩

theorem fileserverSyInit_fits {store : FsStore} {input : FsReceived}
    (name : recvd.text "repo_name" = some repoName)
    (named : recvd.text "session_id" = some sessionId) :
    Fills ((warehousePath.val ++ repoName.val).length < filePathSize ∧
        Short (J.dumps (createdBody sessionId)))
      (fileserverSyInit J store wsi input recvd) fun served => ∃ m, served.sent = some m ∧
        m = composed J wsi .fsInitOk (createdBody sessionId) ∧ served.store = store := by
  have whole : [warehousePath.val, repoName.val].flatten = warehousePath.val ++ repoName.val := by
    simp
  rw [fileserverSyInit, unpackText_ok.mpr name, ok_bind, unpackText_ok.mpr named, ok_bind, ← whole]
  simp only [ite_self]
  exact concat_fits.bind fun _ _ => compose_fits.then fun m made => ⟨m, rfl, made, rfl⟩

theorem onFsInitOk_stores (found : findSession db sessionId = some row)
    (named : recvd.text "session_id" = some sessionId) :
    Fills (row.Fits J ∧ Short (J.dumps (initOkBody oid sessionId)))
      (onFsInitOk J db oid recvd) fun served => ∃ m, served.sent = some m ∧
        m = composed J (ofInt32 row.clientWsi) .syInitOk (initOkBody oid sessionId) ∧
        served.store.session = updateOne SessionRow.sessionId sessionId
          (fun row => { row with state := .syInitOk }) db.session ∧
        served.store.filesys = db.filesys ++ [
          { uriCode := oid.val, fileserverWsi := row.fileserverWsi, repoName := row.repoName }] := by
  rw [onFsInitOk, unpackText_ok.mpr named, ok_bind]
  refine (getSession_fits found).bind fun _ session => ?_
  subst session
  have moved (db : Db) : updateSession db sessionId (.state .syInitOk) =
      .ok (updated db sessionId fun row => { row with state := .syInitOk }) :=
    updateSession_eq db sessionId _
  rw [deref_some, ok_bind]
  dsimp only
  rw [insertFilesys_eq, moved, ok_bind]
  refine compose_fits.then fun m made => ⟨m, rfl, made, rfl, ?_⟩
  have stored : toInt32 (ofInt32 row.fileserverWsi) = row.fileserverWsi := toInt32_ofInt32 _
  simp [updated, SessionRow.info, stored]

theorem onSyConnect_stores {known : FilesysRow} (code : recvd.text "URI_code" = some uriCode)
    (found : findOne FilesysRow.uriCode uriCode db.filesys = some known) :
    Fills ((known.repoName.val.length < repoNameSize ∧ uriCode.val.length < idSize) ∧
        Short (J.dumps (connectOkBody oid)))
      (onSyConnect J db wsi oid recvd) fun served => ∃ m, served.sent = some m ∧
        m = composed J wsi .syConnectOk (connectOkBody oid) ∧
        served.store = insertSession db oid.val (ofInt32 known.fileserverWsi) wsi known.repoName
          .syConnect := by
  have got : Fills (known.repoName.val.length < repoNameSize ∧ uriCode.val.length < idSize)
      (getUri db uriCode)
      (· = some { fileserverWsi := ofInt32 known.fileserverWsi, repoName := known.repoName
                  uriCode }) := by
    rw [getUri, findUri_eq, found]
    refine strcpy_fits.bind fun _ name => strcpy_fits.then fun _ same => ?_
    rw [name, same]
  rw [onSyConnect, unpackText_ok.mpr code, ok_bind]
  refine got.bind fun _ uri => ?_
  subst uri
  exact compose_fits.then fun m made => ⟨m, rfl, made, rfl⟩

theorem onSyCleanup_stores (named : recvd.text "session_id" = some sessionId) :
    Fills (Short (J.dumps cleanupBody)) (onSyCleanup J db wsi recvd) fun served =>
      ∃ m, served.sent = some m ∧ m = composed J wsi .syCleanupOk cleanupBody ∧
        served.store = deleteSession db sessionId := by
  rw [onSyCleanup, unpackText_ok.mpr named, ok_bind]
  exact compose_fits.then fun m made => ⟨m, rfl, made, rfl⟩

variable {fileserver : Connection} {p p' : Parties}

structure Serves (fileserver : Connection) (p : Parties) : Prop where
  named : getWsi p.metadataServer.store fileserverDns = fileserver.server
  present : fileserver.server ≠ Wsi.null
  registered : p.metadataServer.isOpen fileserver.server = true
  running : p.fileServer.isOpen fileserver.own = true

structure OpenArgs.Carried (J : Jansson) (args : OpenArgs) : Prop where
  apiKey : J.accepts args.apiKey = true
  token : J.accepts args.token = true

structure Opens (p p' : Parties) (row : SessionRow) (codes : List FilesysRow) : Prop where
  undisturbed : Undisturbed p p'
  session : p'.metadataServer.store.session = p.metadataServer.store.session ++ [row]
  filesys : p'.metadataServer.store.filesys = p.metadataServer.store.filesys ++ codes

def InitCall.sessionRow (call : InitCall) (fileserver : Connection) (repoName : CString) : SessionRow :=
  { newSession call.sessionId.val fileserver.server call.client.server repoName .syInit with
    state := .syInitOk }

def InitCall.code (call : InitCall) (fileserver : Connection) (repoName : CString) : FilesysRow where
  uriCode := call.uriCode.val
  fileserverWsi := toInt32 fileserver.server
  repoName := repoName

def ConnectCall.sessionRow (call : ConnectCall) (known : FilesysRow) : SessionRow :=
  newSession call.sessionId.val (ofInt32 known.fileserverWsi) call.client.server known.repoName
    .syConnect

theorem sdpReceive_syInit (loaded : J.loads text = some (object .syInit fields)) :
    callbackSdpReceive J db wsi { dataStr := text, oid } =
      onSyInit J db wsi oid (object .syInit fields) := by
  simp only [callbackSdpReceive, loaded, metadataType_object, ok_bind]

theorem sdpReceive_fsInitOk (loaded : J.loads text = some (object .fsInitOk fields)) :
    callbackSdpReceive J db wsi { dataStr := text, oid } =
      onFsInitOk J db oid (object .fsInitOk fields) := by
  simp only [callbackSdpReceive, loaded, metadataType_object, ok_bind]

theorem sdpReceive_syConnect (loaded : J.loads text = some (object .syConnect fields)) :
    callbackSdpReceive J db wsi { dataStr := text, oid } =
      onSyConnect J db wsi oid (object .syConnect fields) := by
  simp only [callbackSdpReceive, loaded, metadataType_object, ok_bind]

theorem sdpReceive_syCleanup (loaded : J.loads text = some (object .syCleanup fields)) :
    callbackSdpReceive J db wsi { dataStr := text, oid } =
      onSyCleanup J db wsi (object .syCleanup fields) := by
  simp only [callbackSdpReceive, loaded, metadataType_object, ok_bind]

theorem fsReceive_syInit {store : FsStore} {input : FsReceived}
    (loaded : J.loads input.dataStr = some (object .syInit fields)) :
    callbackFileserverReceive J store wsi input =
      fileserverSyInit J store wsi input (object .syInit fields) := by
  simp only [callbackFileserverReceive, loaded, metadataType_object, ok_bind]

theorem Dials.apart {client : Connection} (dials : Dials p client)
    (registered : Serves fileserver p) : fileserver.server ≠ client.server := by
  intro same
  have there := registered.registered
  rw [same, dials.fresh] at there
  cases there

theorem syInitRequest_yields {args : OpenArgs} (name : J.accepts repoName = true)
    (carried : args.Carried J) :
    Yields (syInitRequest J wsi repoName args.apiKey args.token)
      (· = composed J wsi .syInit (initRequestBody repoName args.apiKey args.token)) := by
  simp only [syInitRequest, credentials, textField, name, carried.apiKey, carried.token, if_true]
  exact compose_yields

theorem syConnectRequest_yields {args : OpenArgs} (code : J.accepts uriCode = true)
    (carried : args.Carried J) :
    Yields (syConnectRequest J wsi uriCode args.apiKey args.token)
      (· = composed J wsi .syConnect (connectRequestBody uriCode args.apiKey args.token)) := by
  simp only [syConnectRequest, credentials, textField, code, carried.apiKey, carried.token, if_true]
  exact compose_yields

theorem syCleanupRequest_yields {sySession : SySession}
    (id : J.accepts sySession.sessionId = true) :
    Yields (syCleanupRequest J wsi sySession)
      (· = composed J wsi .syCleanup (cleanupRequestBody sySession.sessionId)) := by
  simp only [syCleanupRequest, textField, id, if_true]
  exact compose_yields

theorem syInit_yields {call : InitCall} {args : OpenArgs} (lossless : J.Lossless)
    (registered : Serves fileserver p) (dials : Dials p call.client)
    (fresh : findSession p.metadataServer.store call.sessionId.val = none)
    (name : J.accepts repoName = true) (carried : args.Carried J)
    (id : J.accepts call.sessionId.val = true) (code : J.accepts call.uriCode.val = true) :
    Yields (syInit J fileserver call repoName args p) fun result =>
      Opens p result.1 (call.sessionRow fileserver repoName) [call.code fileserver repoName] ∧
        result.2 = { sessionId := call.sessionId.val, localRepoPath := args.localRepoPath
                     uriCode := call.uriCode.val, repoName } := by
  have asked : J.loads (J.dumps (initRequestBody repoName args.apiKey args.token)) = _ :=
    lossless _ (holds_initRequestBody name carried.apiKey carried.token)
  have answered : J.loads (J.dumps (initOkBody call.uriCode call.sessionId.val)) = _ :=
    lossless _ (holds_initOkBody code id)
  let row := newSession call.sessionId.val fileserver.server call.client.server repoName .syInit
  have absent : findOne SessionRow.sessionId row.sessionId p.metadataServer.store.session = none :=
    (findSession_eq ..).symm.trans fresh
  have opened : insertSession p.metadataServer.store call.sessionId.val fileserver.server
      call.client.server repoName .syInit = _ := insertSession_eq ..
  unfold syInit
  refine (syInitRequest_yields name carried).bind fun request made => ?_
  subst made
  apply Returns.bind (ReturnsIff.toReturns (exchangeIds_fits
    (fun db m => m.data = J.dumps (initBody repoName call.sessionId) ∧
      db = insertSession p.metadataServer.store call.sessionId.val fileserver.server
        call.client.server repoName .syInit)
    (fun db fs m => m.data = J.dumps (createdBody call.sessionId.val) ∧
      fs = p.fileServer.store ∧ db = insertSession p.metadataServer.store call.sessionId.val
        fileserver.server call.client.server repoName .syInit)
    (fun db fs m => m.data = J.dumps (initOkBody call.uriCode call.sessionId.val) ∧
      fs = p.fileServer.store ∧
      db.session = p.metadataServer.store.session ++ [call.sessionRow fileserver repoName] ∧
      db.filesys = p.metadataServer.store.filesys ++ [call.code fileserver repoName])
    ⟨dials.present, dials.fresh, registered.registered, registered.running⟩ rfl rfl
    ?forwards ?replies ?returns ?arrives)) ?next
  case forwards =>
    rw [composed, sdpReceive_syInit asked]
    refine ReturnsIff.weaken (onSyInit_stores registered.named registered.present rfl) ?_
    rintro served ⟨m, sent, rfl, store⟩
    exact ⟨_, sent, rfl, rfl, store⟩
  case replies =>
    rintro db m ⟨data, store⟩
    have loaded := lossless _ (holds_initBody name id)
    rw [← data] at loaded
    rw [fsReceive_syInit loaded]
    refine ReturnsIff.weaken (fileserverSyInit_fits rfl rfl) ?_
    rintro served ⟨m', sent, rfl, same⟩
    exact ⟨_, sent, rfl, rfl, same, store⟩
  case returns =>
    rintro db fs m ⟨data, rfl, rfl⟩
    have loaded := lossless _ (holds_createdBody id)
    have found : findSession (insertSession p.metadataServer.store call.sessionId.val
        fileserver.server call.client.server repoName .syInit) call.sessionId.val = some row := by
      rw [opened, findSession_eq]
      exact findOne_append_fresh absent
    rw [data, sdpReceive_fsInitOk loaded]
    refine ReturnsIff.weaken (onFsInitOk_stores found rfl) ?_
    rintro served ⟨m', sent, rfl, session, filesys⟩
    refine ⟨_, sent, dials.stored, rfl, rfl, ?_, filesys⟩
    rw [session, opened]
    exact updateOne_append_fresh row absent
  case arrives =>
    rintro db fs m ⟨data, _⟩
    rw [data]
    exact callbackClientReceive_fits answered rfl
  case next =>
    rintro ⟨p', text⟩ ⟨sameServer, sameFs, sameClientFiles, sameFsFiles, db, m,
      ⟨data, fsStore, sessions, filesys⟩, store, same⟩
    dsimp only at same ⊢
    rw [same, data, syInitSession, answered]
    let session : OpenedSession :=
      { sessionId := call.sessionId.val, localRepoPath := args.localRepoPath
        uriCode := call.uriCode.val, repoName }
    have kept : Yields (do
        let repoName ← strcpy repoNameSize repoName
        return { session with repoName }) (· = session) :=
      (strcpy_fits.then fun _ copy => by rw [copy]).toReturns
    refine kept.bind ?_
    rintro _ rfl
    refine .value ⟨⟨⟨sameServer, sameFs, fsStore, sameClientFiles, sameFsFiles⟩, ?_, ?_⟩, rfl⟩
    · exact (congrArg Db.session store).trans sessions
    · exact (congrArg Db.filesys store).trans filesys

theorem syConnect_yields {call : ConnectCall} {args : OpenArgs} {known : FilesysRow}
    (lossless : J.Lossless) (dials : Dials p call.client)
    (found : findOne FilesysRow.uriCode uriCode p.metadataServer.store.filesys = some known)
    (carried : args.Carried J) (id : J.accepts call.sessionId.val = true)
    (code : J.accepts uriCode = true) :
    Yields (syConnect J call uriCode args p) fun result =>
      Opens p result.1 (call.sessionRow known) [] ∧
        result.2 = { sessionId := call.sessionId.val, localRepoPath := args.localRepoPath, uriCode
                     repoName := CString.empty } := by
  have asked : J.loads (J.dumps (connectRequestBody uriCode args.apiKey args.token)) = _ :=
    lossless _ (holds_connectRequestBody code carried.apiKey carried.token)
  have answered : J.loads (J.dumps (connectOkBody call.sessionId)) = _ :=
    lossless _ (holds_connectOkBody id)
  unfold syConnect
  refine (syConnectRequest_yields code carried).bind fun request made => ?_
  subst made
  apply Returns.bind (ReturnsIff.toReturns (consult_fits
    (fun db m => m.data = J.dumps (connectOkBody call.sessionId) ∧
      db = insertSession p.metadataServer.store call.sessionId.val (ofInt32 known.fileserverWsi)
        call.client.server known.repoName .syConnect)
    dials.present dials.fresh rfl rfl ?returns ?arrives)) ?next
  case returns =>
    rw [composed, sdpReceive_syConnect asked]
    refine ReturnsIff.weaken (onSyConnect_stores rfl found) ?_
    rintro served ⟨m, sent, rfl, store⟩
    exact ⟨_, sent, rfl, rfl, store⟩
  case arrives =>
    rintro db m ⟨data, _⟩
    rw [data]
    exact callbackClientReceive_fits answered rfl
  case next =>
    rintro ⟨p', text⟩ ⟨sameServer, sameFs, sameClientFiles, sameFsFiles, db, m, ⟨data, rfl⟩, store,
      same⟩
    dsimp only at same ⊢
    rw [same, data, syConnectSession, answered]
    refine .value ⟨⟨⟨sameServer, congrArg Loop.isOpen sameFs, congrArg Loop.store sameFs,
      sameClientFiles, sameFsFiles⟩, ?_, ?_⟩, rfl⟩
    · exact (congrArg Db.session store).trans (congrArg Db.session (insertSession_eq ..))
    · exact (congrArg Db.filesys store).trans (List.append_nil _).symm

theorem syCleanup_yields {call : CleanupCall} {sySession : SySession} (lossless : J.Lossless)
    (dials : Dials p call.client) (id : J.accepts sySession.sessionId = true) :
    Yields (syCleanup J call sySession p) fun p' => Undisturbed p p' ∧
      p'.metadataServer.store.session =
        removeOne SessionRow.sessionId sySession.sessionId p.metadataServer.store.session ∧
      p'.metadataServer.store.filesys = p.metadataServer.store.filesys := by
  have asked : J.loads (J.dumps (cleanupRequestBody sySession.sessionId)) = _ :=
    lossless _ (holds_cleanupRequestBody id)
  have answered : J.loads (J.dumps cleanupBody) = _ := lossless _ holds_cleanupBody
  unfold syCleanup
  refine (syCleanupRequest_yields id).bind fun request made => ?_
  subst made
  apply Returns.bind (ReturnsIff.toReturns (consult_fits
    (fun db m => m.data = J.dumps cleanupBody ∧
      db = deleteSession p.metadataServer.store sySession.sessionId)
    dials.present dials.fresh rfl rfl ?returns ?arrives)) ?next
  case returns =>
    rw [composed, sdpReceive_syCleanup asked]
    refine ReturnsIff.weaken (onSyCleanup_stores rfl) ?_
    rintro served ⟨m, sent, rfl, store⟩
    exact ⟨_, sent, rfl, rfl, store⟩
  case arrives =>
    rintro db m ⟨data, _⟩
    rw [data]
    exact callbackClientReceive_fits answered rfl
  case next =>
    rintro ⟨p', text⟩ ⟨sameServer, sameFs, sameClientFiles, sameFsFiles, db, m, ⟨data, rfl⟩, store,
      same⟩
    refine .value ⟨⟨sameServer, congrArg Loop.isOpen sameFs, congrArg Loop.store sameFs,
      sameClientFiles, sameFsFiles⟩, ?_, ?_⟩
    · exact (congrArg Db.session store).trans (congrArg Db.session (deleteSession_eq ..))
    · exact (congrArg Db.filesys store :)

end Librtcdc.Metadata
