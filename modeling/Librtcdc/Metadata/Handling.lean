import Librtcdc.Metadata.Server

set_option autoImplicit false

namespace Librtcdc.Metadata

open Systems Sync

def MetadataType.isResponse : MetadataType → Bool
  | .syInitOk | .syConnectOk | .syStatusOk | .fsUploadReady | .fsDownloadReady => true
  | _ => false

def MetadataType.isForward : MetadataType → Bool
  | .syInit | .syStatus | .syUpload | .syDownload => true
  | _ => false

def MetadataType.isRequest : MetadataType → Bool
  | .syStatus | .syUpload | .syDownload => true
  | _ => false

def MetadataType.isReply : MetadataType → Bool
  | .fsInitOk | .fsStatusOk | .fsUploadReady | .fsDownloadReady => true
  | _ => false

-- A received value that names a stored session, and a message composed about that session.
structure About (db : Db) (recvd : Json) (sessionId : CString) (row : SessionRow) (m : Message) :
    Prop where
  named : recvd.text "session_id" = some sessionId
  found : findSession db sessionId = some row
  about : m.sessionId = some sessionId

structure Keeps (assign : SessionRow → SessionRow) : Prop where
  sessionId : ∀ row, (assign row).sessionId = row.sessionId
  fileserverWsi : ∀ row, (assign row).fileserverWsi = row.fileserverWsi

def updated (db : Db) (sessionId : CString) (assign : SessionRow → SessionRow) : Db :=
  { db with session := updateOne SessionRow.sessionId sessionId assign db.session }

variable (J : Jansson) (db : Db) (wsi : Wsi) (oid : Oid) (recvd : Json)

inductive Handled : Option MetadataType → Served Db → Prop
  | silent (received : Option MetadataType)
      (quiet : ∀ type, received = some type → type.isRequest = false ∧ type.isReply = false ∧
        (type = .syInit → getWsi db fileserverDns = Wsi.null)) :
      Handled received (Served.silent db)
  | register (m : Message) (type : m.type = .fsRegisterOk) (target : m.targetWsi = wsi)
      (carries : m.Carries J) :
      Handled (some .fsRegister)
        { store := insertFileserver db fileserverDns wsi, notes := [], sent := some m }
  | opened (m : Message) (received : MetadataType) (fileserverWsi : Wsi) (repoName : CString)
      (state : MetadataType) (stored : Survives fileserverWsi)
      (about : m.sessionId = some oid.val)
      (addressed : received = .syInit ∧ m.type = .syInit ∧ m.targetWsi = fileserverWsi ∧
          fileserverWsi = getWsi db fileserverDns ∧ fileserverWsi ≠ Wsi.null ∨
        received = .syConnect ∧ m.type = .syConnectOk ∧ m.targetWsi = wsi)
      (carries : m.Carries J) :
      Handled (some received)
        { store := insertSession db oid.val fileserverWsi wsi repoName state
          notes := [.issued oid.val wsi, .bound oid.val fileserverWsi]
          sent := some m }
  | request (m : Message) (sessionId : CString) (row : SessionRow)
      (assign : SessionRow → SessionRow) (about : About db recvd sessionId row m)
      (keeps : Keeps assign) (client : ∀ row, (assign row).clientWsi = toInt32 wsi)
      (asked : m.type.isRequest = true) (target : m.targetWsi = ofInt32 row.fileserverWsi)
      (carries : m.Carries J) :
      Handled (some m.type)
        { store := updated db sessionId assign
          notes := [.issued sessionId wsi]
          sent := some m }
  | response (m : Message) (received : MetadataType) (sessionId : CString) (row : SessionRow)
      (assign : SessionRow → SessionRow) (filesys : List FilesysRow)
      (about : About db recvd sessionId row m) (keeps : Keeps assign)
      (client : ∀ row, (assign row).clientWsi = row.clientWsi)
      (replied : received.isReply = true) (type : m.type.isResponse = true)
      (target : m.targetWsi = ofInt32 row.clientWsi) (carries : m.Carries J) :
      Handled (some received)
        { store := { updated db sessionId assign with filesys }
          notes := []
          sent := some m }
  | cleanup (m : Message) (sessionId : CString) (named : recvd.text "session_id" = some sessionId)
      (type : m.type = .syCleanupOk) (target : m.targetWsi = wsi) (carries : m.Carries J) :
      Handled (some .syCleanup)
        { store := deleteSession db sessionId, notes := [], sent := some m }

variable {J db wsi oid recvd} {served : Served Db} {targetWsi : Wsi} {type : MetadataType}
  {body : Json} {m : Message}

theorem compose_carries (composed : compose J targetWsi type body = .ok m) : m.Carries J := by
  obtain ⟨_, rfl⟩ := compose_ok.mp composed
  exact .inl rfl

theorem updated_ok {sessionId : CString} {field : SessionField} {db' : Db}
    (moved : updateSession db sessionId field = .ok db') :
    ∃ assign, db' = updated db sessionId assign ∧ Keeps assign ∧
      ∀ row, (assign row).clientWsi = field.clientOf row := by
  obtain ⟨assign, assigned, rfl⟩ := updateSession_ok moved
  have kept := SessionField.assign_keeps assigned
  exact ⟨assign, rfl, ⟨fun row => (kept row).1, fun row => (kept row).2.1⟩,
    fun row => (kept row).2.2⟩

theorem updated_updated {sessionId : CString} {f g : SessionRow → SessionRow} (keeps : Keeps f) :
    updated (updated db sessionId f) sessionId g = updated db sessionId fun row => g (f row) := by
  simp only [updated, updateOne_updateOne keeps.sessionId]

theorem Keeps.then {f g : SessionRow → SessionRow} (first : Keeps f) (second : Keeps g) :
    Keeps fun row => g (f row) where
  sessionId row := by rw [second.sessionId, first.sessionId]
  fileserverWsi row := by rw [second.fileserverWsi, first.fileserverWsi]

theorem Keeps.id : Keeps fun row => row where
  sessionId _ := rfl
  fileserverWsi _ := rfl

theorem updated_id {sessionId : CString} : (updated db sessionId fun row => row) = db := by
  have same : ∀ rows : List SessionRow,
      updateOne SessionRow.sessionId sessionId (fun row => row) rows = rows := by
    intro rows
    induction rows with
    | nil => rfl
    | cons row rest ih => simp [updateOne, ih]
  simp [updated, same]

theorem onFsRegister_handled (handled : onFsRegister J db wsi = .ok served) :
    Handled J db wsi oid recvd (some .fsRegister) served := by
  simp only [onFsRegister, bind_ok, return_ok] at handled
  obtain ⟨m, composed, rfl⟩ := handled
  have carries := compose_carries composed
  obtain ⟨_, rfl⟩ := compose_ok.mp composed
  exact .register _ rfl rfl carries

theorem onSyInit_handled (handled : onSyInit J db wsi oid recvd = .ok served) :
    Handled J db wsi oid recvd (some .syInit) served := by
  simp only [onSyInit] at handled
  split_ifs at handled with nobody
  · obtain rfl := return_ok.mp handled
    refine .silent _ ?_
    rintro _ ⟨⟩
    exact ⟨rfl, rfl, fun _ => nobody⟩
  · simp only [bind_ok, return_ok] at handled
    obtain ⟨repoName, _, m, composed, rfl⟩ := handled
    have carries := compose_carries composed
    obtain ⟨_, rfl⟩ := compose_ok.mp composed
    exact .opened _ _ _ repoName _ (getWsi_survives _) rfl
      (.inl ⟨rfl, rfl, rfl, rfl, nobody⟩) carries

theorem onFsInitOk_handled (handled : onFsInitOk J db oid recvd = .ok served) :
    Handled J db wsi oid recvd (some .fsInitOk) served := by
  simp only [onFsInitOk, bind_ok, return_ok, unpackText_ok, deref_ok] at handled
  obtain ⟨sessionId, named, pointer, got, session, rfl, db', moved, m, composed, rfl⟩ := handled
  obtain ⟨row, found, _, rfl⟩ := getSession_ok.mp got
  obtain ⟨assign, rfl, keeps, client⟩ := updated_ok moved
  have carries := compose_carries composed
  obtain ⟨_, rfl⟩ := compose_ok.mp composed
  exact .response _ _ sessionId row assign _ ⟨named, found, rfl⟩ keeps client rfl rfl rfl carries

theorem onSyConnect_handled (handled : onSyConnect J db wsi oid recvd = .ok served) :
    Handled J db wsi oid recvd (some .syConnect) served := by
  simp only [onSyConnect, bind_ok] at handled
  obtain ⟨uriCode, _, pointer, got, handled⟩ := handled
  cases pointer with
  | none =>
      obtain rfl := return_ok.mp handled
      refine .silent _ ?_
      rintro _ ⟨⟩
      exact ⟨rfl, rfl, nofun⟩
  | some uri =>
      simp only [bind_ok, return_ok] at handled
      obtain ⟨m, composed, rfl⟩ := handled
      obtain ⟨row, _, fileserver, _⟩ := getUri_ok got
      have stored : Survives uri.fileserverWsi := fileserver ▸ ofInt32_survives _
      have carries := compose_carries composed
      obtain ⟨_, rfl⟩ := compose_ok.mp composed
      exact .opened _ _ _ uri.repoName _ stored rfl (.inr ⟨rfl, rfl, rfl⟩) carries

theorem onSyStatus_handled (handled : onSyStatus J db wsi recvd = .ok served) :
    Handled J db wsi oid recvd (some .syStatus) served := by
  simp only [onSyStatus, bind_ok, return_ok, unpackText_ok, deref_ok] at handled
  obtain ⟨sessionId, named, pointer, got, session, rfl, db₁, first, db₂, second, db₃, third, m,
    composed, rfl⟩ := handled
  obtain ⟨row, found, _, rfl⟩ := getSession_ok.mp got
  obtain ⟨state, rfl, keepsState, _⟩ := updated_ok first
  obtain ⟨files, rfl, keepsFiles, _⟩ := updated_ok second
  obtain ⟨assign, rfl, keeps, client⟩ := updated_ok third
  have carries := compose_carries composed
  obtain ⟨_, rfl⟩ := compose_ok.mp composed
  rw [updated_updated keepsState, updated_updated (keepsState.then keepsFiles)]
  exact .request _ sessionId row _ ⟨named, found, rfl⟩ ((keepsState.then keepsFiles).then keeps)
    (fun _ => client _) rfl rfl carries

theorem onFsStatusOk_handled (handled : onFsStatusOk J db recvd = .ok served) :
    Handled J db wsi oid recvd (some .fsStatusOk) served := by
  simp only [onFsStatusOk, bind_ok, return_ok, unpackText_ok, deref_ok] at handled
  obtain ⟨sessionId, named, pointer, got, session, rfl, joined, _, db₁, first, diff, _, db₂, second,
    m, composed, rfl⟩ := handled
  obtain ⟨row, found, _, rfl⟩ := getSession_ok.mp got
  obtain ⟨files, rfl, keepsFiles, clientFiles⟩ := updated_ok first
  obtain ⟨assign, rfl, keeps, client⟩ := updated_ok second
  have carries := compose_carries composed
  obtain ⟨_, rfl⟩ := compose_ok.mp composed
  rw [updated_updated keepsFiles]
  exact .response _ _ sessionId row _ _ ⟨named, found, rfl⟩ (keepsFiles.then keeps)
    (fun row => (client _).trans (clientFiles row)) rfl rfl rfl carries

theorem onTransfer_handled {more : SessionInfo → List (String × Json)}
    (asked : type.isRequest = true)
    (handled : onTransfer J type more db wsi recvd = .ok served) :
    Handled J db wsi oid recvd (some type) served := by
  simp only [onTransfer, bind_ok, return_ok, unpackText_ok, deref_ok] at handled
  obtain ⟨sessionId, named, _, _, _, _, pointer, got, session, rfl, db', moved, m, composed, rfl⟩ :=
    handled
  obtain ⟨row, found, _, rfl⟩ := getSession_ok.mp got
  obtain ⟨assign, rfl, keeps, client⟩ := updated_ok moved
  have carries := compose_carries composed
  obtain ⟨_, rfl⟩ := compose_ok.mp composed
  exact .request _ sessionId row assign ⟨named, found, rfl⟩ keeps client asked rfl carries

theorem onReady_handled {dataStr : CString} (replied : type.isReply = true)
    (isResponse : type.isResponse = true)
    (loaded : J.loads dataStr = some recvd)
    (handled : onReady J type db dataStr recvd = .ok served) :
    Handled J db wsi oid recvd (some type) served := by
  simp only [onReady, bind_ok, return_ok, unpackText_ok, deref_ok] at handled
  obtain ⟨sessionId, named, pointer, got, session, rfl, m, composed, rfl⟩ := handled
  obtain ⟨row, found, _, rfl⟩ := getSession_ok.mp got
  obtain ⟨_, same⟩ := forward_ok.mp composed
  have about : About db recvd sessionId row m := ⟨named, found, by rw [same]; exact named⟩
  have carries : m.Carries J := .inr (by rw [same]; exact loaded)
  have response : Handled J db wsi oid recvd (some type)
      { store := { (updated db sessionId fun row => row) with filesys := db.filesys }
        notes := []
        sent := some m } :=
    .response m type sessionId row _ _ about Keeps.id (fun _ => rfl) replied
      (by rw [same]; exact isResponse) (by rw [same]; rfl) carries
  rwa [updated_id] at response

theorem onSyCleanup_handled (handled : onSyCleanup J db wsi recvd = .ok served) :
    Handled J db wsi oid recvd (some .syCleanup) served := by
  simp only [onSyCleanup, bind_ok, return_ok, unpackText_ok] at handled
  obtain ⟨sessionId, named, m, composed, rfl⟩ := handled
  have carries := compose_carries composed
  obtain ⟨_, rfl⟩ := compose_ok.mp composed
  exact .cleanup _ sessionId named rfl rfl carries

theorem receive_handled {input : Received}
    (received : callbackSdpReceive J db wsi input = .ok served) :
    ∃ recvd type, J.loads input.dataStr = some recvd ∧ metadataType recvd = .ok type ∧
      Handled J db wsi input.oid recvd type served := by
  unfold callbackSdpReceive at received
  split at received
  · cases received
  · rename_i recvd loaded
    obtain ⟨type, typed, handled⟩ := bind_ok.mp received
    refine ⟨recvd, type, loaded, typed, ?_⟩
    split at handled
    · exact onFsRegister_handled handled
    · exact onSyInit_handled handled
    · exact onFsInitOk_handled handled
    · exact onSyConnect_handled handled
    · exact onSyStatus_handled handled
    · exact onFsStatusOk_handled handled
    · exact onTransfer_handled rfl handled
    · exact onReady_handled rfl rfl loaded handled
    · exact onTransfer_handled rfl handled
    · exact onReady_handled rfl rfl loaded handled
    · exact onSyCleanup_handled handled
    · rename_i unhandled
      obtain rfl := return_ok.mp handled
      refine .silent _ ?_
      rintro type rfl
      cases type <;> simp_all [MetadataType.isRequest, MetadataType.isReply]

variable {received : Option MetadataType}

theorem Handled.carries (handled : Handled J db wsi oid recvd received served) :
    ∀ m ∈ served.sent, m.Carries J := by
  cases handled with
  | silent => simp [Served.silent]
  | register _ _ _ carries | opened _ _ _ _ _ _ _ _ carries | request _ _ _ _ _ _ _ _ _ carries
  | response _ _ _ _ _ _ _ _ _ _ _ _ carries | cleanup _ _ _ _ _ carries => simpa using carries

def metadataServer (J : Jansson) : Service Db Received where
  established db _ := .ok (Served.silent db)
  closed := deleteFileserver
  receive := callbackSdpReceive J
  writeable := callbackSdpWriteable
  established_sends := by
    rintro db wsi served same
    obtain rfl := Except.ok.inj same
    simp [Served.silent]
  receive_sends := by
    intro db wsi input served received m sent
    obtain ⟨recvd, _, _, _, handled⟩ := receive_handled received
    exact (handled.carries m sent).nonempty
  writes := by
    intro data nonempty
    simp [callbackSdpWriteable, nonempty]

end Librtcdc.Metadata
