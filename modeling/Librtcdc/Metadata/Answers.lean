import Librtcdc.Metadata.Listing
import Librtcdc.Sync.Delivery

set_option autoImplicit false

namespace Librtcdc.Metadata

open Systems Sync

def filesBody (type : MetadataType) (sessionId : CString) (files : List Json) : Json :=
  object type [("session_id", .string sessionId), ("files", .array files)]

def repoBody (sessionId repoName : CString) : Json :=
  object .syStatus [("session_id", .string sessionId), ("repo_name", .string repoName)]

variable {J : Jansson} {mongo : Mongo} {db : Db} {wsi target : Wsi} {oid : Oid}
  {type : MetadataType} {sessionId repoName : CString} {row : SessionRow} {files : List Json}
  {fields : List (String × Json)} {recvd : Json}

theorem metadataType_object : metadataType (object type fields) = .ok (some type) := by
  have code : Json.unpackAs .i (.integer type.code) = some (.integer type.code) := by
    cases type <;> rfl
  have found : (object type fields).get "metadata_type" = some (.integer type.code) := by
    simp [object]
  rw [metadataType, found, Option.bind_some, code]
  simp

theorem sdpReceive_syStatus {text : CString} (loaded : J.loads text = some (object .syStatus fields)) :
    callbackSdpReceive J db wsi { dataStr := text, oid } =
      onSyStatus J db wsi (object .syStatus fields) := by
  simp only [callbackSdpReceive, loaded, metadataType_object, ok_bind]

theorem sdpReceive_fsStatusOk {text : CString}
    (loaded : J.loads text = some (object .fsStatusOk fields)) :
    callbackSdpReceive J db wsi { dataStr := text, oid } =
      onFsStatusOk J db (object .fsStatusOk fields) := by
  simp only [callbackSdpReceive, loaded, metadataType_object, ok_bind]

theorem fsReceive_syStatus {store : FsStore} {input : FsReceived}
    (loaded : J.loads input.dataStr = some (object .syStatus fields)) :
    callbackFileserverReceive J store wsi input =
      fileserverSyStatus J store wsi input (object .syStatus fields) := by
  simp only [callbackFileserverReceive, loaded, metadataType_object, ok_bind]

theorem holds_code : J.Holds (.integer type.code) := by
  cases type <;> exact .integer (by decide) (by decide)

theorem holds_filesBody (id : J.accepts sessionId = true) (each : ∀ file ∈ files, J.Holds file) :
    J.Holds (filesBody type sessionId files) := by
  simpa [filesBody, object, holds_code, id] using each

theorem holds_repoBody (id : J.accepts sessionId = true) (name : J.accepts repoName = true) :
    J.Holds (repoBody sessionId repoName) := by
  simp [repoBody, object, holds_code, id, name]

theorem holds_entry {key : String} {name checksum : CString} (different : key ≠ "filename")
    (nameFits : J.accepts name = true) (checksumFits : J.accepts checksum = true) :
    J.Holds (entry key name checksum) := by
  simp [entry, nameFits, checksumFits, different.symm]

theorem holds_diffEntry {name : CString} {dirty : FileStatus} (nameFits : J.accepts name = true) :
    J.Holds (diffEntry name dirty) := by
  have code : J.Holds (.integer dirty.code) := by
    cases dirty <;> exact .integer (by decide) (by decide)
  simp [diffEntry, nameFits, code]

theorem getSession_fits (found : findSession db sessionId = some row) :
    Fills (row.Fits J) (getSession J db sessionId) (· = some (row.info J)) := by
  have same : row.sessionId = sessionId := findSession_named found
  have all : row.repoName.val.length < repoNameSize ∧ (J.dumps row.files).val.length < dataSize ∧
      (J.dumps row.diff).val.length < dataSize ∧ sessionId.val.length < idSize ↔ row.Fits J := by
    rw [← same]
    exact ⟨fun ⟨repoName, files, diff, id⟩ => ⟨repoName, files, diff, id⟩,
      fun fits => ⟨fits.repoName, fits.files, fits.diff, fits.sessionId⟩⟩
  unfold getSession
  rw [found]
  refine ReturnsIff.congr ?_ all
  refine strcpy_fits.bind fun _ repoName => strcpy_fits.bind fun _ files =>
    strcpy_fits.bind fun _ diff => strcpy_fits.then fun _ id => ?_
  rw [repoName, files, diff, id, ← same]
  rfl

theorem updateSession_found (mongo : Mongo) (field : SessionField)
    {assign : SessionRow → SessionRow} (assigned : field.assign mongo = .ok assign)
    (found : findSession db sessionId = some row) :
    ∃ db', updateSession db sessionId field = .ok db' ∧
      findSession db' sessionId = some (assign row) := by
  have keeps := fun row => (SessionField.assign_keeps assigned row).1
  rw [SessionField.assign_eq mongo db.mongo] at assigned
  refine ⟨_, by rw [updateSession_eq, assigned, ok_bind]; rfl, ?_⟩
  rw [findSession_eq, findOne_updateOne_same keeps, ← findSession_eq, found, Option.map_some]

def SessionRow.asked (row : SessionRow) (wsi : Wsi) (files : Json) : SessionRow :=
  { row with state := .syStatus, files, clientWsi := toInt32 wsi }

theorem onSyStatus_fits (found : findSession db sessionId = some row)
    (named : recvd.text "session_id" = some sessionId) {documents : Json}
    (listed : documentArray mongo [("filename", .s), ("client_checksum", .s)] (recvd.get "files") =
      .ok documents) :
    Fills (row.Fits J ∧ Short (J.dumps (repoBody sessionId row.repoName)))
      (onSyStatus J db wsi recvd) fun served => ∃ m, served.sent = some m ∧
        m = composed J (ofInt32 row.fileserverWsi) .syStatus (repoBody sessionId row.repoName) ∧
        findSession served.store sessionId = some (row.asked wsi documents) := by
  rw [onSyStatus, unpackText_ok.mpr named, ok_bind]
  refine (getSession_fits found).bind fun _ session => ?_
  subst session
  obtain ⟨db₁, first, found₁⟩ := updateSession_found db.mongo (.state .syStatus) rfl found
  obtain ⟨db₂, second, found₂⟩ := updateSession_found mongo (.clientChecksum (recvd.get "files"))
    (by rw [SessionField.assign, listed, ok_bind]; rfl) found₁
  obtain ⟨db₃, third, found₃⟩ := updateSession_found db.mongo (.clientWsi wsi) rfl found₂
  rw [deref_some, ok_bind, first, ok_bind, second, ok_bind, third, ok_bind]
  exact compose_fits.then fun m made => ⟨m, rfl, made, found₃⟩

def diffOf (client fs : CString → CString) (fsNames clientNames : List CString) : List Json :=
  (joinedNames fsNames clientNames).map fun name =>
    diffEntry name (fileStatus (client name) (fs name))

variable {client fs : CString → CString} {fsNames clientNames : List CString}
  {clientElements fsElements : List Json}

variable {joined diff : List Json} {documents : Json}

theorem onFsStatusOk_joined (found : findSession db sessionId = some row)
    (named : recvd.text "session_id" = some sessionId)
    (joins : joinChecksumArrays "filename" (recvd.get "files") "fs_checksum"
      (J.loads (J.dumps row.files)) "client_checksum" = .ok joined)
    (kept : documentArray mongo [("filename", .s), ("client_checksum", .s), ("fs_checksum", .s)]
      (some (.array joined)) = .ok documents)
    (compared : joined.mapM diffElement = .ok diff)
    (compares : documentArray mongo [("filename", .s), ("dirty", .i)] (some (.array diff)) =
      .ok (.array diff)) :
    ∃ db', findSession db' sessionId = some { row with files := documents, diff := .array diff } ∧
      onFsStatusOk J db recvd = (do
        let _ ← getSession J db sessionId
        let m ← compose J (ofInt32 row.clientWsi) .syStatusOk
          (filesBody .syStatusOk sessionId diff)
        return { store := db', notes := [], sent := some m }) := by
  obtain ⟨db₁, first, found₁⟩ := updateSession_found mongo (.files (some (.array joined)))
    (by rw [SessionField.assign, kept, ok_bind]; rfl) found
  obtain ⟨db₂, second, found₂⟩ := updateSession_found mongo (.diff (some (.array diff)))
    (by rw [SessionField.assign, compares, ok_bind]; rfl) found₁
  refine ⟨db₂, found₂, ?_⟩
  rw [onFsStatusOk, unpackText_ok.mpr named, ok_bind]
  have session := (getSession_fits (J := J) found).toReturns
  cases got : getSession J db sessionId with
  | error fault => rfl
  | ok info =>
      rw [got] at session
      obtain rfl : info = some (row.info J) := session
      have loaded : joinChecksumArrays "filename" (recvd.get "files") "fs_checksum"
        (J.loads (row.info J).files) "client_checksum" = .ok joined := joins
      rw [ok_bind, ok_bind, deref_some, ok_bind, loaded, ok_bind, first, ok_bind, compared, ok_bind,
        second, ok_bind]
      rfl

theorem onFsStatusOk_eq (found : findSession db sessionId = some row)
    (named : recvd.text "session_id" = some sessionId)
    (stored : J.loads (J.dumps row.files) = some (.array clientElements))
    (received : recvd.get "files" = some (.array fsElements))
    (clientListed : ReportsAll "client_checksum" client clientElements clientNames)
    (fsListed : ReportsAll "fs_checksum" fs fsElements fsNames)
    (fsDistinct : fsNames.Nodup) (clientDistinct : clientNames.Nodup)
    (fsLacks : ∀ name, name ∉ fsNames → fs name = CString.empty)
    (clientLacks : ∀ name, name ∉ clientNames → client name = CString.empty) :
    ∃ db' files,
      findSession db' sessionId =
        some { row with files, diff := .array (diffOf client fs fsNames clientNames) } ∧
      onFsStatusOk J db recvd = (do
        let _ ← getSession J db sessionId
        let m ← compose J (ofInt32 row.clientWsi) .syStatusOk
          (filesBody .syStatusOk sessionId (diffOf client fs fsNames clientNames))
        return { store := db', notes := [], sent := some m }) := by
  obtain ⟨joined, joins, described⟩ :=
    joinChecksumArrays_describes fsListed clientListed fsDistinct clientDistinct fsLacks clientLacks
  obtain ⟨files, documents⟩ := documentArray_joined described
  obtain ⟨db', found', outcome⟩ := onFsStatusOk_joined found named
    (by rw [received, stored]; exact joins) documents (diff_describes described)
    (documentArray_diff db.mongo (fun name => name) _)
  exact ⟨db', files, found', outcome⟩

theorem onFsStatusOk_fits (found : findSession db sessionId = some row)
    (named : recvd.text "session_id" = some sessionId)
    (stored : J.loads (J.dumps row.files) = some (.array clientElements))
    (received : recvd.get "files" = some (.array fsElements))
    (clientListed : ReportsAll "client_checksum" client clientElements clientNames)
    (fsListed : ReportsAll "fs_checksum" fs fsElements fsNames)
    (fsDistinct : fsNames.Nodup) (clientDistinct : clientNames.Nodup)
    (fsLacks : ∀ name, name ∉ fsNames → fs name = CString.empty)
    (clientLacks : ∀ name, name ∉ clientNames → client name = CString.empty) :
    Fills (row.Fits J ∧ Short (J.dumps (filesBody .syStatusOk sessionId
        (diffOf client fs fsNames clientNames))))
      (onFsStatusOk J db recvd) fun served => ∃ m, served.sent = some m ∧
        m = composed J (ofInt32 row.clientWsi) .syStatusOk
          (filesBody .syStatusOk sessionId (diffOf client fs fsNames clientNames)) ∧
        ∃ files, findSession served.store sessionId =
          some { row with files, diff := .array (diffOf client fs fsNames clientNames) } := by
  obtain ⟨db', files, found', outcome⟩ := onFsStatusOk_eq found named stored received clientListed
    fsListed fsDistinct clientDistinct fsLacks clientLacks
  rw [outcome]
  refine (getSession_fits found).bind fun _ _ => compose_fits.then fun m made => ?_
  exact ⟨m, rfl, made, files, found'⟩

def transferBody (type : MetadataType) (sessionId repoName clientSdp clientCandidates : CString)
    (more : List (String × Json)) : Json :=
  object type ([("session_id", .string sessionId), ("repo_name", .string repoName),
    ("client_SDP", .string clientSdp), ("client_candidates", .string clientCandidates)] ++ more)

theorem onTransfer_fits (more : SessionInfo → List (String × Json))
    {clientSdp clientCandidates : CString} (found : findSession db sessionId = some row)
    (named : recvd.text "session_id" = some sessionId)
    (sdp : recvd.text "client_SDP" = some clientSdp)
    (candidates : recvd.text "client_candidates" = some clientCandidates) :
    Fills (row.Fits J ∧
        Short (J.dumps (transferBody type sessionId row.repoName clientSdp clientCandidates
          (more (row.info J)))))
      (onTransfer J type more db wsi recvd) fun served => ∃ m, served.sent = some m ∧
        m = composed J (ofInt32 row.fileserverWsi) type
          (transferBody type sessionId row.repoName clientSdp clientCandidates
            (more (row.info J))) ∧
        findSession served.store sessionId = some { row with clientWsi := toInt32 wsi } := by
  obtain ⟨db', updated, found'⟩ := updateSession_found db.mongo (.clientWsi wsi) rfl found
  rw [onTransfer, unpackText_ok.mpr named, ok_bind, unpackText_ok.mpr sdp, ok_bind,
    unpackText_ok.mpr candidates, ok_bind]
  refine (getSession_fits found).bind fun _ session => ?_
  subst session
  rw [deref_some, ok_bind, updated, ok_bind]
  exact compose_fits.then fun m made => ⟨m, rfl, made, found'⟩

theorem onReady_fits {recvdDataStr : CString} (found : findSession db sessionId = some row)
    (named : recvd.text "session_id" = some sessionId) :
    Fills (row.Fits J ∧ Short recvdDataStr) (onReady J type db recvdDataStr recvd) fun served =>
      ∃ m, served.sent = some m ∧
        m = { writeData :=
                { targetWsi := ofInt32 row.clientWsi, type, data := recvdDataStr }, body := recvd } ∧
          served.store = db := by
  rw [onReady, unpackText_ok.mpr named, ok_bind]
  refine (getSession_fits found).bind fun _ session => ?_
  subst session
  rw [deref_some, ok_bind]
  exact forward_fits.then fun m made => ⟨m, rfl, made, rfl⟩

variable {store : FsStore} {input : FsReceived}

theorem fileserverSyStatus_fits {entries : List CString} {directory : Bytes}
    (name : recvd.text "repo_name" = some repoName)
    (named : recvd.text "session_id" = some sessionId)
    (path : directory = warehousePath.val ++ repoName.val ++ slash.val)
    (listing : input.readdir (warehousePath.val ++ repoName.val) = some entries)
    (accepted : ∀ name ∈ realNames entries,
      J.accepts name = true ∧ J.accepts (input.genMd5 (directory ++ name.val)) = true) :
    Fills ((warehousePath.val ++ repoName.val).length < filePathSize ∧
        (∀ name ∈ realNames entries, (directory ++ name.val).length < filePathSize) ∧
        Short (J.dumps (filesBody .fsStatusOk sessionId ((realNames entries).map fun name =>
          entry "fs_checksum" name (input.genMd5 (directory ++ name.val))))))
      (fileserverSyStatus J store wsi input recvd) fun served => ∃ m, served.sent = some m ∧
        m = composed J wsi .fsStatusOk (filesBody .fsStatusOk sessionId
          ((realNames entries).map fun name =>
            entry "fs_checksum" name (input.genMd5 (directory ++ name.val)))) ∧
        served.store = store := by
  have whole : [warehousePath.val, repoName.val].flatten = warehousePath.val ++ repoName.val := by
    simp
  rw [fileserverSyStatus, unpackText_ok.mpr name, ok_bind, unpackText_ok.mpr named, ok_bind, ← whole]
  refine concat_fits.bind fun repoPath joined => ?_
  rw [whole] at joined
  subst joined path
  rw [listing]
  refine (listFiles_fits accepted).bind fun files listed => ?_
  subst listed
  exact compose_fits.then fun m made => ⟨m, rfl, made, rfl⟩

theorem fileserverTransfer_fits {direction : Direction} {clientSdp clientCandidates : CString}
    {sySessionDiff : Except Fault (List DiffInfo)} {readable : Prop} {diff : List DiffInfo}
    (sdp : recvd.text "client_SDP" = some clientSdp)
    (candidates : recvd.text "client_candidates" = some clientCandidates)
    (name : recvd.text "repo_name" = some repoName)
    (named : recvd.text "session_id" = some sessionId)
    (sdpFits : J.accepts input.fsSdp = true) (candidatesFit : J.accepts input.localCandidates = true)
    (read : Fills readable sySessionDiff (· = diff)) :
    Fills (readable ∧ Short (J.dumps (object type [("session_id", .string sessionId),
          ("fs_SDP", .string input.fsSdp), ("fs_candidates", .string input.localCandidates)])) ∧
        (warehousePath.val ++ repoName.val ++ slash.val).length < localPathSize)
      (fileserverTransfer J type direction sySessionDiff store wsi input recvd) fun served =>
        ∃ m, served.sent = some m ∧
          m = composed J wsi type (object type [("session_id", .string sessionId),
            ("fs_SDP", .string input.fsSdp), ("fs_candidates", .string input.localCandidates)]) ∧
          served.store.transfers = store.transfers ++ [
            { direction
              localRepoPath := warehousePath.val ++ repoName.val ++ slash.val
              sySessionDiff := diff }] := by
  have whole : [warehousePath.val, repoName.val, slash.val].flatten =
      warehousePath.val ++ repoName.val ++ slash.val := by simp
  rw [fileserverTransfer, unpackText_ok.mpr sdp, ok_bind, unpackText_ok.mpr candidates, ok_bind,
    unpackText_ok.mpr name, ok_bind, unpackText_ok.mpr named, ok_bind, ← whole]
  simp only [textField, sdpFits, candidatesFit, if_true]
  refine read.bind fun _ same => ?_
  subst same
  refine compose_fits.bind fun m made => concat_fits.then fun path joined => ?_
  subst joined
  exact ⟨m, rfl, made, rfl⟩

theorem callbackClientReceive_fits {data : WriteData} {text : CString}
    (loaded : J.loads text = some (object type fields)) (answer : type.isAnswer = true) :
    Fills (Short text) (callbackClientReceive J data text) fun data =>
      data.type = type ∧ data.data = text := by
  unfold callbackClientReceive
  simp only [loaded, metadataType_object, ok_bind, answer, if_true]
  exact strcpy_fits.then fun copy same => ⟨rfl, same⟩

theorem status_forwarded (lossless : J.Lossless) (found : findSession db sessionId = some row)
    (id : J.accepts sessionId = true)
    (holds : ∀ file ∈ clientNames.map fun name => entry "client_checksum" name (client name),
      J.Holds file) :
    Fills (row.Fits J ∧ Short (J.dumps (repoBody sessionId row.repoName)))
      (callbackSdpReceive J db wsi
        { dataStr := J.dumps (filesBody .syStatus sessionId
            (clientNames.map fun name => entry "client_checksum" name (client name)))
          oid }) fun served => ∃ m, served.sent = some m ∧
        m.targetWsi = ofInt32 row.fileserverWsi ∧
        m.data = J.dumps (repoBody sessionId row.repoName) ∧
        findSession served.store sessionId = some (row.asked wsi
          (.array (clientNames.map fun name => entry "client_checksum" name (client name)))) := by
  have loaded : J.loads (J.dumps (filesBody .syStatus sessionId _)) = _ :=
    lossless _ (holds_filesBody id holds)
  rw [sdpReceive_syStatus loaded]
  have listed := documentArray_entries db.mongo (by decide : "client_checksum" ≠ "filename")
    clientNames client
  refine ReturnsIff.weaken (onSyStatus_fits found rfl listed) ?_
  rintro served ⟨m, sent, rfl, found⟩
  exact ⟨_, sent, rfl, rfl, found⟩

theorem status_replied (lossless : J.Lossless) {entries : List CString} {directory : Bytes}
    (id : J.accepts sessionId = true) (name : J.accepts repoName = true)
    (text : input.dataStr = J.dumps (repoBody sessionId repoName))
    (path : directory = warehousePath.val ++ repoName.val ++ slash.val)
    (listing : input.readdir (warehousePath.val ++ repoName.val) = some entries)
    (accepted : ∀ name ∈ realNames entries,
      J.accepts name = true ∧ J.accepts (input.genMd5 (directory ++ name.val)) = true)
    (listed : ((realNames entries).map fun name =>
      entry "fs_checksum" name (input.genMd5 (directory ++ name.val))) = files) :
    Fills ((warehousePath.val ++ repoName.val).length < filePathSize ∧
        (∀ name ∈ realNames entries, (directory ++ name.val).length < filePathSize) ∧
        Short (J.dumps (filesBody .fsStatusOk sessionId files)))
      (callbackFileserverReceive J store wsi input) fun served => ∃ m, served.sent = some m ∧
        m.targetWsi = wsi ∧ m.data = J.dumps (filesBody .fsStatusOk sessionId files) ∧
        served.store = store := by
  have loaded := lossless _ (holds_repoBody id name)
  rw [← text] at loaded
  rw [fsReceive_syStatus loaded, ← listed]
  refine ReturnsIff.weaken (fileserverSyStatus_fits rfl rfl path listing accepted) ?_
  rintro served ⟨m, sent, rfl, same⟩
  exact ⟨_, sent, rfl, rfl, same⟩

theorem status_returned (lossless : J.Lossless) (found : findSession db sessionId = some row)
    (id : J.accepts sessionId = true)
    (files : row.files =
      .array (clientNames.map fun name => entry "client_checksum" name (client name)))
    (clientHolds : ∀ file ∈ clientNames.map fun name => entry "client_checksum" name (client name),
      J.Holds file)
    (fsHolds : ∀ file ∈ fsNames.map fun name => entry "fs_checksum" name (fs name), J.Holds file)
    (fsDistinct : fsNames.Nodup) (clientDistinct : clientNames.Nodup)
    (fsLacks : ∀ name, name ∉ fsNames → fs name = CString.empty)
    (clientLacks : ∀ name, name ∉ clientNames → client name = CString.empty) :
    Fills (row.Fits J ∧ Short (J.dumps (filesBody .syStatusOk sessionId
        (diffOf client fs fsNames clientNames))))
      (callbackSdpReceive J db wsi
        { dataStr := J.dumps (filesBody .fsStatusOk sessionId
            (fsNames.map fun name => entry "fs_checksum" name (fs name)))
          oid }) fun served => ∃ m, served.sent = some m ∧ m.targetWsi = ofInt32 row.clientWsi ∧
        m.data = J.dumps (filesBody .syStatusOk sessionId (diffOf client fs fsNames clientNames)) ∧
        ∃ files, findSession served.store sessionId =
          some { row with files, diff := .array (diffOf client fs fsNames clientNames) } := by
  have stored : J.loads (J.dumps row.files) = some row.files :=
    lossless _ (files ▸ .array clientHolds)
  have loaded : J.loads (J.dumps (filesBody .fsStatusOk sessionId _)) = _ :=
    lossless _ (holds_filesBody id fsHolds)
  rw [sdpReceive_fsStatusOk loaded]
  refine ReturnsIff.weaken (onFsStatusOk_fits found rfl (stored.trans (congrArg some files)) rfl
    (entries_report (by decide) _ _) (entries_report (by decide) _ _) fsDistinct clientDistinct
    fsLacks clientLacks) ?_
  rintro served ⟨m, sent, rfl, found⟩
  exact ⟨_, sent, rfl, rfl, found⟩

def requestType : Direction → MetadataType
  | .upload => .syUpload
  | .download => .syDownload

def readyType : Direction → MetadataType
  | .upload => .fsUploadReady
  | .download => .fsDownloadReady

def offerBody (d : Direction) (sessionId clientSdp clientCandidates : CString) : Json :=
  object (requestType d) [("session_id", .string sessionId), ("client_SDP", .string clientSdp),
    ("client_candidates", .string clientCandidates)]

def forwardBody (d : Direction) (sessionId repoName clientSdp clientCandidates : CString)
    (rows : List Json) : Json :=
  object (requestType d)
    ([("session_id", .string sessionId), ("repo_name", .string repoName),
      ("client_SDP", .string clientSdp), ("client_candidates", .string clientCandidates)] ++
      d.sender [] [("diff", .array rows)])

def readyBody (d : Direction) (sessionId fsSdp localCandidates : CString) : Json :=
  object (readyType d) [("session_id", .string sessionId), ("fs_SDP", .string fsSdp),
    ("fs_candidates", .string localCandidates)]

variable {d : Direction} {clientSdp clientCandidates fsSdp localCandidates text : CString}
  {rows : List Json} {diff : List DiffInfo}

theorem holds_offerBody (id : J.accepts sessionId = true) (sdp : J.accepts clientSdp = true)
    (candidates : J.accepts clientCandidates = true) :
    J.Holds (offerBody d sessionId clientSdp clientCandidates) := by
  simp [offerBody, object, holds_code, id, sdp, candidates]

theorem holds_forwardBody (id : J.accepts sessionId = true) (name : J.accepts repoName = true)
    (sdp : J.accepts clientSdp = true) (candidates : J.accepts clientCandidates = true)
    (each : ∀ row ∈ rows, J.Holds row) :
    J.Holds (forwardBody d sessionId repoName clientSdp clientCandidates rows) := by
  cases d
  · simp [forwardBody, object, holds_code, id, name, sdp, candidates, Direction.sender]
  · simpa [forwardBody, object, holds_code, id, name, sdp, candidates, Direction.sender] using each

theorem holds_readyBody (id : J.accepts sessionId = true) (sdp : J.accepts fsSdp = true)
    (candidates : J.accepts localCandidates = true) :
    J.Holds (readyBody d sessionId fsSdp localCandidates) := by
  simp [readyBody, object, holds_code, id, sdp, candidates]

def sentDiff (J : Jansson) (d : Direction) (session : SessionInfo) : List (String × Json) :=
  d.sender [] ((J.loads session.diff).map fun diff => ("diff", diff)).toList

theorem sdpReceive_transfer (loaded : J.loads text = some (object (requestType d) fields)) :
    callbackSdpReceive J db wsi { dataStr := text, oid } =
      onTransfer J (requestType d) (sentDiff J d) db wsi (object (requestType d) fields) := by
  cases d <;> simp only [callbackSdpReceive, loaded, metadataType_object, ok_bind, requestType] <;>
    rfl

theorem sdpReceive_ready (loaded : J.loads text = some (object (readyType d) fields)) :
    callbackSdpReceive J db wsi { dataStr := text, oid } =
      onReady J (readyType d) db text (object (readyType d) fields) := by
  cases d <;> simp only [callbackSdpReceive, loaded, metadataType_object, ok_bind, readyType] <;>
    rfl

theorem fsReceive_transfer (loaded : J.loads input.dataStr = some (object (requestType d) fields)) :
    callbackFileserverReceive J store wsi input =
      fileserverTransfer J (readyType d) d
        (d.sender (.ok []) (readDiff ((object (requestType d) fields).get "diff")))
        store wsi input (object (requestType d) fields) := by
  cases d <;>
    simp only [callbackFileserverReceive, loaded, metadataType_object, ok_bind, requestType] <;> rfl

theorem transfer_forwarded (lossless : J.Lossless) (found : findSession db sessionId = some row)
    (id : J.accepts sessionId = true) (sdp : J.accepts clientSdp = true)
    (candidates : J.accepts clientCandidates = true) (kept : row.diff = .array rows)
    (each : ∀ row ∈ rows, J.Holds row) :
    Fills (row.Fits J ∧
        Short (J.dumps (forwardBody d sessionId row.repoName clientSdp clientCandidates rows)))
      (callbackSdpReceive J db wsi
        { dataStr := J.dumps (offerBody d sessionId clientSdp clientCandidates), oid }) fun served =>
        ∃ m, served.sent = some m ∧ m.targetWsi = ofInt32 row.fileserverWsi ∧
          m.data = J.dumps
            (forwardBody d sessionId row.repoName clientSdp clientCandidates rows) ∧
          findSession served.store sessionId = some { row with clientWsi := toInt32 wsi } := by
  have loaded : J.loads (J.dumps (offerBody d sessionId clientSdp clientCandidates)) = _ :=
    lossless _ (holds_offerBody id sdp candidates)
  have stored : J.loads (row.info J).diff = some (.array rows) :=
    (lossless row.diff (kept ▸ .array each)).trans (congrArg some kept)
  have same : transferBody (requestType d) sessionId row.repoName clientSdp clientCandidates
      (sentDiff J d (row.info J)) =
        forwardBody d sessionId row.repoName clientSdp clientCandidates rows := by
    rw [sentDiff, stored]
    rfl
  rw [sdpReceive_transfer loaded, ← same]
  refine ReturnsIff.weaken (onTransfer_fits (sentDiff J d) found rfl rfl rfl) ?_
  rintro served ⟨m, sent, rfl, found⟩
  exact ⟨_, sent, rfl, rfl, found⟩

theorem transfer_replied (lossless : J.Lossless) (id : J.accepts sessionId = true)
    (name : J.accepts repoName = true) (sdp : J.accepts clientSdp = true)
    (candidates : J.accepts clientCandidates = true) (each : ∀ row ∈ rows, J.Holds row)
    (data : input.dataStr =
      J.dumps (forwardBody d sessionId repoName clientSdp clientCandidates rows))
    (ownSdp : input.fsSdp = fsSdp) (own : input.localCandidates = localCandidates)
    (sdpFits : J.accepts fsSdp = true) (candidatesFit : J.accepts localCandidates = true)
    {readable : Prop} (read : Fills readable (readDiff (some (.array rows))) (· = diff)) :
    Fills (d.sender True readable ∧
        Short (J.dumps (readyBody d sessionId fsSdp localCandidates)) ∧
        (warehousePath.val ++ repoName.val ++ slash.val).length < localPathSize)
      (callbackFileserverReceive J store wsi input) fun served => ∃ m, served.sent = some m ∧
        m.targetWsi = wsi ∧
        m.data = J.dumps (readyBody d sessionId fsSdp localCandidates) ∧
        served.store.transfers = store.transfers ++ [
          { direction := d
            localRepoPath := warehousePath.val ++ repoName.val ++ slash.val
            sySessionDiff := d.sender [] diff }] := by
  subst ownSdp own
  have loaded := lossless _ (holds_forwardBody (d := d) id name sdp candidates each)
  rw [← data] at loaded
  rw [fsReceive_transfer loaded]
  have read : Fills (d.sender True readable) (d.sender (.ok []) (readDiff ((forwardBody d sessionId
      repoName clientSdp clientCandidates rows).get "diff"))) (· = d.sender [] diff) := by
    cases d
    · exact .of_ok rfl rfl
    · exact read
  refine ReturnsIff.weaken (fileserverTransfer_fits rfl rfl rfl rfl sdpFits candidatesFit read) ?_
  rintro served ⟨m, sent, rfl, same⟩
  exact ⟨_, sent, rfl, rfl, same⟩

theorem transfer_returned (lossless : J.Lossless) (found : findSession db sessionId = some row)
    (id : J.accepts sessionId = true) (sdp : J.accepts fsSdp = true)
    (candidates : J.accepts localCandidates = true) :
    Fills (row.Fits J ∧ Short (J.dumps (readyBody d sessionId fsSdp localCandidates)))
      (callbackSdpReceive J db wsi
        { dataStr := J.dumps (readyBody d sessionId fsSdp localCandidates), oid }) fun served =>
        ∃ m, served.sent = some m ∧ m.targetWsi = ofInt32 row.clientWsi ∧
          m.data = J.dumps (readyBody d sessionId fsSdp localCandidates) ∧ served.store = db := by
  have loaded : J.loads (J.dumps (readyBody d sessionId fsSdp localCandidates)) = _ :=
    lossless _ (holds_readyBody id sdp candidates)
  rw [sdpReceive_ready loaded]
  refine ReturnsIff.weaken (onReady_fits found rfl) ?_
  rintro served ⟨m, sent, rfl, same⟩
  exact ⟨_, sent, rfl, rfl, same⟩

end Librtcdc.Metadata
