import Librtcdc.Metadata.Loop
import Librtcdc.Metadata.Store
import Librtcdc.Sync.Packet

set_option autoImplicit false

namespace Librtcdc.Metadata

open Systems Sync

-- metadata_server.c

abbrev Oid := { text : CString // text.val.length = 24 }

def fileserverDns : CString := CString.literal "toppano://server1.tw"

-- The checksum goes to the first entry with the name; `none` when no entry has it.
def insertChecksum (pivotKey bKey : String) (filename bChecksum : CString) :
    List Json → Except Fault (Option (List Json))
  | [] => .ok none
  | element :: rest => do
      let name ← deref (element.text pivotKey)
      if name = filename then
        return some (element.set bKey (.string bChecksum) :: rest)
      else
        let later ← insertChecksum pivotKey bKey filename bChecksum rest
        return later.map fun rest => element :: rest

-- The loop over the second array; `vars` are its variables `filename` and `B_checksum`.
def joinInto (pivotKey aKey bKey : String) :
    List (Option Json) → List Json → List Json → Except Fault (List Json)
  | _, joined, [] => .ok joined
  | vars, joined, element :: rest =>
      let vars := element.unpack [(pivotKey, .s), (bKey, .s)] vars
      match vars with
      | [some (.string filename), some (.string bChecksum)] => do
          match ← insertChecksum pivotKey bKey filename bChecksum joined with
          | some joined => joinInto pivotKey aKey bKey vars joined rest
          | none =>
              let added := element.set aKey (.string CString.empty)
              joinInto pivotKey aKey bKey vars (joined ++ [added]) rest
      | _ => .error .uninitialised

def joinChecksumArrays (pivotKey : String) (a : Option Json) (aKey : String) (b : Option Json)
    (bKey : String) : Except Fault (List Json) :=
  let joined := (Json.elements a).map fun element => element.set bKey (.string CString.empty)
  joinInto pivotKey aKey bKey [none, none] joined (Json.elements b)

def fileStatus (clientChecksum fsChecksum : CString) : FileStatus :=
  if clientChecksum = fsChecksum then .fileClean
  else if clientChecksum = CString.empty then .fileClientLack
  else if fsChecksum = CString.empty then .fileFsLack
  else .fileDirty

-- `json_string(NULL)` is NULL, and a NULL value sets no key.
def diffElement (element : Json) : Except Fault Json := do
  let clientChecksum ← deref (element.text "client_checksum")
  let fsChecksum ← deref (element.text "fs_checksum")
  let dirty := ("dirty", Json.integer (fileStatus clientChecksum fsChecksum).code)
  match element.text "filename" with
  | some filename => return .object [("filename", .string filename), dirty]
  | none => return .object [dirty]

variable (J : Jansson)

def Served.silent (db : Db) : Served Db where
  store := db
  notes := []
  sent := none

def onFsRegister (db : Db) (wsi : Wsi) : Except Fault (Served Db) := do
  let db := insertFileserver db fileserverDns wsi
  let m ← compose J wsi .fsRegisterOk
    (object .fsRegisterOk [("fileserver_dns", .string fileserverDns)])
  return { store := db, notes := [], sent := some m }

def onSyInit (db : Db) (wsi : Wsi) (oid : Oid) (recvd : Json) : Except Fault (Served Db) := do
  let fileserverWsi := getWsi db fileserverDns
  if fileserverWsi = Wsi.null then
    return Served.silent db
  else
    let repoName ← unpackText recvd "repo_name"
    let db := insertSession db oid.val fileserverWsi wsi repoName .syInit
    let m ← compose J fileserverWsi .syInit
      (object .syInit [("repo_name", .string repoName), ("session_id", .string oid.val)])
    return { store := db, notes := [.issued oid.val wsi, .bound oid.val fileserverWsi]
             sent := some m }

def onFsInitOk (db : Db) (oid : Oid) (recvd : Json) : Except Fault (Served Db) := do
  let sessionId ← unpackText recvd "session_id"
  let session ← deref (← getSession J db sessionId)
  let db := insertFilesys db oid.val session.repoName session.fileserverWsi
  let db ← updateSession db sessionId (.state .syInitOk)
  let m ← compose J session.clientWsi .syInitOk
    (object .syInitOk [("URI_code", .string oid.val), ("session_id", .string sessionId)])
  return { store := db, notes := [], sent := some m }

def onSyConnect (db : Db) (wsi : Wsi) (oid : Oid) (recvd : Json) : Except Fault (Served Db) := do
  let uriCode ← unpackText recvd "URI_code"
  match ← getUri db uriCode with
  | none => return Served.silent db
  | some uri =>
      let db := insertSession db oid.val uri.fileserverWsi wsi uri.repoName .syConnect
      let m ← compose J wsi .syConnectOk
        (object .syConnectOk [("session_id", .string oid.val)])
      return { store := db, notes := [.issued oid.val wsi, .bound oid.val uri.fileserverWsi]
               sent := some m }

def onSyStatus (db : Db) (wsi : Wsi) (recvd : Json) : Except Fault (Served Db) := do
  let sessionId ← unpackText recvd "session_id"
  let session ← deref (← getSession J db sessionId)
  let db ← updateSession db sessionId (.state .syStatus)
  let db ← updateSession db sessionId (.clientChecksum (recvd.get "files"))
  let db ← updateSession db sessionId (.clientWsi wsi)
  let m ← compose J session.fileserverWsi .syStatus
    (object .syStatus
      [("session_id", .string sessionId), ("repo_name", .string session.repoName)])
  return { store := db, notes := [.issued sessionId wsi], sent := some m }

def onFsStatusOk (db : Db) (recvd : Json) : Except Fault (Served Db) := do
  let sessionId ← unpackText recvd "session_id"
  let session ← deref (← getSession J db sessionId)
  let joined ← joinChecksumArrays "filename" (recvd.get "files") "fs_checksum"
    (J.loads session.files) "client_checksum"
  let db ← updateSession db sessionId (.files (some (.array joined)))
  let diff ← joined.mapM diffElement
  let db ← updateSession db sessionId (.diff (some (.array diff)))
  let m ← compose J session.clientWsi .syStatusOk
    (object .syStatusOk [("session_id", .string sessionId), ("files", .array diff)])
  return { store := db, notes := [], sent := some m }

-- SY_UPLOAD and SY_DOWNLOAD; only the second sends more about the session.
def onTransfer (type : MetadataType) (more : SessionInfo → List (String × Json)) (db : Db)
    (wsi : Wsi) (recvd : Json) : Except Fault (Served Db) := do
  let sessionId ← unpackText recvd "session_id"
  let clientSdp ← unpackText recvd "client_SDP"
  let clientCandidates ← unpackText recvd "client_candidates"
  let session ← deref (← getSession J db sessionId)
  let db ← updateSession db sessionId (.clientWsi wsi)
  let m ← compose J session.fileserverWsi type
    (object type
      ([("session_id", .string sessionId), ("repo_name", .string session.repoName),
        ("client_SDP", .string clientSdp), ("client_candidates", .string clientCandidates)] ++
        more session))
  return { store := db, notes := [.issued sessionId wsi], sent := some m }

def onSyUpload : Db → Wsi → Json → Except Fault (Served Db) :=
  onTransfer J .syUpload fun _ => []

def onSyDownload : Db → Wsi → Json → Except Fault (Served Db) :=
  onTransfer J .syDownload fun session =>
    ((J.loads session.diff).map fun diff => ("diff", diff)).toList

-- FS_UPLOAD_READY and FS_DOWNLOAD_READY pass the received text on.
def onReady (type : MetadataType) (db : Db) (recvdDataStr : CString) (recvd : Json) :
    Except Fault (Served Db) := do
  let sessionId ← unpackText recvd "session_id"
  let session ← deref (← getSession J db sessionId)
  let m ← forward session.clientWsi type recvdDataStr recvd
  return { store := db, notes := [], sent := some m }

def onFsUploadReady : Db → CString → Json → Except Fault (Served Db) :=
  onReady J .fsUploadReady

def onFsDownloadReady : Db → CString → Json → Except Fault (Served Db) :=
  onReady J .fsDownloadReady

def onSyCleanup (db : Db) (wsi : Wsi) (recvd : Json) : Except Fault (Served Db) := do
  let sessionId ← unpackText recvd "session_id"
  let db := deleteSession db sessionId
  let m ← compose J wsi .syCleanupOk (object .syCleanupOk [])
  return { store := db, notes := [], sent := some m }

-- A received text and the object id that is generated while it is handled.
structure Received where
  dataStr : CString
  oid : Oid

def callbackSdpReceive (db : Db) (wsi : Wsi) (input : Received) : Except Fault (Served Db) :=
  match J.loads input.dataStr with
  | none => .error .uninitialised
  | some recvd => do
      match ← metadataType recvd with
      | some .fsRegister => onFsRegister J db wsi
      | some .syInit => onSyInit J db wsi input.oid recvd
      | some .fsInitOk => onFsInitOk J db input.oid recvd
      | some .syConnect => onSyConnect J db wsi input.oid recvd
      | some .syStatus => onSyStatus J db wsi recvd
      | some .fsStatusOk => onFsStatusOk J db recvd
      | some .syUpload => onSyUpload J db wsi recvd
      | some .fsUploadReady => onFsUploadReady J db input.dataStr recvd
      | some .syDownload => onSyDownload J db wsi recvd
      | some .fsDownloadReady => onFsDownloadReady J db input.dataStr recvd
      | some .syCleanup => onSyCleanup J db wsi recvd
      | _ => return Served.silent db

-- LWS_CALLBACK_SERVER_WRITEABLE; the memset clears as many bytes as a pointer has.
def callbackSdpWriteable (data : WriteData) : Option WriteData × WriteData :=
  (if data.data = CString.empty then none else some data, { data with targetWsi := Wsi.null })

end Librtcdc.Metadata
