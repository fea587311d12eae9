import Librtcdc.Metadata.Loop
import Librtcdc.Metadata.Store
import Librtcdc.Sync.Packet

set_option autoImplicit false

namespace Librtcdc.Metadata

open Systems Sync

-- The code that sy_status and the file server share: a directory as a JSON array, and a JSON array
-- as a `struct sy_diff_t`.

def filePathSize : Nat := 128

-- `strcpy` and `strcat` of the parts.
def concat (size : Nat) (parts : List Bytes) : Except Fault Bytes :=
  if parts.flatten.length < size then .ok parts.flatten else .error .overflow

def dot : CString := CString.literal "."
def dotDot : CString := CString.literal ".."
def slash : CString := CString.literal "/"

-- `json_string` returns NULL for a text that it does not take, and NULL sets no key.
def textField (J : Jansson) (key : String) (text : CString) : List (String × Json) :=
  if J.accepts text then [(key, .string text)] else []

def fileEntry (J : Jansson) (checksumKey : String) (filename checksum : CString) : Json :=
  .object (textField J "filename" filename ++ textField J checksumKey checksum)

-- `directory` ends with a slash; `readdir` is `none` when opendir fails.
def listFiles (J : Jansson) (checksumKey : String) (directory : Bytes) (genMd5 : Bytes → CString)
    (readdir : Option (List CString)) : Except Fault (List Json) :=
  ((readdir.getD []).filter fun name => name ≠ dot ∧ name ≠ dotDot).mapM fun name => do
    let filePath ← concat filePathSize [directory, name.val]
    return fileEntry J checksumKey name (genMd5 filePath)

def diffInfo : List Json → Except Fault DiffInfo
  | [.string filename, .integer dirty] => do
      let filename ← strcpy fileNameSize filename
      return { filename, dirty := FileStatus.ofCode dirty }
  | _ => .error .uninitialised

-- `num` is a `uint8_t`, and only the first `num` entries are used.
def readDiff (value : Option Json) : Except Fault (List DiffInfo) := do
  let rows ← unpackEach [("filename", .s), ("dirty", .i)] [none, none] (Json.elements value)
  let entries ← rows.mapM diffInfo
  return entries.take (entries.length % 256)

-- file_server.c

def warehousePath : CString := CString.literal "/home/uniray/warehouse/"

-- What `struct sy_rtcdc_info_t` tells the data channel callbacks.
structure RtcdcInfo where
  direction : Direction
  localRepoPath : Bytes
  sySessionDiff : List DiffInfo

structure FsStore where
  transfers : List RtcdcInfo

-- A received text, and what the system calls and the rtcdc library return while it is handled.
structure FsReceived where
  dataStr : CString
  mkdirFails : Bool
  readdir : Bytes → Option (List CString)
  genMd5 : Bytes → CString
  fsSdp : CString
  localCandidates : CString

def FsStore.silent (store : FsStore) : Served FsStore where
  store := store
  notes := []
  sent := none

variable (J : Jansson)

def fileserverSyInit (store : FsStore) (wsi : Wsi) (input : FsReceived) (recvd : Json) :
    Except Fault (Served FsStore) := do
  let repoName ← unpackText recvd "repo_name"
  let sessionId ← unpackText recvd "session_id"
  let _ ← concat filePathSize [warehousePath.val, repoName.val]
  -- an existing repository is not reported yet
  let type := if input.mkdirFails then MetadataType.fsInitOk else MetadataType.fsInitOk
  let m ← compose J wsi type (object type [("session_id", .string sessionId)])
  return { store, notes := [], sent := some m }

def fileserverSyStatus (store : FsStore) (wsi : Wsi) (input : FsReceived) (recvd : Json) :
    Except Fault (Served FsStore) := do
  let repoName ← unpackText recvd "repo_name"
  let sessionId ← unpackText recvd "session_id"
  let repoPath ← concat filePathSize [warehousePath.val, repoName.val]
  let files ← listFiles J "fs_checksum" (repoPath ++ slash.val) input.genMd5
    (input.readdir repoPath)
  let m ← compose J wsi .fsStatusOk
    (object .fsStatusOk [("session_id", .string sessionId), ("files", .array files)])
  return { store, notes := [], sent := some m }

-- SY_UPLOAD and SY_DOWNLOAD; only the second reads a diff.
def fileserverTransfer (type : MetadataType) (direction : Direction)
    (sySessionDiff : Except Fault (List DiffInfo)) (store : FsStore) (wsi : Wsi)
    (input : FsReceived) (recvd : Json) : Except Fault (Served FsStore) := do
  let _ ← unpackText recvd "client_SDP"
  let _ ← unpackText recvd "client_candidates"
  let repoName ← unpackText recvd "repo_name"
  let sessionId ← unpackText recvd "session_id"
  let sySessionDiff ← sySessionDiff
  let m ← compose J wsi type
    (object type ([("session_id", .string sessionId)] ++ textField J "fs_SDP" input.fsSdp ++
      textField J "fs_candidates" input.localCandidates))
  let localRepoPath ← concat localPathSize [warehousePath.val, repoName.val, slash.val]
  return { store := { transfers := store.transfers ++ [{ direction, localRepoPath, sySessionDiff }] }
           notes := [], sent := some m }

def fileserverSyUpload (store : FsStore) (wsi : Wsi) (input : FsReceived) (recvd : Json) :
    Except Fault (Served FsStore) :=
  fileserverTransfer J .fsUploadReady .upload (.ok []) store wsi input recvd

def fileserverSyDownload (store : FsStore) (wsi : Wsi) (input : FsReceived) (recvd : Json) :
    Except Fault (Served FsStore) :=
  fileserverTransfer J .fsDownloadReady .download (readDiff (recvd.get "diff")) store wsi input recvd

def callbackFileserverReceive (store : FsStore) (wsi : Wsi) (input : FsReceived) :
    Except Fault (Served FsStore) :=
  match J.loads input.dataStr with
  | none => .error .uninitialised
  | some recvd => do
      match ← metadataType recvd with
      | some .syInit => fileserverSyInit J store wsi input recvd
      | some .syStatus => fileserverSyStatus J store wsi input recvd
      | some .syUpload => fileserverSyUpload J store wsi input recvd
      | some .syDownload => fileserverSyDownload J store wsi input recvd
      | _ => return store.silent

def callbackFileserverEstablished (store : FsStore) (wsi : Wsi) :
    Except Fault (Served FsStore) := do
  let m ← compose J wsi .fsRegister (object .fsRegister [])
  return { store, notes := [], sent := some m }

-- LWS_CALLBACK_CLIENT_WRITEABLE; the memset clears the start of a text, and so the text.
def callbackFileserverWriteable (data : WriteData) : Option WriteData × WriteData :=
  if data.data = CString.empty then (none, data)
  else (some data, { data with data := CString.empty })

variable {J} {store : FsStore} {wsi : Wsi} {input : FsReceived} {recvd : Json}
  {served : Served FsStore}

theorem fileserverSyInit_carries (handled : fileserverSyInit J store wsi input recvd = .ok served) :
    ∀ m ∈ served.sent, m.Carries J := by
  simp only [fileserverSyInit, bind_ok, return_ok] at handled
  obtain ⟨_, _, _, _, _, _, m, composed, rfl⟩ := handled
  obtain ⟨_, rfl⟩ := compose_ok.mp composed
  simp [Message.Carries]

theorem fileserverSyStatus_carries
    (handled : fileserverSyStatus J store wsi input recvd = .ok served) :
    ∀ m ∈ served.sent, m.Carries J := by
  simp only [fileserverSyStatus, bind_ok, return_ok] at handled
  obtain ⟨_, _, _, _, _, _, _, _, m, composed, rfl⟩ := handled
  obtain ⟨_, rfl⟩ := compose_ok.mp composed
  simp [Message.Carries]

theorem fileserverTransfer_carries {type : MetadataType} {direction : Direction}
    {diff : Except Fault (List DiffInfo)}
    (handled : fileserverTransfer J type direction diff store wsi input recvd = .ok served) :
    ∀ m ∈ served.sent, m.Carries J := by
  simp only [fileserverTransfer, bind_ok, return_ok] at handled
  obtain ⟨_, _, _, _, _, _, _, _, _, _, m, composed, _, _, rfl⟩ := handled
  obtain ⟨_, rfl⟩ := compose_ok.mp composed
  simp [Message.Carries]

theorem callbackFileserverReceive_carries
    (received : callbackFileserverReceive J store wsi input = .ok served) :
    ∀ m ∈ served.sent, m.Carries J := by
  unfold callbackFileserverReceive at received
  split at received
  · cases received
  · obtain ⟨_, _, handled⟩ := bind_ok.mp received
    split at handled
    · exact fileserverSyInit_carries handled
    · exact fileserverSyStatus_carries handled
    · exact fileserverTransfer_carries handled
    · exact fileserverTransfer_carries handled
    · obtain rfl := return_ok.mp handled
      simp [FsStore.silent]

theorem callbackFileserverEstablished_carries
    (established : callbackFileserverEstablished J store wsi = .ok served) :
    ∀ m ∈ served.sent, m.Carries J := by
  simp only [callbackFileserverEstablished, bind_ok, return_ok] at established
  obtain ⟨m, composed, rfl⟩ := established
  obtain ⟨_, rfl⟩ := compose_ok.mp composed
  simp [Message.Carries]

def fileServer (J : Jansson) : Service FsStore FsReceived where
  established := callbackFileserverEstablished J
  closed store _ := store
  receive := callbackFileserverReceive J
  writeable := callbackFileserverWriteable
  established_sends _ _ _ established m sent :=
    (callbackFileserverEstablished_carries established m sent).nonempty
  receive_sends _ _ _ _ received m sent :=
    (callbackFileserverReceive_carries received m sent).nonempty
  writes := by
    intro data nonempty
    simp [callbackFileserverWriteable, nonempty]

end Librtcdc.Metadata
