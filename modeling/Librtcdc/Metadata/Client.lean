import Librtcdc.Metadata.FileServer

set_option autoImplicit false

namespace Librtcdc.Metadata

open Systems Sync

-- sy.c

def localRepoPath : CString := CString.literal "/home/uniray/local_repo/"

-- What the calls below read of `struct sy_session_t`.
structure SySession where
  sessionId : CString
  localRepoPath : CString

def callbackClientWriteable (data : WriteData) : Option WriteData :=
  match data.type with
  | .syInit | .syConnect | .syStatus | .syUpload | .syDownload | .syCleanup => some data
  | _ => none

def MetadataType.isAnswer : MetadataType → Bool
  | .syInitOk | .syConnectOk | .syStatusOk | .fsUploadReady | .fsDownloadReady | .syCleanupOk => true
  | _ => false

variable (J : Jansson)

def callbackClientReceive (data : WriteData) (sessionSData : CString) : Except Fault WriteData :=
  match J.loads sessionSData with
  | none => .error .uninitialised
  | some recvd => do
      match ← metadataType recvd with
      | some type =>
          if type.isAnswer then
            let text ← strcpy writeDataSize sessionSData
            return { targetWsi := Wsi.null, type, data := text }
          else
            return data
      | none => return data

-- What sy_status sends; it opens the directory of the session and reads the files of its own.
def syStatusRequest (wsi : Wsi) (sySession : SySession) (genMd5 : Bytes → CString)
    (readdir : Bytes → Option (List CString)) : Except Fault Message := do
  let files ← listFiles J "client_checksum" localRepoPath.val genMd5
    (readdir sySession.localRepoPath.val)
  compose J wsi .syStatus
    (object .syStatus [("session_id", .string sySession.sessionId), ("files", .array files)])

-- What sy_upload and sy_download send.
def syTransferRequest (type : MetadataType) (wsi : Wsi) (sySession : SySession)
    (clientSdp localCandidates : CString) : Except Fault Message :=
  compose J wsi type
    (object type ([("session_id", .string sySession.sessionId)] ++
      textField J "client_SDP" clientSdp ++ textField J "client_candidates" localCandidates))

def syUploadRequest : Wsi → SySession → CString → CString → Except Fault Message :=
  syTransferRequest J .syUpload

def syDownloadRequest : Wsi → SySession → CString → CString → Except Fault Message :=
  syTransferRequest J .syDownload

-- What sy_status makes of the answer; `json_object_get` of NULL is NULL.
def syStatusDiff (answer : CString) : Except Fault (List DiffInfo) :=
  readDiff ((J.loads answer).bind fun recvd => recvd.get "files")

end Librtcdc.Metadata
