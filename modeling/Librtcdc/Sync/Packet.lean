import Mathlib.Logic.Function.Basic
import Librtcdc.Shared.Stdio

set_option autoImplicit false

namespace Librtcdc.Sync

open Systems

-- common.h

def fileNameSize : Nat := 32
def localPathSize : Nat := 64

inductive FileStatus where
  | fileClean | fileClientLack | fileFsLack | fileDirty
  deriving DecidableEq, Repr

-- The constructors stand in the order of the enumeration.
def FileStatus.code (status : FileStatus) : Int :=
  status.ctorIdx

-- A value outside the enumeration selects no file, as FILE_CLEAN does.
def FileStatus.ofCode (n : Int) : FileStatus :=
  ([.fileClean, .fileClientLack, .fileFsLack, .fileDirty].find? fun status => status.code = n).getD
    .fileClean

structure DiffInfo where
  filename : CString
  dirty : FileStatus
  deriving DecidableEq, Repr

-- sy_rtcdc.h

def sctpBufSize : Nat := 1208

structure SctpPacket where
  index : Int
  buf : Bytes
  bufLen : Int
  deriving DecidableEq, Repr

-- The value of an `int` after an addition.
def int32 (n : Int) : Int :=
  (n + 2147483648) % 4294967296 - 2147483648

-- `memset` to zero and then a copy of `text`.
def zeroPadded (size : Nat) (text : Bytes) : Bytes :=
  text ++ List.replicate (size - text.length) 0

def namePacket (filename : Bytes) : SctpPacket where
  index := 0
  buf := zeroPadded sctpBufSize filename
  bufLen := 0

def piecePacket (packetIndex : Int) (piece : Bytes) : SctpPacket where
  index := packetIndex
  buf := zeroPadded sctpBufSize piece
  bufLen := (cText (zeroPadded sctpBufSize piece)).length

def endPacket : SctpPacket where
  index := -1
  buf := zeroPadded sctpBufSize []
  bufLen := 0

-- The loop over `fgets`; it starts with the index of the packet sent before.
def sendPieces (packetIndex : Int) (pFile : Stream) : List SctpPacket :=
  if pFile.eof then []
  else
    match got : fgets sctpBufSize pFile with
    | none => []
    | some (piece, next) =>
        piecePacket (int32 (packetIndex + 1)) piece :: sendPieces (int32 (packetIndex + 1)) next
termination_by pFile.rest.length
decreasing_by exact fgets_shorter got

def sendFile (filename content : Bytes) : List SctpPacket :=
  namePacket filename :: sendPieces 0 (fopen content) ++ [endPacket]

-- A directory tree as the files that can be read, by path.
abbrev Files := Bytes → Option Bytes

-- `strcpy` or `strncpy` into a zeroed path buffer, and `strcat`; `none` when it overflows.
def localFilePath (localRepoPath filename : Bytes) : Option Bytes :=
  if localRepoPath.length + filename.length < localPathSize then some (localRepoPath ++ filename)
  else none

def sendDiff (selected : FileStatus → Bool) (files : Files) (localRepoPath : Bytes) :
    List DiffInfo → Option (List SctpPacket)
  | [] => some []
  | file :: rest =>
      match localFilePath localRepoPath file.filename.val with
      | none => none
      | some path =>
          let sent :=
            if selected file.dirty then
              match files path with
              | none => []
              | some content => sendFile file.filename.val content
            else []
          (sendDiff selected files localRepoPath rest).map fun later => sent ++ later

def uvClientUpload : Files → Bytes → List DiffInfo → Option (List SctpPacket) :=
  sendDiff fun dirty => dirty = .fileFsLack ∨ dirty = .fileDirty

def uvFsDownload : Files → Bytes → List DiffInfo → Option (List SctpPacket) :=
  sendDiff fun dirty => dirty = .fileClientLack ∨ dirty = .fileDirty

-- `pFILE` is the path that is open for writing.
structure Receiver where
  files : Files
  pFile : Option Bytes

def Receiver.write (r : Receiver) (path data : Bytes) : Receiver :=
  { r with files := Function.update r.files path (some data) }

-- One call of the handler, `none` when it crashes; every `fopen` for writing succeeds.
def onPacket (localRepoPath : Bytes) (r : Receiver) (packet : SctpPacket) : Option Receiver :=
  if packet.index = 0 then
    (localFilePath localRepoPath (cText packet.buf)).map fun path =>
      { r.write path [] with pFile := some path }
  else if packet.index = -1 then
    r.pFile.map fun _ => { r with pFile := none }
  else if packet.index > 0 then
    r.pFile.map fun path =>
      r.write path ((r.files path).getD [] ++ packet.buf.take packet.bufLen.toNat)
  else
    some r

def uploadFsOnMessage : Bytes → Receiver → SctpPacket → Option Receiver := onPacket

def downloadClientOnMessage : Bytes → Receiver → SctpPacket → Option Receiver := onPacket

inductive Direction where
  | upload | download
  deriving DecidableEq, Repr

def Direction.selects : Direction → FileStatus → Bool
  | .upload, dirty => dirty = .fileFsLack ∨ dirty = .fileDirty
  | .download, dirty => dirty = .fileClientLack ∨ dirty = .fileDirty

def Direction.send : Direction → Files → Bytes → List DiffInfo → Option (List SctpPacket)
  | .upload => uvClientUpload
  | .download => uvFsDownload

def Direction.onMessage : Direction → Bytes → Receiver → SctpPacket → Option Receiver
  | .upload => uploadFsOnMessage
  | .download => downloadClientOnMessage

theorem Direction.send_eq (d : Direction) : d.send = sendDiff d.selects := by
  cases d <;> rfl

theorem Direction.onMessage_eq (d : Direction) : d.onMessage = onPacket := by
  cases d <;> rfl

def deliver (d : Direction) (localRepoPath : Bytes) (r : Receiver) (packets : List SctpPacket) :
    Option Receiver :=
  packets.foldlM (d.onMessage localRepoPath) r

end Librtcdc.Sync
