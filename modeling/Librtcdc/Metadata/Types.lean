import Librtcdc.Shared.Json
import Librtcdc.Shared.Trace

set_option autoImplicit false

namespace Librtcdc.Metadata

open Systems

-- common.h

def writeDataSize : Nat := 2048
def repoNameSize : Nat := 32
def idSize : Nat := 32

inductive MetadataType where
  | fsRegister | fsRegisterOk | fsRepoExist | fsInitOk | fsRepoNotExist | fsConnectOk | fsStatusOk
  | fsUploadReady | fsDownloadReady
  | syInit | syRepoExist | syInitOk | syOauth | syOauthOk | syOauthFail | syConnect
  | syRepoNotExist | syConnectOk | syStatus | syStatusOk | syUpload | syUploadOk | syDownload
  | syDownloadOk | syCleanup | syCleanupOk | sySessionNotExist
  deriving DecidableEq, Repr

-- The constructors stand in the order of the enumeration.
def MetadataType.code (type : MetadataType) : Int :=
  type.ctorIdx

def MetadataType.all : List MetadataType :=
  [.fsRegister, .fsRegisterOk, .fsRepoExist, .fsInitOk, .fsRepoNotExist, .fsConnectOk,
    .fsStatusOk, .fsUploadReady, .fsDownloadReady, .syInit, .syRepoExist, .syInitOk, .syOauth,
    .syOauthOk, .syOauthFail, .syConnect, .syRepoNotExist, .syConnectOk, .syStatus, .syStatusOk,
    .syUpload, .syUploadOk, .syDownload, .syDownloadOk, .syCleanup, .syCleanupOk,
    .sySessionNotExist]

def MetadataType.ofCode (n : Int) : Option MetadataType :=
  all.find? fun type => type.code = n

@[simp] theorem MetadataType.ofCode_code (type : MetadataType) : ofCode type.code = some type := by
  cases type <;> rfl

-- What stops a handler is undefined behaviour of the C code; a call can also wait without end.
inductive Fault where
  | uninitialised
  | nullPointer
  | overflow
  | noAnswer
  -- what has been freed, or is in a frame that has been left, is used
  | freed
  | deadFrame
  | noReturn
  | noThread
  deriving DecidableEq, Repr

-- A connection, as the address of its `struct libwebsocket`.
abbrev Wsi := BitVec 64

def Wsi.null : Wsi := 0

-- sy_lwst.h: `struct lwst_writedata_t`.
structure WriteData where
  targetWsi : Wsi
  type : MetadataType
  data : CString
  deriving DecidableEq

def WriteData.zero : WriteData where
  targetWsi := Wsi.null
  type := .fsRegister
  data := CString.empty

-- A received or sent object, its `metadata_type` first.
def object (type : MetadataType) (fields : List (String × Json)) : Json :=
  .object (("metadata_type", .integer type.code) :: fields)

structure Message where
  writeData : WriteData
  body : Json

abbrev Message.targetWsi (m : Message) : Wsi := m.writeData.targetWsi
abbrev Message.type (m : Message) : MetadataType := m.writeData.type
abbrev Message.data (m : Message) : CString := m.writeData.data

def Message.sessionId (m : Message) : Option CString :=
  m.body.text "session_id"

def metadataType (json : Json) : Except Fault (Option MetadataType) :=
  match (json.get "metadata_type").bind (Json.unpackAs .i) with
  | some (.integer n) => .ok (MetadataType.ofCode n)
  | _ => .error .uninitialised

-- A `json_unpack` of one string into a fresh variable that is then used.
def unpackText (json : Json) (key : String) : Except Fault CString :=
  match json.text key with
  | some text => .ok text
  | none => .error .uninitialised

def strcpy (size : Nat) (text : CString) : Except Fault CString :=
  if text.val.length < size then .ok text else .error .overflow

def compose (J : Jansson) (targetWsi : Wsi) (type : MetadataType) (body : Json) :
    Except Fault Message := do
  let data ← strcpy writeDataSize (J.dumps body)
  return { writeData := { targetWsi, type, data }, body }

-- The received text goes on as it is.
def forward (targetWsi : Wsi) (type : MetadataType) (recvdDataStr : CString) (recvd : Json) :
    Except Fault Message := do
  let data ← strcpy writeDataSize recvdDataStr
  return { writeData := { targetWsi, type, data }, body := recvd }

def Message.Carries (J : Jansson) (m : Message) : Prop :=
  m.data = J.dumps m.body ∨ J.loads m.data = some m.body

theorem bind_ok {α β : Type} {x : Except Fault α} {f : α → Except Fault β} {b : β} :
    x >>= f = .ok b ↔ ∃ a, x = .ok a ∧ f a = .ok b := by
  cases x <;> simp [bind, Except.bind]

@[simp] theorem ok_bind {α β : Type} (a : α) (f : α → Except Fault β) :
    (Except.ok a >>= f) = f a := rfl

theorem return_ok {α : Type} {a b : α} : (pure a : Except Fault α) = .ok b ↔ a = b :=
  Except.ok.injEq a b |>.to_iff

theorem strcpy_ok {size : Nat} {text copy : CString} :
    strcpy size text = .ok copy ↔ text.val.length < size ∧ copy = text := by
  unfold strcpy
  split_ifs with fits <;> simp [fits, eq_comm]

theorem unpackText_ok {json : Json} {key : String} {text : CString} :
    unpackText json key = .ok text ↔ json.text key = some text := by
  unfold unpackText
  split <;> simp_all

variable {J : Jansson} {targetWsi : Wsi} {type : MetadataType} {body : Json} {m : Message}

theorem strcpy_then {size : Nat} {text : CString} {build : CString → Message} :
    (do let data ← strcpy size text; return build data : Except Fault Message) = .ok m ↔
      text.val.length < size ∧ m = build text := by
  simp only [bind_ok, strcpy_ok]
  constructor
  · rintro ⟨_, ⟨fits, rfl⟩, same⟩
    exact ⟨fits, (Except.ok.inj same).symm⟩
  · rintro ⟨fits, rfl⟩
    exact ⟨_, ⟨fits, rfl⟩, rfl⟩

theorem compose_ok :
    compose J targetWsi type body = .ok m ↔ (J.dumps body).val.length < writeDataSize ∧
      m = { writeData := { targetWsi, type, data := J.dumps body }, body } :=
  strcpy_then

theorem forward_ok {recvdDataStr : CString} :
    forward targetWsi type recvdDataStr body = .ok m ↔ recvdDataStr.val.length < writeDataSize ∧
      m = { writeData := { targetWsi, type, data := recvdDataStr }, body } :=
  strcpy_then

theorem Message.Carries.nonempty (carries : m.Carries J) : m.data ≠ CString.empty := by
  rintro empty
  rcases carries with dumped | loaded
  · exact J.dumps_nonempty m.body (dumped.symm.trans empty)
  · rw [empty, J.loads_empty] at loaded
    cases loaded

end Librtcdc.Metadata
