import Librtcdc.Metadata.Client
import Librtcdc.Metadata.Handling
import Librtcdc.Shared.Outcome

set_option autoImplicit false

namespace Librtcdc.Metadata

open Systems Sync

-- The calls of sy.c with both servers: a request travels to the metadata server, on to the file
-- server, and the answer comes back the same way.

variable {Store Input : Type}

def serve (service : Service Store Input) (s : Loop Store) (wsi : Wsi) (input : Input) :
    Except Fault (Loop Store × Option WriteData) :=
  if s.isOpen wsi then do
    let served ← service.receive s.store wsi input
    let next := (s.commit wsi served).1
    if next.requested wsi then
      let (written, after) := service.writeable (next.writeData wsi)
      return (next.flush wsi after, written)
    else
      return (next, none)
  else
    .error .noAnswer

def accept (service : Service Store Input) (s : Loop Store) (wsi : Wsi) :
    Except Fault (Loop Store) :=
  if wsi = Wsi.null ∨ s.isOpen wsi then .error .noAnswer
  else do
    let served ← service.established s.store wsi
    return ((s.opened wsi).commit wsi served).1

def hangUp (service : Service Store Input) (s : Loop Store) (wsi : Wsi) : Loop Store :=
  s.drop wsi (service.closed s.store wsi)

-- What was written has to be for this connection, or the client gets no answer.
def textFor (wsi : Wsi) : Option WriteData → Except Fault CString
  | some data => if data.targetWsi = wsi then .ok data.data else .error .noAnswer
  | none => .error .noAnswer

structure Connection where
  server : Wsi
  own : Wsi

structure Parties where
  metadataServer : Loop Db
  fileServer : Loop FsStore
  clientFiles : Files
  fsFiles : Files

-- What the system calls and the rtcdc library return to the file server during a call.
structure FsAnswers where
  mkdirFails : Bool
  readdir : Bytes → Option (List CString)
  genMd5 : Bytes → CString
  fsSdp : CString
  localCandidates : CString

def FsAnswers.received (answers : FsAnswers) (dataStr : CString) : FsReceived where
  dataStr := dataStr
  mkdirFails := answers.mkdirFails
  readdir := answers.readdir
  genMd5 := answers.genMd5
  fsSdp := answers.fsSdp
  localCandidates := answers.localCandidates

variable (J : Jansson)

-- A call from its request to the answer that it waits for; a connection is made for it, and an id is
-- generated for each of the two texts that the metadata server receives.
def exchangeIds (fileserver client : Connection) (asked replied : Oid) (answers : FsAnswers)
    (request : Message) (answer : MetadataType) (p : Parties) :
    Except Fault (Parties × CString) := do
  let server ← accept (metadataServer J) p.metadataServer client.server
  let text ← textFor client.own (callbackClientWriteable request.writeData)
  let (server, written) ← serve (metadataServer J) server client.server
    { dataStr := text, oid := asked }
  let text ← textFor fileserver.server written
  let (fs, written) ← serve (fileServer J) p.fileServer fileserver.own (answers.received text)
  let text ← textFor fileserver.own written
  let (server, written) ← serve (metadataServer J) server fileserver.server
    { dataStr := text, oid := replied }
  let text ← textFor client.server written
  let data ← callbackClientReceive J request.writeData text
  if data.type = answer then
    return ({ p with
      metadataServer := hangUp (metadataServer J) server client.server, fileServer := fs }, data.data)
  else
    .error .noAnswer

def exchange (fileserver client : Connection) (oid : Oid) : FsAnswers → Message → MetadataType →
    Parties → Except Fault (Parties × CString) :=
  exchangeIds J fileserver client oid oid

def consult (client : Connection) (oid : Oid) (request : Message) (answer : MetadataType)
    (p : Parties) : Except Fault (Parties × CString) := do
  let server ← accept (metadataServer J) p.metadataServer client.server
  let text ← textFor client.own (callbackClientWriteable request.writeData)
  let (server, written) ← serve (metadataServer J) server client.server { dataStr := text, oid }
  let text ← textFor client.server written
  let data ← callbackClientReceive J request.writeData text
  if data.type = answer then
    return ({ p with metadataServer := hangUp (metadataServer J) server client.server }, data.data)
  else
    .error .noAnswer

-- The checksum of a file; `gen_md5` of a file that it cannot open is that of no bytes.
def genMd5 (checksum : Bytes → CString) (files : Files) (path : Bytes) : CString :=
  checksum ((files path).getD [])

structure StatusCall where
  client : Connection
  clientReaddir : Files → Bytes → List CString
  fsReaddir : Files → Bytes → List CString

structure TransferCall where
  client : Connection
  clientSdp : CString
  clientCandidates : CString
  fsSdp : CString
  fsCandidates : CString

-- What the calls meet: whether the second json_decref of a freed array does nothing, whether the
-- frames that callbacks have left still hold what they held, whether anything quits the main loop that
-- rtcdc_loop runs, and how many threads libuv has for the work that is queued.
structure Platform where
  freedTwice : Bool
  keepsFrames : Bool
  quitsLoop : Bool
  poolThreads : Nat

-- Only rtcdc_destroy_peer_connection quits the main loop, and nothing calls it.
def Platform.asBuilt (freedTwice keepsFrames : Bool) (poolThreads : Nat) : Platform where
  freedTwice := freedTwice
  keepsFrames := keepsFrames
  quitsLoop := false
  poolThreads := poolThreads

-- A queued rtcdc_loop keeps its thread until it returns.
def Platform.runs (platform : Platform) (queued : Nat) : Bool :=
  platform.quitsLoop || queued ≤ platform.poolThreads

structure Setting where
  sySession : SySession
  checksum : Bytes → CString
  fileserver : Connection
  oid : Oid
  platform : Platform

def provided (condition : Bool) (fault : Fault) : Except Fault Unit :=
  if condition then .ok () else .error fault

def syStatus (e : Setting) (call : StatusCall) (p : Parties) :
    Except Fault (Parties × List DiffInfo) := do
  let request ← syStatusRequest J call.client.own e.sySession (genMd5 e.checksum p.clientFiles)
    fun path => some (call.clientReaddir p.clientFiles path)
  let answers : FsAnswers :=
    { mkdirFails := false
      readdir := fun path => some (call.fsReaddir p.fsFiles (path ++ slash.val))
      genMd5 := genMd5 e.checksum p.fsFiles
      fsSdp := CString.empty
      localCandidates := CString.empty }
  let (p, answer) ← exchange J e.fileserver call.client e.oid answers request .syStatusOk p
  let sySessionDiff ← syStatusDiff J answer
  -- both arrays of files are decref'ed, and again with the objects that own them
  provided e.platform.freedTwice .freed
  return (p, sySessionDiff)

-- The part that sy_upload and sy_download share; what the file server tells its data channel.
def offer (e : Setting) (call : TransferCall) (answer : MetadataType) (p : Parties)
    (request : Message) : Except Fault (Parties × RtcdcInfo) := do
  let answers : FsAnswers :=
    { mkdirFails := false
      readdir := fun _ => none
      genMd5 := genMd5 e.checksum p.fsFiles
      fsSdp := call.fsSdp
      localCandidates := call.fsCandidates }
  let (p, _) ← exchange J e.fileserver call.client e.oid answers request answer p
  -- by now callback_fileserver has returned
  provided e.platform.keepsFrames .deadFrame
  provided (e.platform.runs p.fileServer.store.transfers.length) .noThread
  let rtcdcInfo ← deref p.fileServer.store.transfers.getLast?
  return (p, rtcdcInfo)

-- `none` when a path does not fit.
def inBuffer {α : Type} (value : Option α) : Except Fault α :=
  value.elim (.error .overflow) .ok

@[simp] theorem inBuffer_some {α : Type} (value : α) : inBuffer (some value) = .ok value := rfl

-- Up to rtcdc_loop, in which the data channel connects and all its messages arrive.
def syUploadUntilLoop (e : Setting) (call : TransferCall) (sySessionDiff : List DiffInfo)
    (p : Parties) : Except Fault Parties := do
  let request ← syUploadRequest J call.client.own e.sySession call.clientSdp call.clientCandidates
  let (p, rtcdcInfo) ← offer J e call .fsUploadReady p request
  let packets ← inBuffer (uvClientUpload p.clientFiles localRepoPath.val sySessionDiff)
  let r ← deref (deliver .upload rtcdcInfo.localRepoPath { files := p.fsFiles, pFile := none } packets)
  return { p with fsFiles := r.files }

-- The file server sends the diff that the session keeps.
def syDownloadUntilLoop (e : Setting) (call : TransferCall) (p : Parties) :
    Except Fault Parties := do
  let request ← syDownloadRequest J call.client.own e.sySession call.clientSdp call.clientCandidates
  let (p, rtcdcInfo) ← offer J e call .fsDownloadReady p request
  let packets ← inBuffer
    (uvFsDownload p.fsFiles rtcdcInfo.localRepoPath rtcdcInfo.sySessionDiff)
  let r ← deref
    (deliver .download localRepoPath.val { files := p.clientFiles, pFile := none } packets)
  return { p with clientFiles := r.files }

-- What rtcdc_loop does besides goes on in other threads.
def rtcdcLoop (platform : Platform) : Except Fault Unit :=
  provided platform.quitsLoop .noReturn

def syUpload (e : Setting) (call : TransferCall) (sySessionDiff : List DiffInfo) (p : Parties) :
    Except Fault Parties := do
  let p ← syUploadUntilLoop J e call sySessionDiff p
  rtcdcLoop e.platform
  return p

def syDownload (e : Setting) (call : TransferCall) (p : Parties) : Except Fault Parties := do
  let p ← syDownloadUntilLoop J e call p
  rtcdcLoop e.platform
  return p

def transferUntilLoop (d : Direction) (e : Setting) (call : TransferCall)
    (sySessionDiff : List DiffInfo) (p : Parties) : Except Fault Parties :=
  match d with
  | .upload => syUploadUntilLoop J e call sySessionDiff p
  | .download => syDownloadUntilLoop J e call p

def transfer (d : Direction) (e : Setting) (call : TransferCall) (sySessionDiff : List DiffInfo)
    (p : Parties) : Except Fault Parties :=
  match d with
  | .upload => syUpload J e call sySessionDiff p
  | .download => syDownload J e call p

structure SyncCalls where
  first : StatusCall
  transfer : TransferCall
  second : StatusCall

structure Synced where
  first : List DiffInfo
  second : List DiffInfo
  parties : Parties

def sync (d : Direction) (e : Setting) (calls : SyncCalls) (p : Parties) :
    Except Fault Synced := do
  let (p, first) ← syStatus J e calls.first p
  let p ← transfer J d e calls.transfer first p
  let (p, second) ← syStatus J e calls.second p
  return { first, second, parties := p }

-- A value with the property, unless a buffer is too small.
abbrev Yields {α : Type} (x : Except Fault α) (post : α → Prop) : Prop :=
  Returns (· = Fault.overflow) x post

-- A value with the property where all texts fit, and else the fault of a buffer too small.
abbrev Fills {α : Type} (fits : Prop) (x : Except Fault α) (post : α → Prop) : Prop :=
  ReturnsIff Fault.overflow fits x post

variable {J} {service : Service Store Input} {s next : Loop Store} {wsi : Wsi} {input : Input}
  {written : Option WriteData} {p p' : Parties} {text : CString}

theorem serve_run (served : serve service s wsi input = .ok (next, written)) :
    next.isOpen = s.isOpen ∧ ∃ rest events,
      Run (step service) s (.receive wsi input :: rest) next events ∧
        ∀ data ∈ written, .written wsi data ∈ events := by
  unfold serve at served
  split_ifs at served with there
  obtain ⟨handled, outcome, served⟩ := bind_ok.mp served
  have arrives : Run (step service) s [.receive wsi input] (s.commit wsi handled).1
      (s.commit wsi handled).2 :=
    .snoc .refl trivial (by simp [step, Requested, anyStep, there, outcome])
  dsimp only at served
  split_ifs at served with due
  · obtain ⟨rfl, rfl⟩ := Prod.mk.inj (return_ok.mp served)
    have flushed : Run (step service) s ([.receive wsi input] ++ [.writeable wsi])
        ((s.commit wsi handled).1.flush wsi
          (service.writeable ((s.commit wsi handled).1.writeData wsi)).2)
        ((s.commit wsi handled).2 ++
          writtenEvents wsi (service.writeable ((s.commit wsi handled).1.writeData wsi)).1) :=
      .snoc arrives trivial (by simp [step, Requested, anyStep, due, there])
    refine ⟨commit_isOpen, _, _, flushed, fun data there => ?_⟩
    rw [Option.mem_def] at there
    simp [there, writtenEvents]
  · obtain ⟨rfl, rfl⟩ := Prod.mk.inj (return_ok.mp served)
    exact ⟨commit_isOpen, _, _, arrives, fun data there => absurd there (Option.not_mem_none data)⟩

theorem accept_run (accepted : accept service s wsi = .ok next) :
    next.isOpen = Function.update s.isOpen wsi true ∧
      ∃ events, Run (step service) s [.established wsi] next events := by
  unfold accept at accepted
  split_ifs at accepted with refused
  obtain ⟨served, outcome, accepted⟩ := bind_ok.mp accepted
  obtain rfl := return_ok.mp accepted
  exact ⟨commit_isOpen, _, .snoc .refl trivial (by simp [step, Requested, anyStep, refused, outcome]; rfl)⟩

theorem hangUp_run (there : s.isOpen wsi = true) :
    Run (step service) s [.closed wsi] (hangUp service s wsi) [] :=
  .snoc .refl trivial (by simp [step, Requested, anyStep, there, hangUp])

theorem textFor_ok : textFor wsi written = .ok text ↔
    ∃ data, written = some data ∧ data.targetWsi = wsi ∧ data.data = text := by
  unfold textFor
  split
  · split_ifs <;> simp_all
  · simp

theorem serve_outcome (served : serve service s wsi input = .ok (next, written)) :
    ∃ outcome, service.receive s.store wsi input = .ok outcome ∧ next.store = outcome.store ∧
      ∀ m ∈ outcome.sent, written = some m.writeData := by
  unfold serve at served
  split_ifs at served
  obtain ⟨outcome, received, served⟩ := bind_ok.mp served
  refine ⟨outcome, received, ?_⟩
  dsimp only at served
  split_ifs at served with due
  · obtain ⟨rfl, rfl⟩ := Prod.mk.inj (return_ok.mp served)
    refine ⟨commit_store, fun m sends => ?_⟩
    have nonempty := service.receive_sends _ _ _ _ received m sends
    have stored : (s.commit wsi outcome).1.writeData wsi = m.writeData := by
      simp [commit_some sends]
    rw [stored]
    exact service.writes m.writeData nonempty
  · obtain ⟨rfl, rfl⟩ := Prod.mk.inj (return_ok.mp served)
    refine ⟨commit_store, fun m sends => ?_⟩
    exact absurd (by simp [commit_some sends]) due

theorem exchange_served {fileserver client : Connection} {oid : Oid} {answers : FsAnswers}
    {request : Message} {answer : MetadataType}
    (asks : callbackClientWriteable request.writeData = some request.writeData)
    (called : exchange J fileserver client oid answers request answer p = .ok (p', text)) :
    ∃ asked replied returned text₁ text₂,
      callbackSdpReceive J p.metadataServer.store client.server
          { dataStr := request.data, oid } = .ok asked ∧
        (∀ m ∈ asked.sent, m.data = text₁) ∧
        callbackFileserverReceive J p.fileServer.store fileserver.own (answers.received text₁) =
          .ok replied ∧
        (∀ m ∈ replied.sent, m.data = text₂) ∧
        callbackSdpReceive J asked.store fileserver.server { dataStr := text₂, oid } =
          .ok returned ∧
        p'.metadataServer.store = deleteFileserver returned.store client.server := by
  simp only [exchange, exchangeIds, bind_ok, Prod.exists] at called
  obtain ⟨server, accepted, _, first, server₁, _, served₁, _, second, fs, _, served₂, _, third,
    server₂, _, served₃, _, _, data, _, called⟩ := called
  split_ifs at called
  obtain ⟨rfl, rfl⟩ := Prod.mk.inj (return_ok.mp called)
  have same : server.store = p.metadataServer.store := by
    unfold accept at accepted
    split_ifs at accepted
    obtain ⟨served, outcome, accepted⟩ := bind_ok.mp accepted
    obtain rfl : Served.silent _ = served := Except.ok.inj outcome
    rw [← return_ok.mp accepted, commit_store]
    rfl
  rw [asks, textFor_ok] at first
  obtain ⟨_, equal, _, rfl⟩ := first
  obtain rfl := Option.some.inj equal
  obtain ⟨asked, received₁, store₁, sent₁⟩ := serve_outcome served₁
  obtain ⟨replied, received₂, _, sent₂⟩ := serve_outcome served₂
  obtain ⟨returned, received₃, store₃, _⟩ := serve_outcome served₃
  obtain ⟨_, written₁, _, rfl⟩ := textFor_ok.mp second
  obtain ⟨_, written₂, _, rfl⟩ := textFor_ok.mp third
  rw [same] at received₁
  rw [store₁] at received₃
  refine ⟨asked, replied, returned, _, _, received₁, fun m sends => ?_, received₂, fun m sends => ?_,
    received₃, ?_⟩
  · exact congrArg WriteData.data (Option.some.inj ((sent₁ m sends).symm.trans written₁))
  · exact congrArg WriteData.data (Option.some.inj ((sent₂ m sends).symm.trans written₂))
  · exact congrArg (deleteFileserver · client.server) store₃

structure Runs (J : Jansson) (p p' : Parties) : Prop where
  metadataServer : ∃ actions events,
    Run (step (metadataServer J)) p.metadataServer actions p'.metadataServer events
  fileServer : ∃ actions events, Run (step (fileServer J)) p.fileServer actions p'.fileServer events

theorem Runs.trans {between : Parties} (first : Runs J p between) (second : Runs J between p') :
    Runs J p p' := by
  obtain ⟨⟨_, _, server₁⟩, ⟨_, _, fs₁⟩⟩ := first
  obtain ⟨⟨_, _, server₂⟩, ⟨_, _, fs₂⟩⟩ := second
  exact ⟨⟨_, _, server₁.append server₂⟩, ⟨_, _, fs₁.append fs₂⟩⟩

theorem exchange_run {fileserver client : Connection} {oid : Oid} {answers : FsAnswers}
    {request : Message} {answer : MetadataType}
    (called : exchange J fileserver client oid answers request answer p = .ok (p', text)) :
    Runs J p p' ∧ p'.clientFiles = p.clientFiles ∧ p'.fsFiles = p.fsFiles := by
  simp only [exchange, exchangeIds, bind_ok, Prod.exists] at called
  obtain ⟨server, accepted, _, _, server₁, _, first, _, _, fs, _, handled, _, _, server₂, _, second,
    _, _, data, _, called⟩ := called
  split_ifs at called
  obtain ⟨rfl, rfl⟩ := Prod.mk.inj (return_ok.mp called)
  obtain ⟨opened, _, connects⟩ := accept_run accepted
  obtain ⟨same₁, _, _, forwards, _⟩ := serve_run first
  obtain ⟨_, _, _, replies, _⟩ := serve_run handled
  obtain ⟨same₂, _, _, returns, _⟩ := serve_run second
  have still : server₂.isOpen client.server = true := by
    rw [same₂, same₁, opened, Function.update_self]
  exact ⟨⟨⟨_, _, ((connects.append forwards).append returns).append (hangUp_run still)⟩,
    ⟨_, _, replies⟩⟩, rfl, rfl⟩

variable {e : Setting} {d : Direction} {diff : List DiffInfo}

theorem provided_ok {condition : Bool} {fault : Fault} {result : Unit} :
    provided condition fault = .ok result ↔ condition = true := by
  unfold provided
  split_ifs <;> simp_all

@[simp] theorem provided_true (fault : Fault) : provided true fault = .ok () := rfl

theorem transfer_eq {call : TransferCall} : transfer J d e call diff p = (do
    let p ← transferUntilLoop J d e call diff p
    rtcdcLoop e.platform
    return p) := by
  cases d <;> rfl

theorem transfer_quits {call : TransferCall} (quits : e.platform.quitsLoop = true) :
    transfer J d e call diff p = transferUntilLoop J d e call diff p := by
  rw [transfer_eq, rtcdcLoop, quits]
  cases transferUntilLoop J d e call diff p <;> rfl

theorem syStatus_run {call : StatusCall} (called : syStatus J e call p = .ok (p', diff)) :
    Runs J p p' ∧ e.platform.freedTwice = true := by
  simp only [syStatus, bind_ok, return_ok, provided_ok, Prod.exists, Prod.mk.injEq] at called
  obtain ⟨_, _, _, _, exchanged, _, _, _, freed, rfl, rfl⟩ := called
  exact ⟨(exchange_run exchanged).1, freed⟩

theorem offer_run {call : TransferCall} {answer : MetadataType} {request : Message}
    {rtcdcInfo : RtcdcInfo} (offered : offer J e call answer p request = .ok (p', rtcdcInfo)) :
    Runs J p p' ∧ e.platform.keepsFrames = true := by
  simp only [offer, bind_ok, return_ok, provided_ok, Prod.exists, Prod.mk.injEq] at offered
  obtain ⟨_, _, exchanged, _, kept, _, _, _, _, rfl, rfl⟩ := offered
  exact ⟨(exchange_run exchanged).1, kept⟩

theorem transferUntilLoop_run {call : TransferCall}
    (called : transferUntilLoop J d e call diff p = .ok p') :
    Runs J p p' ∧ e.platform.keepsFrames = true := by
  cases d with
  | upload =>
      simp only [transferUntilLoop, syUploadUntilLoop, bind_ok, return_ok, Prod.exists] at called
      obtain ⟨_, _, _, _, offered, _, _, _, _, rfl⟩ := called
      obtain ⟨⟨server, fs⟩, kept⟩ := offer_run offered
      exact ⟨⟨server, fs⟩, kept⟩
  | download =>
      simp only [transferUntilLoop, syDownloadUntilLoop, bind_ok, return_ok, Prod.exists] at called
      obtain ⟨_, _, _, _, offered, _, _, _, _, rfl⟩ := called
      obtain ⟨⟨server, fs⟩, kept⟩ := offer_run offered
      exact ⟨⟨server, fs⟩, kept⟩

theorem transfer_run {call : TransferCall} (called : transfer J d e call diff p = .ok p') :
    Runs J p p' ∧ e.platform.keepsFrames = true ∧ e.platform.quitsLoop = true := by
  simp only [transfer_eq, rtcdcLoop, bind_ok, return_ok, provided_ok] at called
  obtain ⟨_, moved, _, quits, rfl⟩ := called
  obtain ⟨runs, kept⟩ := transferUntilLoop_run moved
  exact ⟨runs, kept, quits⟩

structure Platform.Carries (platform : Platform) : Prop where
  freedTwice : platform.freedTwice = true
  keepsFrames : platform.keepsFrames = true

theorem sync_run {calls : SyncCalls} {result : Synced} (synced : sync J d e calls p = .ok result) :
    Runs J p result.parties ∧ e.platform.Carries ∧ e.platform.quitsLoop = true := by
  simp only [sync, bind_ok, return_ok, Prod.exists] at synced
  obtain ⟨_, _, first, _, moved, _, _, second, rfl⟩ := synced
  obtain ⟨asks, freed⟩ := syStatus_run first
  obtain ⟨moves, kept, quits⟩ := transfer_run moved
  exact ⟨(asks.trans moves).trans (syStatus_run second).1, ⟨freed, kept⟩, quits⟩

theorem serve_fits {fits : Prop} {P : Store → Message → Prop} (there : s.isOpen wsi = true)
    (handled : Fills fits (service.receive s.store wsi input) fun served =>
      ∃ m, served.sent = some m ∧ P served.store m) :
    Fills fits (serve service s wsi input) fun result =>
      result.1.isOpen = s.isOpen ∧ ∃ m, result.2 = some m.writeData ∧ P result.1.store m := by
  unfold serve
  rw [if_pos there]
  refine ReturnsIff.congr ?_ (and_iff_left trivial)
  refine handled.remember.bind fun served outcome => ?_
  obtain ⟨received, m, sends, holds⟩ := outcome
  have nonempty := service.receive_sends _ _ _ _ received m sends
  have due : (s.commit wsi served).1.requested wsi = true := by simp [commit_some sends]
  have data : (s.commit wsi served).1.writeData wsi = m.writeData := by simp [commit_some sends]
  dsimp only
  rw [if_pos due, data]
  refine .value ⟨commit_isOpen, m, service.writes _ nonempty, ?_⟩
  rwa [Loop.flush, commit_store]

theorem textFor_fits {data : WriteData} (target : data.targetWsi = wsi) :
    Fills True (textFor wsi (some data)) (· = data.data) :=
  .of_ok (textFor_ok.mpr ⟨data, rfl, target, rfl⟩) rfl

theorem accept_metadataServer {server : Loop Db} (present : wsi ≠ Wsi.null)
    (closed : server.isOpen wsi = false) :
    Fills True (accept (metadataServer J) server wsi) fun next =>
      next.store = server.store ∧ next.isOpen = Function.update server.isOpen wsi true := by
  unfold accept
  rw [if_neg (by simp [present, closed])]
  exact .value ⟨commit_store, commit_isOpen⟩

structure Connected (p : Parties) (fileserver client : Connection) : Prop where
  present : client.server ≠ Wsi.null
  fresh : p.metadataServer.isOpen client.server = false
  registered : p.metadataServer.isOpen fileserver.server = true
  running : p.fileServer.isOpen fileserver.own = true

theorem exchangeIds_fits {fileserver client : Connection} {askedId repliedId : Oid}
    {answers : FsAnswers} {request : Message} {answer : MetadataType} {fits₁ fits₂ fits₃ fits₄ : Prop}
    (forwarded : Db → Message → Prop) (replied : Db → FsStore → Message → Prop)
    (returned : Db → FsStore → Message → Prop) (connected : Connected p fileserver client)
    (asks : callbackClientWriteable request.writeData = some request.writeData)
    (own : request.targetWsi = client.own)
    (forwards : Fills fits₁ (callbackSdpReceive J p.metadataServer.store client.server
        { dataStr := request.data, oid := askedId }) fun served =>
      ∃ m, served.sent = some m ∧ m.targetWsi = fileserver.server ∧ forwarded served.store m)
    (replies : ∀ db m, forwarded db m → Fills fits₂ (callbackFileserverReceive J
        p.fileServer.store fileserver.own (answers.received m.data)) fun served =>
      ∃ m, served.sent = some m ∧ m.targetWsi = fileserver.own ∧ replied db served.store m)
    (returns : ∀ db fs m, replied db fs m → Fills fits₃ (callbackSdpReceive J db fileserver.server
        { dataStr := m.data, oid := repliedId }) fun served =>
      ∃ m, served.sent = some m ∧ m.targetWsi = client.server ∧ returned served.store fs m)
    (arrives : ∀ db fs m, returned db fs m →
      Fills fits₄ (callbackClientReceive J request.writeData m.data) fun data =>
        data.type = answer ∧ data.data = m.data) :
    Fills (fits₁ ∧ fits₂ ∧ fits₃ ∧ fits₄)
      (exchangeIds J fileserver client askedId repliedId answers request answer p) fun result =>
        result.1.metadataServer.isOpen = p.metadataServer.isOpen ∧
        result.1.fileServer.isOpen = p.fileServer.isOpen ∧
        result.1.clientFiles = p.clientFiles ∧ result.1.fsFiles = p.fsFiles ∧
        ∃ db m, returned db result.1.fileServer.store m ∧
          result.1.metadataServer.store = deleteFileserver db client.server ∧
          result.2 = m.data := by
  obtain ⟨present, fresh, registered, running⟩ := connected
  have apart : fileserver.server ≠ client.server := by
    rintro same
    rw [same, fresh] at registered
    cases registered
  have steps : True ∧ True ∧ fits₁ ∧ True ∧ fits₂ ∧ True ∧ fits₃ ∧ True ∧ fits₄ ∧ True ↔
      fits₁ ∧ fits₂ ∧ fits₃ ∧ fits₄ := by
    simp only [true_and, and_true]
  unfold exchangeIds
  refine ReturnsIff.congr ?_ steps
  refine (accept_metadataServer present fresh).bind fun server opened => ?_
  obtain ⟨sameStore, sameOpen⟩ := opened
  rw [asks]
  refine (textFor_fits own).bind fun _ request => ?_
  subst request
  have client_open : server.isOpen client.server = true := by rw [sameOpen, Function.update_self]
  rw [← sameStore] at forwards
  refine (serve_fits (P := fun store m => m.targetWsi = fileserver.server ∧ forwarded store m)
    client_open forwards).bind ?_
  rintro ⟨server₁, _⟩ ⟨same₁, m₁, rfl, target₁, about₁⟩
  refine (textFor_fits target₁).bind fun _ text => ?_
  subst text
  refine (serve_fits (P := fun store m => m.targetWsi = fileserver.own ∧ replied _ store m)
    running (replies _ _ about₁)).bind ?_
  rintro ⟨fs, _⟩ ⟨same₂, m₂, rfl, target₂, about₂⟩
  refine (textFor_fits target₂).bind fun _ text => ?_
  subst text
  have fileserver_open : server₁.isOpen fileserver.server = true := by
    rw [same₁, sameOpen, Function.update_of_ne apart, registered]
  refine (serve_fits (P := fun store m => m.targetWsi = client.server ∧ returned store fs.store m)
    fileserver_open (returns _ _ _ about₂)).bind ?_
  rintro ⟨server₂, _⟩ ⟨same₃, m₃, rfl, target₃, about₃⟩
  refine (textFor_fits target₃).bind fun _ text => ?_
  subst text
  refine (arrives _ _ _ about₃).bind fun data kept => ?_
  obtain ⟨type, text⟩ := kept
  rw [if_pos type]
  refine .value ⟨?_, same₂, rfl, rfl, _, _, about₃, rfl, text⟩
  have still : server₂.isOpen = Function.update p.metadataServer.isOpen client.server true := by
    rw [same₃, same₁, sameOpen]
  rw [hangUp, Loop.drop, still, Function.update_idem, ← fresh, Function.update_eq_self]

theorem exchange_fits {fileserver client : Connection} {oid : Oid} {answers : FsAnswers}
    {request : Message} {answer : MetadataType} {fits₁ fits₂ fits₃ fits₄ : Prop}
    (forwarded : Db → Message → Prop) (replied : Db → FsStore → Message → Prop)
    (returned : Db → FsStore → Message → Prop) (connected : Connected p fileserver client)
    (asks : callbackClientWriteable request.writeData = some request.writeData)
    (own : request.targetWsi = client.own)
    (forwards : Fills fits₁ (callbackSdpReceive J p.metadataServer.store client.server
        { dataStr := request.data, oid }) fun served =>
      ∃ m, served.sent = some m ∧ m.targetWsi = fileserver.server ∧ forwarded served.store m)
    (replies : ∀ db m, forwarded db m → Fills fits₂ (callbackFileserverReceive J
        p.fileServer.store fileserver.own (answers.received m.data)) fun served =>
      ∃ m, served.sent = some m ∧ m.targetWsi = fileserver.own ∧ replied db served.store m)
    (returns : ∀ db fs m, replied db fs m → Fills fits₃ (callbackSdpReceive J db fileserver.server
        { dataStr := m.data, oid }) fun served =>
      ∃ m, served.sent = some m ∧ m.targetWsi = client.server ∧ returned served.store fs m)
    (arrives : ∀ db fs m, returned db fs m →
      Fills fits₄ (callbackClientReceive J request.writeData m.data) fun data =>
        data.type = answer ∧ data.data = m.data) :
    Fills (fits₁ ∧ fits₂ ∧ fits₃ ∧ fits₄)
      (exchange J fileserver client oid answers request answer p) fun result =>
        result.1.metadataServer.isOpen = p.metadataServer.isOpen ∧
        result.1.fileServer.isOpen = p.fileServer.isOpen ∧
        result.1.clientFiles = p.clientFiles ∧ result.1.fsFiles = p.fsFiles ∧
        ∃ db m, returned db result.1.fileServer.store m ∧
          result.1.metadataServer.store = deleteFileserver db client.server ∧
          result.2 = m.data :=
  exchangeIds_fits forwarded replied returned connected asks own forwards replies returns arrives

theorem consult_fits {client : Connection} {oid : Oid} {request : Message} {answer : MetadataType}
    {fits₁ fits₂ : Prop} (returned : Db → Message → Prop) (present : client.server ≠ Wsi.null)
    (fresh : p.metadataServer.isOpen client.server = false)
    (asks : callbackClientWriteable request.writeData = some request.writeData)
    (own : request.targetWsi = client.own)
    (returns : Fills fits₁ (callbackSdpReceive J p.metadataServer.store client.server
        { dataStr := request.data, oid }) fun served =>
      ∃ m, served.sent = some m ∧ m.targetWsi = client.server ∧ returned served.store m)
    (arrives : ∀ db m, returned db m →
      Fills fits₂ (callbackClientReceive J request.writeData m.data) fun data =>
        data.type = answer ∧ data.data = m.data) :
    Fills (fits₁ ∧ fits₂) (consult J client oid request answer p) fun result =>
      result.1.metadataServer.isOpen = p.metadataServer.isOpen ∧
      result.1.fileServer = p.fileServer ∧
      result.1.clientFiles = p.clientFiles ∧ result.1.fsFiles = p.fsFiles ∧
      ∃ db m, returned db m ∧ result.1.metadataServer.store = deleteFileserver db client.server ∧
        result.2 = m.data := by
  have steps : True ∧ True ∧ fits₁ ∧ True ∧ fits₂ ∧ True ↔ fits₁ ∧ fits₂ := by
    simp only [true_and, and_true]
  unfold consult
  refine ReturnsIff.congr ?_ steps
  refine (accept_metadataServer present fresh).bind fun server opened => ?_
  obtain ⟨sameStore, sameOpen⟩ := opened
  rw [asks]
  refine (textFor_fits own).bind fun _ request => ?_
  subst request
  have client_open : server.isOpen client.server = true := by rw [sameOpen, Function.update_self]
  rw [← sameStore] at returns
  refine (serve_fits (P := fun store m => m.targetWsi = client.server ∧ returned store m)
    client_open returns).bind ?_
  rintro ⟨server₁, _⟩ ⟨same₁, m, rfl, target, about⟩
  refine (textFor_fits target).bind fun _ text => ?_
  subst text
  refine (arrives _ _ about).bind fun data kept => ?_
  obtain ⟨type, text⟩ := kept
  rw [if_pos type]
  refine .value ⟨?_, rfl, rfl, rfl, _, m, about, rfl, text⟩
  have still : server₁.isOpen = Function.update p.metadataServer.isOpen client.server true := by
    rw [same₁, sameOpen]
  rw [hangUp, Loop.drop, still, Function.update_idem, ← fresh, Function.update_eq_self]

end Librtcdc.Metadata
