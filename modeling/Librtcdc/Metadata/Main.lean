import Librtcdc.Metadata.Convergence
import Librtcdc.Metadata.Sessions

set_option autoImplicit false

namespace Librtcdc.Metadata

open Systems Sync

-- What the calls of a session leave of the other sessions.

variable {J : Jansson} {e : Setting} {p p' : Parties} {row : SessionRow} {d : Direction}
  {db db' between : Db} {wsi : Wsi} {oid : Oid} {sessionId repoName : CString} {recvd : Json}
  {field : SessionField} {diff : List DiffInfo} {served : Served Db} {all : List CString}

structure OnlyOwn (sessionId : CString) (db db' : Db) : Prop where
  session : removeOne SessionRow.sessionId sessionId db'.session =
    removeOne SessionRow.sessionId sessionId db.session
  filesys : db'.filesys = db.filesys

theorem OnlyOwn.trans (first : OnlyOwn sessionId db between) (second : OnlyOwn sessionId between db') :
    OnlyOwn sessionId db db' :=
  ⟨second.session.trans first.session, second.filesys.trans first.filesys⟩

theorem updateSession_own (moved : updateSession db sessionId field = .ok db') :
    OnlyOwn sessionId db db' := by
  obtain ⟨assign, assigned, rfl⟩ := updateSession_ok moved
  exact ⟨removeOne_updateOne fun row => (SessionField.assign_keeps assigned row).1, rfl⟩

theorem onSyStatus_own (named : recvd.text "session_id" = some sessionId)
    (handled : onSyStatus J db wsi recvd = .ok served) : OnlyOwn sessionId db served.store := by
  simp only [onSyStatus, bind_ok, return_ok, unpackText_ok] at handled
  obtain ⟨id, there, _, _, _, _, db₁, first, db₂, second, db₃, third, m, _, rfl⟩ := handled
  obtain rfl := Option.some.inj (named.symm.trans there)
  exact ((updateSession_own first).trans (updateSession_own second)).trans (updateSession_own third)

theorem onFsStatusOk_own (named : recvd.text "session_id" = some sessionId)
    (handled : onFsStatusOk J db recvd = .ok served) : OnlyOwn sessionId db served.store := by
  simp only [onFsStatusOk, bind_ok, return_ok, unpackText_ok] at handled
  obtain ⟨id, there, _, _, _, _, _, _, db₁, first, _, _, db₂, second, m, _, rfl⟩ := handled
  obtain rfl := Option.some.inj (named.symm.trans there)
  exact (updateSession_own first).trans (updateSession_own second)

theorem onTransfer_own {type : MetadataType} {more : SessionInfo → List (String × Json)}
    (named : recvd.text "session_id" = some sessionId)
    (handled : onTransfer J type more db wsi recvd = .ok served) :
    OnlyOwn sessionId db served.store := by
  simp only [onTransfer, bind_ok, return_ok, unpackText_ok] at handled
  obtain ⟨id, there, _, _, _, _, _, _, _, _, db₁, moved, m, _, rfl⟩ := handled
  obtain rfl := Option.some.inj (named.symm.trans there)
  exact updateSession_own moved

theorem onReady_own {type : MetadataType} {dataStr : CString}
    (handled : onReady J type db dataStr recvd = .ok served) : OnlyOwn sessionId db served.store := by
  simp only [onReady, bind_ok, return_ok, unpackText_ok] at handled
  obtain ⟨_, _, _, _, _, _, m, _, rfl⟩ := handled
  exact ⟨rfl, rfl⟩

theorem syStatus_own {call : StatusCall} {result : Parties × List DiffInfo}
    (lossless : J.Lossless) (asks : Asks J e p row call)
    (called : syStatus J e call p = .ok result) :
    OnlyOwn e.sySession.sessionId p.metadataServer.store result.1.metadataServer.store := by
  have clientHolds := asks.toTravels.client_holds
  have fsHolds := asks.toTravels.fs_holds
  obtain ⟨⟨_, _, _, session, clientLists, fsLists, clientCarried, fsCarried⟩, ready, _⟩ := asks
  rw [syStatus_eq] at called
  obtain ⟨⟨p', answer⟩, exchanged, called⟩ := bind_ok.mp called
  obtain ⟨diff, _, called⟩ := bind_ok.mp called
  obtain ⟨_, _, called⟩ := bind_ok.mp called
  obtain rfl := return_ok.mp called
  obtain ⟨request, made, exchanged⟩ := bind_ok.mp exchanged
  obtain rfl := (syStatusRequest_fits session rfl clientCarried clientLists).toReturns.ok made
  obtain ⟨asked, replied, returned, _, _, first, sent₁, second, sent₂, third, store⟩ :=
    exchange_served rfl exchanged
  obtain ⟨m₁, there₁, _, data₁, _⟩ :=
    (status_forwarded lossless ready.found ready.sessionId clientHolds).toReturns.ok first
  obtain rfl := sent₁ m₁ there₁
  obtain ⟨m₂, there₂, _, data₂, _⟩ :=
    (status_replied lossless ready.sessionId ready.repoName data₁ rfl rfl
      (carried_entries fsCarried fsLists) (listed_entries fsLists)).toReturns.ok second
  obtain rfl := sent₂ m₂ there₂
  have loaded₁ : J.loads (J.dumps (filesBody .syStatus e.sySession.sessionId
      (call.clientListing e p))) = _ :=
    lossless _ (holds_filesBody ready.sessionId clientHolds)
  have loaded₂ : J.loads m₂.data = some (filesBody .fsStatusOk e.sySession.sessionId
      (call.fsListing e p row.repoName)) := by
    rw [data₂]
    exact lossless _ (holds_filesBody ready.sessionId fsHolds)
  rw [sdpReceive_fsStatusOk loaded₂] at third
  have own := (onSyStatus_own rfl ((sdpReceive_syStatus loaded₁).symm.trans first)).trans
    (onFsStatusOk_own rfl third)
  rw [store]
  exact ⟨own.session, own.filesys⟩

theorem offer_own {call : TransferCall} {rows : List Json} {request : Message}
    {result : Parties × RtcdcInfo} (lossless : J.Lossless) (ready : Ready J e p row)
    (carried : call.Carried J) (kept : row.diff = .array rows) (each : ∀ row ∈ rows, J.Holds row)
    (read : Yields (readDiff (some (.array rows))) (· = diff))
    (asks : request = composed J call.client.own (requestType d)
      (offerBody d e.sySession.sessionId call.clientSdp call.clientCandidates))
    (called : offer J e call (readyType d) p request = .ok result) :
    OnlyOwn e.sySession.sessionId p.metadataServer.store result.1.metadataServer.store := by
  subst asks
  obtain ⟨⟨p', answer⟩, exchanged, called⟩ := bind_ok.mp called
  obtain ⟨_, _, called⟩ := bind_ok.mp called
  obtain ⟨_, _, called⟩ := bind_ok.mp called
  obtain ⟨info, _, called⟩ := bind_ok.mp called
  obtain rfl := return_ok.mp called
  obtain ⟨asked, replied, returned, _, _, first, sent₁, second, sent₂, third, store⟩ :=
    exchange_served (by cases d <;> rfl) exchanged
  have loaded₁ : J.loads (J.dumps (offerBody d e.sySession.sessionId call.clientSdp
      call.clientCandidates)) = _ :=
    lossless _ (holds_offerBody ready.sessionId carried.clientSdp carried.clientCandidates)
  have first : callbackSdpReceive J p.metadataServer.store call.client.server
      { dataStr := J.dumps (offerBody d e.sySession.sessionId call.clientSdp
          call.clientCandidates), oid := e.oid } = .ok asked := first
  obtain ⟨m₁, there₁, _, data₁, _⟩ :=
    (transfer_forwarded lossless ready.found ready.sessionId carried.clientSdp
      carried.clientCandidates kept each).toReturns.ok first
  obtain rfl := sent₁ m₁ there₁
  obtain ⟨m₂, there₂, _, data₂, _⟩ :=
    (transfer_replied lossless ready.sessionId ready.repoName carried.clientSdp
      carried.clientCandidates each data₁ rfl rfl carried.fsSdp carried.fsCandidates
      read.toReturnsIff).toReturns.ok second
  obtain rfl := sent₂ m₂ there₂
  have loaded₂ : J.loads m₂.data =
      some (readyBody d e.sySession.sessionId call.fsSdp call.fsCandidates) := by
    rw [data₂]
    exact lossless _ (holds_readyBody ready.sessionId carried.fsSdp carried.fsCandidates)
  rw [sdpReceive_ready loaded₂] at third
  have own := (onTransfer_own rfl ((sdpReceive_transfer loaded₁).symm.trans first)).trans
    (onReady_own third)
  rw [store]
  exact ⟨own.session, own.filesys⟩

theorem transfer_own {call : TransferCall} {rows : List Json} (lossless : J.Lossless)
    (ready : Ready J e p row) (carried : call.Carried J) (kept : row.diff = .array rows)
    (each : ∀ row ∈ rows, J.Holds row) (read : Yields (readDiff (some (.array rows))) (· = diff))
    (called : transferUntilLoop J d e call diff p = .ok p') :
    OnlyOwn e.sySession.sessionId p.metadataServer.store p'.metadataServer.store := by
  cases d with
  | upload =>
      obtain ⟨request, made, called⟩ := bind_ok.mp called
      obtain rfl := (syTransferRequest_yields (d := .upload) carried).ok made
      obtain ⟨result, offered, called⟩ := bind_ok.mp called
      obtain ⟨_, _, called⟩ := bind_ok.mp called
      obtain ⟨_, _, called⟩ := bind_ok.mp called
      obtain rfl := return_ok.mp called
      exact offer_own (d := .upload) lossless ready carried kept each read rfl offered
  | download =>
      obtain ⟨request, made, called⟩ := bind_ok.mp called
      obtain rfl := (syTransferRequest_yields (d := .download) carried).ok made
      obtain ⟨result, offered, called⟩ := bind_ok.mp called
      obtain ⟨_, _, called⟩ := bind_ok.mp called
      obtain ⟨_, _, called⟩ := bind_ok.mp called
      obtain rfl := return_ok.mp called
      exact offer_own (d := .download) lossless ready carried kept each read rfl offered

-- No file has the empty checksum, and among the files at hand equal checksums mean equal files.
structure Faithful (checksum : Bytes → CString) (p : Parties) (repoName : CString) : Prop where
  nonempty : ∀ name content, Held p repoName name content → checksum content ≠ CString.empty
  equal : ∀ name content other, Held p repoName name content → Held p repoName name other →
    checksum content = checksum other → content = other

theorem Undisturbed.dials {client : Connection} (undisturbed : Undisturbed p p')
    (dials : Dials p client) : Dials p' client :=
  dials.transport undisturbed.metadataServer

theorem Undisturbed.trans {next : Parties} (first : Undisturbed p p') (second : Undisturbed p' next) :
    Undisturbed p next where
  metadataServer := second.metadataServer.trans first.metadataServer
  fileServer := second.fileServer.trans first.fileServer
  fsStore := second.fsStore.trans first.fsStore
  clientFiles := second.clientFiles.trans first.clientFiles
  fsFiles := second.fsFiles.trans first.fsFiles

theorem Undisturbed.held {name : CString} {content : Bytes} (undisturbed : Undisturbed p p') :
    Held p' repoName name content ↔ Held p repoName name content := by
  rw [Held, Held, clientDirectory, clientDirectory, fsDirectory, fsDirectory,
    undisturbed.clientFiles, undisturbed.fsFiles]

theorem Regular.undisturbed (regular : Regular p repoName all) (undisturbed : Undisturbed p p') :
    Regular p' repoName all where
  text name content held := regular.text name content (undisturbed.held.mp held)
  named name content held := regular.named name content (undisturbed.held.mp held)
  short := regular.short
  fits := regular.fits
  few := regular.few

structure SessionMirrored (J : Jansson) (d : Direction) (e : Setting) (p : Parties) (repoName : CString)
    (row' : SessionRow) (p' : Parties) : Prop where
  ready : Ready J e p' row'
  sameRepo : row'.repoName = repoName
  receiver : ∀ name, d.receiver (clientDirectory p') (fsDirectory p' repoName) name =
    (d.sender (clientDirectory p) (fsDirectory p repoName) name).or
      (d.receiver (clientDirectory p) (fsDirectory p repoName) name)
  sender : d.sender p'.clientFiles p'.fsFiles = d.sender p.clientFiles p.fsFiles
  connections : p'.metadataServer.isOpen = p.metadataServer.isOpen
  transfers : p'.fileServer.store.transfers.length = p.fileServer.store.transfers.length + 1
  own : OnlyOwn e.sySession.sessionId p.metadataServer.store p'.metadataServer.store

theorem session_mirrors (d : Direction) (status : StatusCall) (call : TransferCall)
    (lossless : J.Lossless) (carries : e.platform.Carries)
    (thread : e.platform.runs (p.fileServer.store.transfers.length + 1) = true)
    (ready : Ready J e p row) (session : e.sySession.localRepoPath = localRepoPath)
    (dialsStatus : Dials p status.client) (dialsTransfer : Dials p call.client)
    (carried : call.Carried J) (reads : Reads all status.clientReaddir ∧ Reads all status.fsReaddir)
    (regular : Regular p row.repoName all) (textual : Textual J e.checksum p row.repoName)
    (faithful : Faithful e.checksum p row.repoName) :
    Yields (syStatus J e status p) fun between =>
      IsDiff e.checksum (clientDirectory p) (fsDirectory p row.repoName) between.2 ∧
        Yields (transferUntilLoop J d e call between.2 between.1) fun p' =>
          ∃ row', SessionMirrored J d e p row.repoName row' p' := by
  have clientNamed : ∀ name content, clientDirectory p name = some content → name ∈ all :=
    fun name content there => regular.named name content (.inl there)
  have fsNamed : ∀ name content, fsDirectory p row.repoName name = some content → name ∈ all :=
    fun name content there => regular.named name content (.inr there)
  have asks : Asks J e p row status :=
    { found := ready.found
      sessionId := ready.sessionId
      repoName := ready.repoName
      session
      clientLists := reads.1 _ _ clientNamed
      fsLists := reads.2 _ _ fsNamed
      clientCarried := fun name content there => textual name content (.inl there)
      fsCarried := fun name content there => textual name content (.inr there)
      ready
      dials := dialsStatus }
  have compares := status_compares lossless carries.freedTwice ready dialsStatus session reads
    regular.few regular.named textual
  refine compares.toReturnsIff.remember.toReturns.weaken ?_
  rintro between ⟨called, row₁, names, statusOf⟩
  have sent := comparison_isDiff e.checksum statusOf.compared
  rw [← statusOf.diff] at sent
  refine ⟨sent, ?_⟩
  have rowsHold := comparisonRows_hold statusOf.compared
    (fun name content there => textual name content (.inl there))
    (fun name content there => textual name content (.inr there))
  have read : Yields (readDiff (some (.array (comparisonRows e.checksum (clientDirectory p)
      (fsDirectory p row.repoName) names)))) (· = between.2) := by
    rw [statusOf.diff]
    exact readDiff_yields (statusOf.compared.few regular.few regular.named)
  have thread' : e.platform.runs (between.1.fileServer.store.transfers.length + 1) = true := by
    rw [statusOf.undisturbed.fsStore]
    exact thread
  have moves := status_mirrored (d := d) lossless carries.keepsFrames thread' statusOf dialsTransfer
    carried regular textual
  refine moves.toReturnsIff.remember.toReturns.weaken ?_
  rintro p' ⟨moved, row₂, ready', repoName, opens, count, sender, mirrors⟩
  rw [statusOf.undisturbed.fsStore] at count
  refine ⟨row₂, ready', repoName, fun name => ?_, sender, opens, count, ?_⟩
  · have arrived := congrFun (contents_mirrored mirrors) name
    rw [← receiver_contents, ← sender_contents, ← receiver_contents] at arrived
    refine arrived.trans (mirrored_all sent ?_ ?_)
    · exact fun content there => faithful.nonempty name content (held_sides.mpr (.inl there))
    · exact fun content other there kept => faithful.equal name content other
        (held_sides.mpr (.inl there)) (held_sides.mpr (.inr kept))
  · exact (syStatus_own lossless asks called).trans (transfer_own lossless statusOf.ready carried
      statusOf.kept rowsHold read moved)

-- main of sy.c.

def mainRepoName : CString := CString.literal "hhh"

def mainArgs : OpenArgs where
  localRepoPath := localRepoPath
  apiKey := CString.literal "apikey"
  token := CString.literal "token"

structure MainCalls where
  init : InitCall
  cleanupInit : CleanupCall
  connect : ConnectCall
  status : StatusCall
  download : TransferCall
  cleanup : CleanupCall

variable (J)

def ConnectCall.setting (call : ConnectCall) (fileserver : Connection) (checksum : Bytes → CString)
    (platform : Platform) (sySession : SySession) : Setting where
  sySession := sySession
  checksum := checksum
  fileserver := fileserver
  oid := call.sessionId
  platform := platform

-- A repository is made, and its session closed; then a new session for its code downloads what it has.
-- sy_download stays in rtcdc_loop.
def mainUntilLoop (fileserver : Connection) (checksum : Bytes → CString) (platform : Platform)
    (calls : MainCalls) (p : Parties) : Except Fault (Parties × SySession × List DiffInfo) := do
  let (p, sySession) ← syInit J fileserver calls.init mainRepoName mainArgs p
  let uriCode := sySession.uriCode
  let p ← syCleanup J calls.cleanupInit sySession.toSySession p
  let (p, sySession) ← syConnect J calls.connect uriCode mainArgs p
  let e := calls.connect.setting fileserver checksum platform sySession.toSySession
  let (p, sySessionDiff) ← syStatus J e calls.status p
  let p ← syDownloadUntilLoop J e calls.download p
  return (p, sySession.toSySession, sySessionDiff)

def main (fileserver : Connection) (checksum : Bytes → CString) (platform : Platform)
    (calls : MainCalls) (p : Parties) : Except Fault (Parties × List DiffInfo) := do
  let (p, sySession, sySessionDiff) ← mainUntilLoop J fileserver checksum platform calls p
  rtcdcLoop platform
  let p ← syCleanup J calls.cleanup sySession p
  return (p, sySessionDiff)

variable {J}

structure MainCalls.Sound (calls : MainCalls) (J : Jansson) (p : Parties) (all : List CString) :
    Prop where
  init : Dials p calls.init.client
  cleanupInit : Dials p calls.cleanupInit.client
  connect : Dials p calls.connect.client
  status : Dials p calls.status.client
  download : Dials p calls.download.client
  texts : J.accepts calls.init.sessionId.val = true ∧ J.accepts calls.init.uriCode.val = true ∧
    J.accepts calls.connect.sessionId.val = true
  freshInit : findSession p.metadataServer.store calls.init.sessionId.val = none
  freshCode : findOne FilesysRow.uriCode calls.init.uriCode.val p.metadataServer.store.filesys = none
  freshConnect : findSession p.metadataServer.store calls.connect.sessionId.val = none
  carried : calls.download.Carried J
  reads : Reads all calls.status.clientReaddir ∧ Reads all calls.status.fsReaddir

-- The local directory has every file of the repository, the repository is as it was, and besides
-- the sessions that there were the second one of main is left.
structure Downloaded (p : Parties) (fileserver : Connection) (calls : MainCalls)
    (checksum : Bytes → CString) (result : Parties × SySession × List DiffInfo) : Prop where
  diff : IsDiff checksum (clientDirectory p) (fsDirectory p mainRepoName) result.2.2
  client : ∀ name, clientDirectory result.1 name =
    (fsDirectory p mainRepoName name).or (clientDirectory p name)
  fs : result.1.fsFiles = p.fsFiles
  session : removeOne SessionRow.sessionId calls.connect.sessionId.val
    result.1.metadataServer.store.session = p.metadataServer.store.session
  left : (findSession result.1.metadataServer.store calls.connect.sessionId.val).isSome
  filesys : result.1.metadataServer.store.filesys =
    p.metadataServer.store.filesys ++ [calls.init.code fileserver mainRepoName]

theorem Opens.ready {codes : List FilesysRow} (opens : Opens p p' row codes)
    (fresh : findSession p.metadataServer.store row.sessionId = none)
    (fileserver : ofInt32 row.fileserverWsi = e.fileserver.server)
    (registered : p.metadataServer.isOpen e.fileserver.server = true)
    (running : p.fileServer.isOpen e.fileserver.own = true)
    (named : e.sySession.sessionId = row.sessionId) (id : J.accepts row.sessionId = true)
    (name : J.accepts row.repoName = true) : Ready J e p' row where
  found := by
    rw [findSession_eq] at fresh
    rw [named, findSession_eq, opens.session]
    exact findOne_append_fresh fresh
  fileserver := fileserver
  registered := (congrFun opens.undisturbed.metadataServer _).trans registered
  running := (congrFun opens.undisturbed.fileServer _).trans running
  sessionId := named ▸ id
  repoName := name


variable {fileserver : Connection} {checksum : Bytes → CString} {platform : Platform}
  {calls : MainCalls}

theorem mainUntilLoop_yields (lossless : J.Lossless) (carries : platform.Carries)
    (thread : platform.runs (p.fileServer.store.transfers.length + 1) = true)
    (registered : Serves fileserver p) (named : J.accepts mainRepoName = true)
    (args : mainArgs.Carried J) (sound : calls.Sound J p all)
    (regular : Regular p mainRepoName all) (textual : Textual J checksum p mainRepoName)
    (faithful : Faithful checksum p mainRepoName) :
    Yields (mainUntilLoop J fileserver checksum platform calls p)
      (Downloaded p fileserver calls checksum) := by
  have stored : Survives fileserver.server := registered.named ▸ getWsi_survives _
  have freshCode : findOne FilesysRow.uriCode (calls.init.code fileserver mainRepoName).uriCode
      p.metadataServer.store.filesys = none := sound.freshCode
  unfold mainUntilLoop
  refine (syInit_yields lossless registered sound.init sound.freshInit named args sound.texts.1
    sound.texts.2.1).bind ?_
  rintro ⟨p₁, first⟩ ⟨opens₁, rfl⟩
  have dials {client : Connection} (dials : Dials p client) := opens₁.undisturbed.dials dials
  refine (syCleanup_yields lossless (dials sound.cleanupInit) sound.texts.1).bind ?_
  rintro p₂ ⟨undisturbed₂, sessions₂, filesys₂⟩
  -- the session of sy_init is gone, its code stays
  have undisturbed := opens₁.undisturbed.trans undisturbed₂
  have restored : p₂.metadataServer.store.session = p.metadataServer.store.session := by
    rw [sessions₂, opens₁.session]
    exact removeOne_append_fresh (calls.init.sessionRow fileserver mainRepoName)
      ((findSession_eq ..).symm.trans sound.freshInit)
  rw [opens₁.filesys] at filesys₂
  have known : findOne FilesysRow.uriCode calls.init.uriCode.val p₂.metadataServer.store.filesys =
      some (calls.init.code fileserver mainRepoName) := by
    rw [filesys₂]
    exact findOne_append_fresh freshCode
  refine (syConnect_yields lossless (undisturbed.dials sound.connect) known args sound.texts.2.2
    sound.texts.2.1).bind ?_
  rintro ⟨p₃, second⟩ ⟨opens₃, rfl⟩
  have whole := undisturbed.trans opens₃.undisturbed
  have fresh : findSession p₂.metadataServer.store calls.connect.sessionId.val = none :=
    (findSession_congr restored _).trans sound.freshConnect
  let e := calls.connect.setting fileserver checksum platform
    { sessionId := calls.connect.sessionId.val, localRepoPath }
  have ready : Ready J e p₃ (calls.connect.sessionRow (calls.init.code fileserver mainRepoName)) := by
    refine opens₃.ready fresh ?_ ?_ ?_ rfl sound.texts.2.2 named
    · have same : toInt32 (ofInt32 (toInt32 fileserver.server)) = toInt32 fileserver.server :=
        toInt32_ofInt32 _
      exact (congrArg ofInt32 same).trans stored
    · exact (congrFun undisturbed.metadataServer _).trans registered.registered
    · exact (congrFun undisturbed.fileServer _).trans registered.running
  have sides : clientDirectory p₃ = clientDirectory p ∧
      fsDirectory p₃ mainRepoName = fsDirectory p mainRepoName := by
    rw [clientDirectory, clientDirectory, fsDirectory, fsDirectory, whole.clientFiles, whole.fsFiles]
    exact ⟨rfl, rfl⟩
  have thread' : e.platform.runs (p₃.fileServer.store.transfers.length + 1) = true := by
    rw [whole.fsStore]
    exact thread
  have downloads := session_mirrors .download calls.status calls.download lossless carries thread'
    ready rfl (whole.dials sound.status) (whole.dials sound.download) sound.carried sound.reads
    (regular.undisturbed whole) (fun name content held => textual name content (whole.held.mp held))
    ⟨fun name content held => faithful.nonempty name content (whole.held.mp held),
      fun name content other held kept =>
        faithful.equal name content other (whole.held.mp held) (whole.held.mp kept)⟩
  refine downloads.bind ?_
  rintro ⟨p₄, diff⟩ ⟨isDiff, downloads⟩
  refine downloads.bind ?_
  rintro p₅ ⟨row₅, ready₅, _, client, fs, _, _, own⟩
  refine .value ⟨?_, fun name => ?_, fs.trans whole.fsFiles, ?_, ?_, ?_⟩
  · have same : IsDiff checksum (clientDirectory p₃) (fsDirectory p₃ mainRepoName) diff := isDiff
    rwa [sides.1, sides.2] at same
  · have arrived : clientDirectory p₅ name =
        (fsDirectory p₃ mainRepoName name).or (clientDirectory p₃ name) := client name
    rw [arrived, sides.1]
    exact congrArg (fun directory => (directory name).or (clientDirectory p name)) sides.2
  · refine own.session.trans ?_
    rw [opens₃.session]
    exact (removeOne_append_fresh (calls.connect.sessionRow _)
      ((findSession_eq ..).symm.trans fresh)).trans restored
  · exact Option.isSome_of_eq_some ready₅.found
  · rw [own.filesys, opens₃.filesys, List.append_nil, filesys₂]

/-- From any state with a registered file server, unless a text overflows its buffer, main comes to
have every file of the repository in the local directory; with nothing that quits the main loop it
comes no further. -/
theorem main_downloads (lossless : J.Lossless) (carries : platform.Carries)
    (thread : platform.runs (p.fileServer.store.transfers.length + 1) = true)
    (registered : Serves fileserver p) (named : J.accepts mainRepoName = true)
    (args : mainArgs.Carried J) (sound : calls.Sound J p all)
    (regular : Regular p mainRepoName all) (textual : Textual J checksum p mainRepoName)
    (faithful : Faithful checksum p mainRepoName)
    (fits : mainUntilLoop J fileserver checksum platform calls p ≠ .error .overflow) :
    ∃ result, mainUntilLoop J fileserver checksum platform calls p = .ok result ∧
      Downloaded p fileserver calls checksum result ∧
      (platform.quitsLoop = false →
        main J fileserver checksum platform calls p = .error .noReturn) := by
  obtain ⟨result, returned, downloaded⟩ := (mainUntilLoop_yields lossless carries thread registered
    named args sound regular textual faithful).result (by rintro _ rfl; exact fits)
  refine ⟨result, returned, downloaded, fun stays => ?_⟩
  rw [main, returned, ok_bind, rtcdcLoop, stays]
  rfl

def mainParties : Parties where
  metadataServer :=
    { Loop.start (insertFileserver (Db.empty .inOrder) fileserverDns 1) with
      isOpen := fun wsi => wsi = 1 }
  fileServer := { Loop.start { transfers := [] } with isOpen := fun wsi => wsi = 1 }
  clientFiles := filesAt localRepoPath.val clientStored
  fsFiles := filesAt (repoDirectory mainRepoName) fsStored

theorem mainOid_length (digit : UInt8) (nonzero : 0 ≠ digit) :
    (⟨List.replicate 24 digit, by simp [nonzero]⟩ : CString).val.length = 24 :=
  List.length_replicate

def mainOid (digit : UInt8) (nonzero : 0 ≠ digit) : Oid :=
  ⟨⟨List.replicate 24 digit, by simp [nonzero]⟩, mainOid_length digit nonzero⟩

def sampleMain : MainCalls where
  init :=
    { client := { server := 2, own := 1 }
      sessionId := mainOid 49 (by decide), uriCode := mainOid 50 (by decide), mkdirFails := true }
  cleanupInit := { client := { server := 3, own := 1 }, oid := mainOid 51 (by decide) }
  connect := { client := { server := 4, own := 1 }, sessionId := mainOid 52 (by decide) }
  status := (sampleCalls storedNames).first
  download := (sampleCalls storedNames).transfer
  cleanup := { client := { server := 5, own := 1 }, oid := mainOid 53 (by decide) }

theorem main_held {name : CString} {content : Bytes}
    (held : Held mainParties mainRepoName name content) :
    (name, content) ∈ clientStored ++ fsStored := by
  rcases held with there | there
  · exact List.mem_append_left _ (filesAt_held there)
  · exact List.mem_append_right _ (filesAt_held there)

theorem main_dials {wsi : Wsi} (different : wsi ≠ 1) (present : wsi ≠ Wsi.null)
    (survives : Survives wsi) : Dials mainParties { server := wsi, own := 1 } :=
  ⟨present, by simpa [mainParties] using different, survives⟩

theorem sampleMain_downloads : ∃ result,
    mainUntilLoop Jansson.canonical { server := 1, own := 1 } sampleSetting.checksum
      (.asBuilt true true 4) sampleMain mainParties = .ok result ∧
    clientDirectory result.1 (CString.literal "notes") = some [111, 108, 100] ∧
    clientDirectory result.1 (CString.literal "mine") = some [109] ∧
    clientDirectory result.1 (CString.literal "theirs") = some [] ∧
    (findSession result.1.metadataServer.store sampleMain.connect.sessionId.val).isSome ∧
    main Jansson.canonical { server := 1, own := 1 } sampleSetting.checksum (.asBuilt true true 4)
      sampleMain mainParties = .error .noReturn := by
  have apart : ∀ file ∈ clientStored ++ fsStored, ∀ other ∈ clientStored ++ fsStored,
      file.1 = other.1 → sampleSetting.checksum file.2 = sampleSetting.checksum other.2 →
        file.2 = other.2 := by decide +kernel
  have readFirst := readAll_reads storedNames_checked.1
  have sound : sampleMain.Sound Jansson.canonical mainParties storedNames :=
    { init := main_dials (by decide) (by decide) (by decide)
      cleanupInit := main_dials (by decide) (by decide) (by decide)
      connect := main_dials (by decide) (by decide) (by decide)
      status := main_dials (by decide) (by decide) (by decide)
      download := main_dials (by decide) (by decide) (by decide)
      texts := by decide
      freshInit := rfl
      freshCode := rfl
      freshConnect := rfl
      carried := (sample_sound clientStored fsStored storedNames_checked.1).carried
      reads := ⟨readFirst, readFirst⟩ }
  have fits : mainUntilLoop Jansson.canonical { server := 1, own := 1 } sampleSetting.checksum
      (.asBuilt true true 4) sampleMain mainParties ≠ .error .overflow := by
    refine not_stopsWith ?_
    decide +kernel
  obtain ⟨result, returned, downloaded, stays⟩ := main_downloads Jansson.canonical_lossless
    ⟨rfl, rfl⟩ (by decide)
    (⟨by decide +kernel, by decide, rfl, rfl⟩ : Serves { server := 1, own := 1 } mainParties)
    (by decide +kernel) ⟨by decide +kernel, by decide +kernel⟩ sound
    { text := fun name content held =>
        ⟨stored_nulFree _ (main_held held), stored_pieces _ (main_held held)⟩
      named := fun name content held => (stored_checked _ (main_held held)).1
      short := fun name there => (storedNames_checked.2 name there).1
      fits := by decide +kernel
      few := by decide }
    (fun name content held => (stored_checked _ (main_held held)).2)
    { nonempty := fun name content held => sample_checksum content
      equal := fun name content other held kept =>
        apart _ (main_held held) _ (main_held kept) rfl }
    fits
  refine ⟨result, returned, ?_, ?_, ?_, downloaded.left, stays rfl⟩
  · rw [downloaded.client]
    decide +kernel
  · rw [downloaded.client]
    decide +kernel
  · rw [downloaded.client]
    decide +kernel

end Librtcdc.Metadata
