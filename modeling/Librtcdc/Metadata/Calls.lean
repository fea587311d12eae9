import Librtcdc.Metadata.Answers
import Librtcdc.Metadata.Directory

set_option autoImplicit false

namespace Librtcdc.Metadata

open Systems Sync

def repoDirectory (repoName : CString) : Bytes :=
  warehousePath.val ++ repoName.val ++ slash.val

structure Ready (J : Jansson) (e : Setting) (p : Parties) (row : SessionRow) : Prop where
  found : findSession p.metadataServer.store e.sySession.sessionId = some row
  fileserver : ofInt32 row.fileserverWsi = e.fileserver.server
  registered : p.metadataServer.isOpen e.fileserver.server = true
  running : p.fileServer.isOpen e.fileserver.own = true
  sessionId : J.accepts e.sySession.sessionId = true
  repoName : J.accepts row.repoName = true

structure Dials (p : Parties) (client : Connection) : Prop where
  present : client.server ≠ Wsi.null
  fresh : p.metadataServer.isOpen client.server = false
  stored : Survives client.server

def Carried (J : Jansson) (checksum : Bytes → CString) (directory : CString → Option Bytes) : Prop :=
  ∀ name content, directory name = some content →
    J.accepts name = true ∧ J.accepts (checksum content) = true

variable {J : Jansson} {e : Setting} {p : Parties} {row : SessionRow}

theorem Ready.connected {client : Connection} (ready : Ready J e p row) (dials : Dials p client) :
    Connected p e.fileserver client where
  present := dials.present
  fresh := dials.fresh
  registered := ready.registered
  running := ready.running

variable {checksum : Bytes → CString} {files : Files} {directory : Bytes} {entries : List CString}

def listing (checksum : Bytes → CString) (key : String) (files : Files) (directory : Bytes)
    (entries : List CString) : List Json :=
  (realNames entries).map fun name =>
    entry key name (checksumOf checksum (contents files directory name))

theorem carried_entries (carried : Carried J checksum (contents files directory))
    (lists : Lists files directory entries) :
    ∀ name ∈ realNames entries, J.accepts name = true ∧
      J.accepts (genMd5 checksum files (directory ++ name.val)) = true := by
  intro name member
  obtain ⟨content, there⟩ := Option.isSome_iff_exists.mp ((lists.complete name).mp member)
  rw [genMd5, contents_some there]
  exact carried name content there

theorem carried_holds {key : String} (carried : Carried J checksum (contents files directory))
    (lists : Lists files directory entries) (different : key ≠ "filename") :
    ∀ file ∈ listing checksum key files directory entries, J.Holds file := by
  intro file member
  obtain ⟨name, listed, rfl⟩ := List.mem_map.mp member
  obtain ⟨content, there⟩ := Option.isSome_iff_exists.mp ((lists.complete name).mp listed)
  obtain ⟨nameFits, checksumFits⟩ := carried name content there
  rw [there]
  exact holds_entry different nameFits checksumFits

theorem syStatusRequest_fits {wsi : Wsi} {readdir : Bytes → Option (List CString)}
    (session : e.sySession.localRepoPath = localRepoPath)
    (read : readdir localRepoPath.val = some entries)
    (carried : Carried J checksum (contents files localRepoPath.val))
    (lists : Lists files localRepoPath.val entries) :
    Fills ((∀ name ∈ realNames entries, (localRepoPath.val ++ name.val).length < filePathSize) ∧
        Short (J.dumps (filesBody .syStatus e.sySession.sessionId
          (listing checksum "client_checksum" files localRepoPath.val entries))))
      (syStatusRequest J wsi e.sySession (genMd5 checksum files) readdir)
      (· = composed J wsi .syStatus (filesBody .syStatus e.sySession.sessionId
        (listing checksum "client_checksum" files localRepoPath.val entries))) := by
  rw [syStatusRequest, session, read]
  refine (listFiles_fits (carried_entries carried lists)).bind fun _ listed => ?_
  rw [listed, listed_entries lists]
  exact compose_fits

def clientDirectory (p : Parties) : CString → Option Bytes :=
  contents p.clientFiles localRepoPath.val

def fsDirectory (p : Parties) (repoName : CString) : CString → Option Bytes :=
  contents p.fsFiles (repoDirectory repoName)

structure Compared (client fs : CString → Option Bytes) (names : List CString) : Prop where
  distinct : names.Nodup
  complete : ∀ name, name ∈ names ↔ (client name).isSome ∨ (fs name).isSome

def comparison (checksum : Bytes → CString) (client fs : CString → Option Bytes)
    (names : List CString) : List DiffInfo :=
  names.map fun name =>
    { filename := name, dirty := statusOf checksum (client name) (fs name) }

def comparisonRows (checksum : Bytes → CString) (client fs : CString → Option Bytes)
    (names : List CString) : List Json :=
  names.map fun name => diffEntry name (statusOf checksum (client name) (fs name))

structure Undisturbed (p p' : Parties) : Prop where
  metadataServer : p'.metadataServer.isOpen = p.metadataServer.isOpen
  fileServer : p'.fileServer.isOpen = p.fileServer.isOpen
  fsStore : p'.fileServer.store = p.fileServer.store
  clientFiles : p'.clientFiles = p.clientFiles
  fsFiles : p'.fsFiles = p.fsFiles

variable {client fs : CString → Option Bytes} {names clientEntries fsEntries : List CString}
  {fsFiles : Files} {repoPath : Bytes}

theorem Ready.later {p' : Parties} {row' : SessionRow} (ready : Ready J e p row)
    (sameServer : p'.metadataServer.isOpen = p.metadataServer.isOpen)
    (sameFs : p'.fileServer.isOpen = p.fileServer.isOpen)
    (found : findSession p'.metadataServer.store e.sySession.sessionId = some row')
    (fileserver : row'.fileserverWsi = row.fileserverWsi)
    (repoName : row'.repoName = row.repoName) : Ready J e p' row' where
  found := found
  fileserver := fileserver ▸ ready.fileserver
  registered := (congrFun sameServer _).trans ready.registered
  running := (congrFun sameFs _).trans ready.running
  sessionId := ready.sessionId
  repoName := repoName ▸ ready.repoName

theorem comparison_isDiff (checksum : Bytes → CString) (compared : Compared client fs names) :
    IsDiff checksum client fs (comparison checksum client fs names) where
  listed name := by
    rw [← compared.complete, comparison, List.map_map]
    simp
  status file member := by
    obtain ⟨name, _, rfl⟩ := List.mem_map.mp member
    rfl

theorem lists_compared (clientLists : Lists files directory clientEntries)
    (fsLists : Lists fsFiles repoPath fsEntries) :
    Compared (contents files directory) (contents fsFiles repoPath)
      (joinedNames (realNames fsEntries) (realNames clientEntries)) where
  distinct := joinedNames_nodup (fsLists.distinct.filter _) (clientLists.distinct.filter _)
  complete name := by
    rw [mem_joinedNames, clientLists.complete, fsLists.complete, Or.comm]

theorem comparisonRows_hold (compared : Compared client fs names)
    (clientCarried : Carried J checksum client) (fsCarried : Carried J checksum fs) :
    ∀ row ∈ comparisonRows checksum client fs names, J.Holds row := by
  intro row member
  obtain ⟨name, listed, rfl⟩ := List.mem_map.mp member
  refine holds_diffEntry ?_
  rcases (compared.complete name).mp listed with there | there
  · obtain ⟨content, there⟩ := Option.isSome_iff_exists.mp there
    exact (clientCarried name content there).1
  · obtain ⟨content, there⟩ := Option.isSome_iff_exists.mp there
    exact (fsCarried name content there).1

theorem comparisonRows_value (checksum : Bytes → CString) (client fs : CString → Option Bytes)
    (names : List CString) :
    Json.array (comparisonRows checksum client fs names) =
      diffValue (comparison checksum client fs names) := by
  rw [diffValue, comparison, List.map_map]
  rfl

theorem syStatusDiff_fits {text : CString} {recvd : Json} (loaded : J.loads text = some recvd)
    (listed : recvd.get "files" = some (.array (comparisonRows checksum client fs names))) :
    Fills (∀ name ∈ names, name.val.length < fileNameSize) (syStatusDiff J text)
      (· = (comparison checksum client fs names).take (names.length % 256)) := by
  have read := readDiff_fits (comparison checksum client fs names)
  rw [← comparisonRows_value, comparison, List.length_map] at read
  rw [syStatusDiff, loaded, Option.bind_some, listed]
  exact read.congr List.forall_mem_map

def StatusCall.clientListing (call : StatusCall) (e : Setting) (p : Parties) : List Json :=
  listing e.checksum "client_checksum" p.clientFiles localRepoPath.val
    (call.clientReaddir p.clientFiles localRepoPath.val)

def StatusCall.fsListing (call : StatusCall) (e : Setting) (p : Parties) (repoName : CString) :
    List Json :=
  listing e.checksum "fs_checksum" p.fsFiles (repoDirectory repoName)
    (call.fsReaddir p.fsFiles (repoDirectory repoName))

def StatusCall.allNames (call : StatusCall) (p : Parties) (repoName : CString) : List CString :=
  joinedNames (realNames (call.fsReaddir p.fsFiles (repoDirectory repoName)))
    (realNames (call.clientReaddir p.clientFiles localRepoPath.val))

def StatusCall.rows (call : StatusCall) (e : Setting) (p : Parties) (repoName : CString) :
    List Json :=
  comparisonRows e.checksum (clientDirectory p) (fsDirectory p repoName) (call.allNames p repoName)

structure StatusOf (J : Jansson) (e : Setting) (p : Parties) (row : SessionRow)
    (result : Parties × List DiffInfo) (row' : SessionRow) (names : List CString) : Prop where
  ready : Ready J e result.1 row'
  undisturbed : Undisturbed p result.1
  repoName : row'.repoName = row.repoName
  compared : Compared (clientDirectory p) (fsDirectory p row.repoName) names
  kept : row'.diff = .array
    (comparisonRows e.checksum (clientDirectory p) (fsDirectory p row.repoName) names)
  diff : result.2 = comparison e.checksum (clientDirectory p) (fsDirectory p row.repoName) names

structure StatusCall.Fits (J : Jansson) (call : StatusCall) (e : Setting) (p : Parties)
    (row : SessionRow) : Prop where
  clientPaths : ∀ name ∈ realNames (call.clientReaddir p.clientFiles localRepoPath.val),
    (localRepoPath.val ++ name.val).length < filePathSize
  request : Short (J.dumps (filesBody .syStatus e.sySession.sessionId (call.clientListing e p)))
  stored : row.Fits J
  forwarded : Short (J.dumps (repoBody e.sySession.sessionId row.repoName))
  repoPath : (warehousePath.val ++ row.repoName.val).length < filePathSize
  fsPaths : ∀ name ∈ realNames (call.fsReaddir p.fsFiles (repoDirectory row.repoName)),
    (repoDirectory row.repoName ++ name.val).length < filePathSize
  replied : Short (J.dumps (filesBody .fsStatusOk e.sySession.sessionId
    (call.fsListing e p row.repoName)))
  asked : (row.asked call.client.server (.array (call.clientListing e p))).Fits J
  answer : Short (J.dumps (filesBody .syStatusOk e.sySession.sessionId
    (call.rows e p row.repoName)))

theorem StatusCall.fits_steps {call : StatusCall} :
    ((∀ name ∈ realNames (call.clientReaddir p.clientFiles localRepoPath.val),
        (localRepoPath.val ++ name.val).length < filePathSize) ∧
      Short (J.dumps (filesBody .syStatus e.sySession.sessionId (call.clientListing e p)))) ∧
    (row.Fits J ∧ Short (J.dumps (repoBody e.sySession.sessionId row.repoName))) ∧
    ((warehousePath.val ++ row.repoName.val).length < filePathSize ∧
      (∀ name ∈ realNames (call.fsReaddir p.fsFiles (repoDirectory row.repoName)),
        (repoDirectory row.repoName ++ name.val).length < filePathSize) ∧
      Short (J.dumps (filesBody .fsStatusOk e.sySession.sessionId
        (call.fsListing e p row.repoName)))) ∧
    ((row.asked call.client.server (.array (call.clientListing e p))).Fits J ∧
      Short (J.dumps (filesBody .syStatusOk e.sySession.sessionId
        (call.rows e p row.repoName)))) ∧
    Short (J.dumps (filesBody .syStatusOk e.sySession.sessionId (call.rows e p row.repoName))) ↔
      call.Fits J e p row :=
  ⟨fun ⟨⟨clientPaths, request⟩, ⟨stored, forwarded⟩, ⟨repoPath, fsPaths, replied⟩,
      ⟨asked, answer⟩, _⟩ =>
    ⟨clientPaths, request, stored, forwarded, repoPath, fsPaths, replied, asked, answer⟩,
  fun fits => ⟨⟨fits.clientPaths, fits.request⟩, ⟨fits.stored, fits.forwarded⟩,
    ⟨fits.repoPath, fits.fsPaths, fits.replied⟩, ⟨fits.asked, fits.answer⟩, fits.answer⟩⟩

def statusAnswers (e : Setting) (call : StatusCall) (p : Parties) : FsAnswers where
  mkdirFails := false
  readdir := fun path => some (call.fsReaddir p.fsFiles (path ++ slash.val))
  genMd5 := genMd5 e.checksum p.fsFiles
  fsSdp := CString.empty
  localCandidates := CString.empty

def statusExchange (J : Jansson) (e : Setting) (call : StatusCall) (p : Parties) :
    Except Fault (Parties × CString) := do
  let request ← syStatusRequest J call.client.own e.sySession (genMd5 e.checksum p.clientFiles)
    fun path => some (call.clientReaddir p.clientFiles path)
  exchange J e.fileserver call.client e.oid (statusAnswers e call p) request .syStatusOk p

theorem syStatus_eq {call : StatusCall} : syStatus J e call p = (do
    let (p, answer) ← statusExchange J e call p
    let sySessionDiff ← syStatusDiff J answer
    provided e.platform.freedTwice .freed
    return (p, sySessionDiff)) := by
  rw [statusExchange, bind_assoc]
  rfl

structure Travels (J : Jansson) (e : Setting) (p : Parties) (row : SessionRow) (call : StatusCall) :
    Prop where
  found : findSession p.metadataServer.store e.sySession.sessionId = some row
  sessionId : J.accepts e.sySession.sessionId = true
  repoName : J.accepts row.repoName = true
  session : e.sySession.localRepoPath = localRepoPath
  clientLists : Lists p.clientFiles localRepoPath.val
    (call.clientReaddir p.clientFiles localRepoPath.val)
  fsLists : Lists p.fsFiles (repoDirectory row.repoName)
    (call.fsReaddir p.fsFiles (repoDirectory row.repoName))
  clientCarried : Carried J e.checksum (clientDirectory p)
  fsCarried : Carried J e.checksum (fsDirectory p row.repoName)

structure Asks (J : Jansson) (e : Setting) (p : Parties) (row : SessionRow) (call : StatusCall) :
    Prop extends Travels J e p row call where
  ready : Ready J e p row
  dials : Dials p call.client

theorem Travels.compared {call : StatusCall} (travels : Travels J e p row call) :
    Compared (clientDirectory p) (fsDirectory p row.repoName) (call.allNames p row.repoName) :=
  lists_compared travels.clientLists travels.fsLists

theorem Travels.client_holds {call : StatusCall} (travels : Travels J e p row call) :
    ∀ file ∈ call.clientListing e p, J.Holds file :=
  carried_holds travels.clientCarried travels.clientLists (by decide)

theorem Travels.fs_holds {call : StatusCall} (travels : Travels J e p row call) :
    ∀ file ∈ call.fsListing e p row.repoName, J.Holds file :=
  carried_holds travels.fsCarried travels.fsLists (by decide)

theorem Travels.answer_holds {call : StatusCall} (travels : Travels J e p row call) :
    J.Holds (filesBody .syStatusOk e.sySession.sessionId (call.rows e p row.repoName)) :=
  holds_filesBody travels.sessionId
    (comparisonRows_hold travels.compared travels.clientCarried travels.fsCarried)

theorem statusExchange_fits {call : StatusCall} (lossless : J.Lossless)
    (asks : Asks J e p row call) :
    Fills (call.Fits J e p row) (statusExchange J e call p) fun result =>
      ∃ row', Ready J e result.1 row' ∧ Undisturbed p result.1 ∧ row'.repoName = row.repoName ∧
        row'.diff = .array (call.rows e p row.repoName) ∧
        result.2 = J.dumps (filesBody .syStatusOk e.sySession.sessionId
          (call.rows e p row.repoName)) := by
  have loaded := lossless _ asks.toTravels.answer_holds
  have clientHolds := asks.toTravels.client_holds
  have fsHolds := asks.toTravels.fs_holds
  obtain ⟨⟨_, _, _, session, clientLists, fsLists, clientCarried, fsCarried⟩, ready, dials⟩ := asks
  unfold statusExchange
  refine ReturnsIff.congr ?_ StatusCall.fits_steps
  refine (syStatusRequest_fits session rfl clientCarried clientLists).bind fun request made => ?_
  subst made
  refine ReturnsIff.weaken (exchange_fits
    (fun db m => m.data = J.dumps (repoBody e.sySession.sessionId row.repoName) ∧
      findSession db e.sySession.sessionId =
        some (row.asked call.client.server (.array (call.clientListing e p))))
    (fun db fs m => m.data = J.dumps (filesBody .fsStatusOk e.sySession.sessionId
        (call.fsListing e p row.repoName)) ∧
      fs = p.fileServer.store ∧ findSession db e.sySession.sessionId =
        some (row.asked call.client.server (.array (call.clientListing e p))))
    (fun db fs m => m.data = J.dumps (filesBody .syStatusOk e.sySession.sessionId
        (call.rows e p row.repoName)) ∧
      fs = p.fileServer.store ∧ ∃ files, findSession db e.sySession.sessionId =
        some { row.asked call.client.server files with diff := .array (call.rows e p row.repoName) })
    (ready.connected dials) rfl rfl ?_ ?_ ?_ ?_) ?_
  · refine ReturnsIff.weaken (status_forwarded lossless ready.found ready.sessionId clientHolds) ?_
    rintro served ⟨m, sent, target, data, found⟩
    exact ⟨m, sent, target.trans ready.fileserver, data, found⟩
  · rintro db m ⟨data, found⟩
    refine ReturnsIff.weaken (status_replied lossless ready.sessionId ready.repoName data rfl rfl
      (carried_entries fsCarried fsLists) (listed_entries fsLists)) ?_
    rintro served ⟨m, sent, target, data, same⟩
    exact ⟨m, sent, target, data, same, found⟩
  · rintro db fs m ⟨data, rfl, found⟩
    rw [data]
    refine ReturnsIff.weaken (status_returned lossless found ready.sessionId rfl clientHolds fsHolds
      (fsLists.distinct.filter _) (clientLists.distinct.filter _)
      (fun name => unlisted_empty fsLists) (fun name => unlisted_empty clientLists)) ?_
    rintro served ⟨m, sent, target, data, files, found⟩
    exact ⟨m, sent, target.trans dials.stored, data, rfl, files, found⟩
  · rintro db fs m ⟨data, _⟩
    rw [data]
    exact callbackClientReceive_fits loaded rfl
  · rintro ⟨p', text⟩ ⟨sameServer, sameFs, sameClientFiles, sameFsFiles, db, m,
      ⟨data, fsStore, files, found⟩, store, same⟩
    have undisturbed : Undisturbed p p' :=
      ⟨sameServer, sameFs, fsStore, sameClientFiles, sameFsFiles⟩
    have kept := (congrArg (findSession · e.sySession.sessionId) store).trans found
    exact ⟨_, ready.later sameServer sameFs kept rfl rfl, undisturbed, rfl, rfl, same.trans data⟩

theorem syStatus_fits {call : StatusCall} (lossless : J.Lossless)
    (freed : e.platform.freedTwice = true) (asks : Asks J e p row call) :
    Fills (call.Fits J e p row ∧
        ∀ name ∈ call.allNames p row.repoName, name.val.length < fileNameSize)
      (syStatus J e call p) fun result =>
        (call.allNames p row.repoName).length < 256 →
          ∃ row', StatusOf J e p row result row' (call.allNames p row.repoName) := by
  rw [syStatus_eq, freed]
  refine (statusExchange_fits lossless asks).bind ?_
  rintro ⟨p', answer⟩ ⟨row', ready, undisturbed, repoName, kept, same⟩
  dsimp only at same
  subst same
  refine (syStatusDiff_fits (lossless _ asks.toTravels.answer_holds) rfl).then fun diff read few => ?_
  refine ⟨row', ready, undisturbed, repoName, asks.toTravels.compared, kept, ?_⟩
  rw [read, Nat.mod_eq_of_lt few, List.take_of_length_le (by simp [comparison])]

theorem syStatus_yields {call : StatusCall} (lossless : J.Lossless)
    (freed : e.platform.freedTwice = true) (ready : Ready J e p row)
    (dials : Dials p call.client) (session : e.sySession.localRepoPath = localRepoPath)
    (clientLists : Lists p.clientFiles localRepoPath.val
      (call.clientReaddir p.clientFiles localRepoPath.val))
    (fsLists : Lists p.fsFiles (repoDirectory row.repoName)
      (call.fsReaddir p.fsFiles (repoDirectory row.repoName)))
    (clientCarried : Carried J e.checksum (clientDirectory p))
    (fsCarried : Carried J e.checksum (fsDirectory p row.repoName))
    (few : ∀ names, Compared (clientDirectory p) (fsDirectory p row.repoName) names →
      names.length < 256) :
    Yields (syStatus J e call p) fun result =>
      ∃ row' names, StatusOf J e p row result row' names := by
  have asks : Asks J e p row call :=
    { found := ready.found
      sessionId := ready.sessionId
      repoName := ready.repoName
      session, clientLists, fsLists, clientCarried, fsCarried, ready, dials }
  refine (syStatus_fits lossless freed asks).toReturns.weaken fun result status => ?_
  obtain ⟨row', status⟩ := status (few _ asks.toTravels.compared)
  exact ⟨row', _, status⟩

structure TransferCall.Carried (J : Jansson) (call : TransferCall) : Prop where
  clientSdp : J.accepts call.clientSdp = true
  clientCandidates : J.accepts call.clientCandidates = true
  fsSdp : J.accepts call.fsSdp = true
  fsCandidates : J.accepts call.fsCandidates = true

variable {d : Direction} {rows : List Json} {diff : List DiffInfo} {request : Message}

structure Offered (J : Jansson) (e : Setting) (p : Parties) (row : SessionRow) (d : Direction)
    (call : TransferCall) (diff : List DiffInfo) (db : Db) (fs : FsStore) (m : Message) : Prop where
  data : m.data = J.dumps (readyBody d e.sySession.sessionId call.fsSdp call.fsCandidates)
  found : findSession db e.sySession.sessionId =
    some { row with clientWsi := toInt32 call.client.server }
  told : fs.transfers = p.fileServer.store.transfers ++ [
    { direction := d
      localRepoPath := repoDirectory row.repoName
      sySessionDiff := d.sender [] diff }]

theorem offer_yields {call : TransferCall} (lossless : J.Lossless)
    (frames : e.platform.keepsFrames = true)
    (thread : e.platform.runs (p.fileServer.store.transfers.length + 1) = true)
    (ready : Ready J e p row) (dials : Dials p call.client) (carried : call.Carried J)
    (kept : row.diff = .array rows)
    (each : ∀ row ∈ rows, J.Holds row) (read : Yields (readDiff (some (.array rows))) (· = diff))
    (asks : request = composed J call.client.own (requestType d)
      (offerBody d e.sySession.sessionId call.clientSdp call.clientCandidates)) :
    Yields (offer J e call (readyType d) p request) fun result => ∃ row',
      Ready J e result.1 row' ∧ row'.repoName = row.repoName ∧
        result.1.metadataServer.isOpen = p.metadataServer.isOpen ∧
        result.1.clientFiles = p.clientFiles ∧ result.1.fsFiles = p.fsFiles ∧
        result.1.fileServer.store.transfers.length = p.fileServer.store.transfers.length + 1 ∧
        result.2 =
          { direction := d
            localRepoPath := repoDirectory row.repoName
            sySessionDiff := d.sender [] diff } := by
  subst asks
  have loaded : J.loads (J.dumps (readyBody d e.sySession.sessionId call.fsSdp
      call.fsCandidates)) = _ :=
    lossless _ (holds_readyBody ready.sessionId carried.fsSdp carried.fsCandidates)
  unfold offer
  apply Returns.bind (ReturnsIff.toReturns (exchange_fits
    (fun db m => m.data = J.dumps (forwardBody d e.sySession.sessionId row.repoName
        call.clientSdp call.clientCandidates rows) ∧
      findSession db e.sySession.sessionId =
        some { row with clientWsi := toInt32 call.client.server })
    (Offered J e p row d call diff) (Offered J e p row d call diff)
    (ready.connected dials) (by cases d <;> rfl) rfl ?forwards ?replies ?returns ?arrives)) ?next
  case forwards =>
    refine ReturnsIff.weaken (transfer_forwarded lossless ready.found ready.sessionId
      carried.clientSdp carried.clientCandidates kept each) ?_
    rintro served ⟨m, sent, target, data, found⟩
    exact ⟨m, sent, target.trans ready.fileserver, data, found⟩
  case replies =>
    rintro db m ⟨data, found⟩
    refine ReturnsIff.weaken (transfer_replied lossless ready.sessionId ready.repoName
      carried.clientSdp carried.clientCandidates each data (by rfl) (by rfl) carried.fsSdp
      carried.fsCandidates read.toReturnsIff) ?_
    rintro served ⟨m, sent, target, data, told⟩
    exact ⟨m, sent, target, ⟨data, found, told⟩⟩
  case returns =>
    rintro db fs m ⟨data, found, told⟩
    rw [data]
    refine ReturnsIff.weaken (transfer_returned lossless found ready.sessionId carried.fsSdp
      carried.fsCandidates) ?_
    rintro served ⟨m, sent, target, data, same⟩
    exact ⟨m, sent, target.trans dials.stored, ⟨data, same ▸ found, told⟩⟩
  case arrives =>
    rintro db fs m ⟨data, _⟩
    rw [data]
    exact callbackClientReceive_fits loaded (by cases d <;> rfl)
  case next =>
    rintro ⟨p', text⟩ ⟨sameServer, sameFs, sameClientFiles, sameFsFiles, db, m, ⟨_, found, told⟩,
      store, _⟩
    have last : p'.fileServer.store.transfers.getLast? = some _ :=
      (congrArg List.getLast? told).trans List.getLast?_concat
    have count : p'.fileServer.store.transfers.length = p.fileServer.store.transfers.length + 1 := by
      rw [told, List.length_append, List.length_singleton]
    have kept := (congrArg (findSession · e.sySession.sessionId) store).trans found
    dsimp only
    rw [frames, provided_true, ok_bind, count, thread, provided_true, ok_bind, last, deref_some,
      ok_bind]
    exact .value ⟨_, ready.later sameServer sameFs kept rfl rfl, rfl, sameServer, sameClientFiles,
      sameFsFiles, count, rfl⟩

end Librtcdc.Metadata
