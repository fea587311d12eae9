import Mathlib.Data.List.Perm.Subperm
import Librtcdc.Metadata.Calls
import Librtcdc.Shared.JsonText

set_option autoImplicit false

namespace Librtcdc.Metadata

open Systems Sync

variable {J : Jansson} {e : Setting} {p p' : Parties} {row : SessionRow} {d : Direction}
  {diff : List DiffInfo} {names : List CString}

theorem syTransferRequest_yields {wsi : Wsi} {call : TransferCall} (carried : call.Carried J) :
    Yields (syTransferRequest J (requestType d) wsi e.sySession call.clientSdp
        call.clientCandidates)
      (· = composed J wsi (requestType d)
        (offerBody d e.sySession.sessionId call.clientSdp call.clientCandidates)) := by
  simp only [syTransferRequest, textField, carried.clientSdp, carried.clientCandidates, if_true]
  exact compose_yields

abbrev senderPath (d : Direction) (repoName : CString) : Bytes :=
  d.sender localRepoPath.val (repoDirectory repoName)

abbrev receiverPath (d : Direction) (repoName : CString) : Bytes :=
  d.receiver localRepoPath.val (repoDirectory repoName)

theorem Ready.withFiles {clientFiles fsFiles : Files} (ready : Ready J e p row) :
    Ready J e { p with clientFiles, fsFiles } row :=
  ⟨ready.found, ready.fileserver, ready.registered, ready.running, ready.sessionId, ready.repoName⟩

theorem transfer_yields {call : TransferCall} {rows : List Json} (lossless : J.Lossless)
    (frames : e.platform.keepsFrames = true)
    (thread : e.platform.runs (p.fileServer.store.transfers.length + 1) = true)
    (ready : Ready J e p row) (dials : Dials p call.client) (carried : call.Carried J)
    (kept : row.diff = .array rows) (each : ∀ row ∈ rows, J.Holds row)
    (read : Yields (readDiff (some (.array rows))) (· = diff))
    (sendable : ∀ file ∈ diff, Sendable d.selects (d.sender p.clientFiles p.fsFiles)
      (senderPath d row.repoName) (receiverPath d row.repoName) file) :
    Yields (transferUntilLoop J d e call diff p) fun p' => ∃ row',
      Ready J e p' row' ∧ row'.repoName = row.repoName ∧
        p'.metadataServer.isOpen = p.metadataServer.isOpen ∧
        p'.fileServer.store.transfers.length = p.fileServer.store.transfers.length + 1 ∧
        d.sender p'.clientFiles p'.fsFiles = d.sender p.clientFiles p.fsFiles ∧
        Mirrors d.selects (d.sender p.clientFiles p.fsFiles) (senderPath d row.repoName)
          (receiverPath d row.repoName) diff (d.receiver p.clientFiles p.fsFiles)
          (d.receiver p'.clientFiles p'.fsFiles) := by
  obtain ⟨packets, r', sent, arrived, mirrors⟩ :=
    diff_delivered d (d.receiver p.clientFiles p.fsFiles) sendable
  cases d with
  | upload =>
      unfold transferUntilLoop syUploadUntilLoop
      refine (syTransferRequest_yields (d := .upload) carried).bind fun request asks => ?_
      refine (offer_yields lossless frames thread ready dials carried kept each read asks).bind ?_
      rintro ⟨p', info⟩ ⟨row', ready', repoName, opens, sameClient, sameFs, count, rfl⟩
      have sent' : uvClientUpload p'.clientFiles localRepoPath.val diff = some packets := by
        rw [sameClient]
        exact sent
      have arrived' : deliver .upload (repoDirectory row.repoName)
          { files := p'.fsFiles, pFile := none } packets = some r' := by
        rw [sameFs]
        exact arrived
      dsimp only
      rw [sent', inBuffer_some, ok_bind, arrived', deref_some, ok_bind]
      exact .value ⟨row', ready'.withFiles, repoName, opens, count, sameClient,
        mirrors⟩
  | download =>
      unfold transferUntilLoop syDownloadUntilLoop
      refine (syTransferRequest_yields (d := .download) carried).bind fun request asks => ?_
      refine (offer_yields lossless frames thread ready dials carried kept each read asks).bind ?_
      rintro ⟨p', info⟩ ⟨row', ready', repoName, opens, sameClient, sameFs, count, rfl⟩
      have sent' : uvFsDownload p'.fsFiles (repoDirectory row.repoName) diff = some packets := by
        rw [sameFs]
        exact sent
      have arrived' : deliver .download localRepoPath.val
          { files := p'.clientFiles, pFile := none } packets = some r' := by
        rw [sameClient]
        exact arrived
      dsimp only [Direction.sender]
      rw [sent', inBuffer_some, ok_bind, arrived', deref_some, ok_bind]
      exact .value ⟨row', ready'.withFiles, repoName, opens, count, sameFs,
        mirrors⟩

def Held (p : Parties) (repoName name : CString) (content : Bytes) : Prop :=
  clientDirectory p name = some content ∨ fsDirectory p repoName name = some content

-- Both directories hold only regular files of text with names from a list, few and short enough.
structure Regular (p : Parties) (repoName : CString) (all : List CString) : Prop where
  text : ∀ name content, Held p repoName name content → Transferable content
  named : ∀ name content, Held p repoName name content → name ∈ all
  short : ∀ name ∈ all, name.val.length < fileNameSize
  fits : ∀ name ∈ all, (repoDirectory repoName).length + name.val.length < localPathSize
  few : all.length < 256

def Reads (all : List CString) (readdir : Files → Bytes → List CString) : Prop :=
  ∀ files directory,
    (∀ name content, contents files directory name = some content → name ∈ all) →
      Lists files directory (readdir files directory)

structure SyncCalls.Sound (calls : SyncCalls) (J : Jansson) (p : Parties) (all : List CString) :
    Prop where
  first : Dials p calls.first.client
  transfer : Dials p calls.transfer.client
  second : Dials p calls.second.client
  carried : calls.transfer.Carried J
  readFirst : Reads all calls.first.clientReaddir ∧ Reads all calls.first.fsReaddir
  readSecond : Reads all calls.second.clientReaddir ∧ Reads all calls.second.fsReaddir

def Textual (J : Jansson) (checksum : Bytes → CString) (p : Parties) (repoName : CString) : Prop :=
  ∀ name content, Held p repoName name content →
    J.accepts name = true ∧ J.accepts (checksum content) = true

-- The second diff selects nothing, and nothing but the selected files of the receiver changed.
structure Converged (d : Direction) (p : Parties) (repoName : CString) (result : Synced) :
    Prop where
  clean : ∀ file ∈ result.second, file.dirty ≠ d.lacking ∧ file.dirty ≠ .fileDirty
  sender : d.sender result.parties.clientFiles result.parties.fsFiles =
    d.sender p.clientFiles p.fsFiles
  kept : ∀ file ∈ result.first, file.dirty = .fileClean ∨ file.dirty = d.spare →
    d.receiver result.parties.clientFiles result.parties.fsFiles
        (receiverPath d repoName ++ file.filename.val) =
      d.receiver p.clientFiles p.fsFiles (receiverPath d repoName ++ file.filename.val)

variable {repoName name : CString} {files : Files} {directory : Bytes} {all : List CString}

theorem sender_contents : d.sender (clientDirectory p) (fsDirectory p repoName) =
    contents (d.sender p.clientFiles p.fsFiles) (senderPath d repoName) := by
  cases d <;> rfl

theorem receiver_contents : d.receiver (clientDirectory p) (fsDirectory p repoName) =
    contents (d.receiver p.clientFiles p.fsFiles) (receiverPath d repoName) := by
  cases d <;> rfl

theorem held_sides {content : Bytes} : Held p repoName name content ↔
    d.sender (clientDirectory p) (fsDirectory p repoName) name = some content ∨
      d.receiver (clientDirectory p) (fsDirectory p repoName) name = some content := by
  cases d
  · exact Iff.rfl
  · exact Or.comm

theorem held_before {content : Bytes}
    (sender : d.sender p'.clientFiles p'.fsFiles = d.sender p.clientFiles p.fsFiles)
    (mirrors : Mirrors d.selects (d.sender p.clientFiles p.fsFiles) (senderPath d repoName)
      (receiverPath d repoName) diff (d.receiver p.clientFiles p.fsFiles)
      (d.receiver p'.clientFiles p'.fsFiles))
    (held : Held p' repoName name content) : Held p repoName name content := by
  rw [held_sides (d := d), sender_contents, receiver_contents, sender,
    contents_mirrored mirrors] at held
  rw [held_sides (d := d), sender_contents, receiver_contents]
  rcases held with there | there
  · exact .inl there
  · rw [mirrored] at there
    split_ifs at there
    · exact .inl there
    · exact .inr there

theorem Compared.held (compared : Compared (clientDirectory p) (fsDirectory p repoName) names)
    (listed : name ∈ names) : ∃ content, Held p repoName name content := by
  rcases (compared.complete name).mp listed with there | there <;>
    obtain ⟨content, there⟩ := Option.isSome_iff_exists.mp there
  · exact ⟨content, .inl there⟩
  · exact ⟨content, .inr there⟩

theorem Compared.few (compared : Compared (clientDirectory p) (fsDirectory p repoName) names)
    (few : all.length < 256)
    (named : ∀ name content, Held p repoName name content → name ∈ all) : names.length < 256 := by
  have subset : names ⊆ all := by
    intro name listed
    obtain ⟨content, held⟩ := compared.held listed
    exact named name content held
  exact Nat.lt_of_le_of_lt (List.subperm_of_subset compared.distinct subset).length_le few

theorem comparison_sendable (regular : Regular p repoName all) {checksum : Bytes → CString}
    (compared : Compared (clientDirectory p) (fsDirectory p repoName) names) :
    ∀ file ∈ comparison checksum (clientDirectory p) (fsDirectory p repoName) names,
      Sendable d.selects (d.sender p.clientFiles p.fsFiles) (senderPath d repoName)
        (receiverPath d repoName) file := by
  intro file member
  obtain ⟨name, listed, rfl⟩ := List.mem_map.mp member
  obtain ⟨content, held⟩ := compared.held listed
  have named := regular.named name content held
  have short := regular.short name named
  have remote := regular.fits name named
  have nearby : localRepoPath.val.length + name.val.length < localPathSize := by
    have length : localRepoPath.val.length = 24 := by decide +kernel
    rw [length]
    exact Nat.lt_of_lt_of_le (Nat.add_lt_add_left short 24) (by decide)
  refine ⟨by cases d <;> assumption, by cases d <;> assumption, fun selected => ?_⟩
  obtain ⟨_, present⟩ := selects_statusOf.mp selected
  obtain ⟨sent, there⟩ := Option.isSome_iff_exists.mp (sent_exists present)
  rw [sender_apply] at there
  refine ⟨sent, ?_, regular.text name sent (held_sides.mpr (.inl there))⟩
  rw [sender_contents] at there
  exact contents_some there

theorem status_compares {call : StatusCall} (lossless : J.Lossless)
    (freed : e.platform.freedTwice = true) (ready : Ready J e p row)
    (dials : Dials p call.client) (session : e.sySession.localRepoPath = localRepoPath)
    (reads : Reads all call.clientReaddir ∧ Reads all call.fsReaddir) (few : all.length < 256)
    (named : ∀ name content, Held p row.repoName name content → name ∈ all)
    (textual : Textual J e.checksum p row.repoName) :
    Yields (syStatus J e call p) fun result => ∃ row' names, StatusOf J e p row result row' names :=
  syStatus_yields lossless freed ready dials session
    (reads.1 _ _ fun name content there => named name content (.inl there))
    (reads.2 _ _ fun name content there => named name content (.inr there))
    (fun name content there => textual name content (.inl there))
    (fun name content there => textual name content (.inr there))
    fun _ compared => compared.few few named

theorem Dials.transport {client : Connection} (dials : Dials p client)
    (same : p'.metadataServer.isOpen = p.metadataServer.isOpen) : Dials p' client where
  present := dials.present
  fresh := by rw [same]; exact dials.fresh
  stored := dials.stored

theorem status_mirrored {call : TransferCall} {result : Parties × List DiffInfo}
    {row' : SessionRow} (lossless : J.Lossless) (frames : e.platform.keepsFrames = true)
    (thread : e.platform.runs (result.1.fileServer.store.transfers.length + 1) = true)
    (status : StatusOf J e p row result row' names) (dials : Dials p call.client)
    (carried : call.Carried J) (regular : Regular p row.repoName all)
    (textual : Textual J e.checksum p row.repoName) :
    Yields (transferUntilLoop J d e call result.2 result.1) fun p' => ∃ next,
      Ready J e p' next ∧ next.repoName = row.repoName ∧
        p'.metadataServer.isOpen = p.metadataServer.isOpen ∧
        p'.fileServer.store.transfers.length =
          result.1.fileServer.store.transfers.length + 1 ∧
        d.sender p'.clientFiles p'.fsFiles = d.sender p.clientFiles p.fsFiles ∧
        Mirrors d.selects (d.sender p.clientFiles p.fsFiles) (senderPath d row.repoName)
          (receiverPath d row.repoName) result.2 (d.receiver p.clientFiles p.fsFiles)
          (d.receiver p'.clientFiles p'.fsFiles) := by
  have rowsHold := comparisonRows_hold status.compared
    (fun name content there => textual name content (.inl there))
    (fun name content there => textual name content (.inr there))
  have read : Yields (readDiff (some (.array (comparisonRows e.checksum (clientDirectory p)
      (fsDirectory p row.repoName) names)))) (· = result.2) := by
    rw [status.diff]
    exact readDiff_yields (status.compared.few regular.few regular.named)
  have sendable : ∀ file ∈ result.2, Sendable d.selects
      (d.sender result.1.clientFiles result.1.fsFiles) (senderPath d row'.repoName)
      (receiverPath d row'.repoName) file := by
    rw [status.diff, status.undisturbed.clientFiles, status.undisturbed.fsFiles, status.repoName]
    exact comparison_sendable regular status.compared
  have stillDials := dials.transport status.undisturbed.metadataServer
  refine Returns.weaken (transfer_yields lossless frames thread status.ready stillDials carried
    status.kept rowsHold read sendable) ?_
  rintro p' ⟨next, ready, repoName, opens, count, sender, mirrors⟩
  rw [status.undisturbed.clientFiles, status.undisturbed.fsFiles] at sender mirrors
  rw [status.repoName] at mirrors
  exact ⟨next, ready, repoName.trans status.repoName,
    opens.trans status.undisturbed.metadataServer, count, sender, mirrors⟩

theorem sync_yields {calls : SyncCalls} (lossless : J.Lossless) (carries : e.platform.Carries)
    (quits : e.platform.quitsLoop = true) (ready : Ready J e p row)
    (session : e.sySession.localRepoPath = localRepoPath) (sound : calls.Sound J p all)
    (regular : Regular p row.repoName all) (textual : Textual J e.checksum p row.repoName) :
    Yields (sync J d e calls p) (Converged d p row.repoName) := by
  unfold sync
  refine (status_compares lossless carries.freedTwice ready sound.first session sound.readFirst
    regular.few regular.named textual).bind ?_
  rintro ⟨p₁, first⟩ ⟨row₁, names, status⟩
  dsimp only
  rw [transfer_quits quits]
  have thread : e.platform.runs (p₁.fileServer.store.transfers.length + 1) = true := by
    rw [Platform.runs, quits, Bool.true_or]
  refine (status_mirrored lossless carries.keepsFrames thread status sound.transfer sound.carried regular
    textual).bind ?_
  rintro p₂ ⟨row₂, ready₂, repoName, opens, _, sender, mirrors⟩
  have before : ∀ name content, Held p₂ row.repoName name content →
      Held p row.repoName name content := fun name content => held_before sender mirrors
  have textual₂ : Textual J e.checksum p₂ row₂.repoName := by
    rw [repoName]
    exact fun name content held => textual name content (before name content held)
  have named₂ : ∀ name content, Held p₂ row₂.repoName name content → name ∈ all := by
    rw [repoName]
    exact fun name content held => regular.named name content (before name content held)
  refine (status_compares lossless carries.freedTwice ready₂ (sound.second.transport opens) session
    sound.readSecond regular.few named₂ textual₂).bind ?_
  rintro ⟨p₃, second⟩ ⟨row₃, names₂, status₂⟩
  have sent := comparison_isDiff e.checksum status.compared
  have next := comparison_isDiff e.checksum status₂.compared
  rw [← status.diff] at sent
  rw [← status₂.diff, repoName] at next
  have arrived : d.receiver (clientDirectory p₂) (fsDirectory p₂ row.repoName) =
      mirrored d first (d.sender (clientDirectory p) (fsDirectory p row.repoName))
        (d.receiver (clientDirectory p) (fsDirectory p row.repoName)) := by
    rw [receiver_contents, contents_mirrored mirrors, sender_contents, receiver_contents]
  have same : d.sender (clientDirectory p₂) (fsDirectory p₂ row.repoName) =
      d.sender (clientDirectory p) (fsDirectory p row.repoName) := by
    rw [sender_contents, sender, sender_contents]
  have last := status₂.undisturbed
  refine .value ⟨fun file member => ?_, ?_, fun file member clean => ?_⟩
  · exact Direction.selects_eq_false.mp (next_selects_none sent next same arrived file member)
  · rw [last.clientFiles, last.fsFiles, sender]
  · rw [last.clientFiles, last.fsFiles]
    exact unselected_kept mirrors sent member (Direction.not_selects clean)

/-- While nothing quits the main loop the three calls do not even return. Where it is quit and nothing
overflows, they converge exactly when the freed arrays and the dead frames do no harm. -/
theorem sync_converges_iff (d : Direction) {calls : SyncCalls} (lossless : J.Lossless)
    (ready : Ready J e p row) (session : e.sySession.localRepoPath = localRepoPath)
    (sound : calls.Sound J p all) (regular : Regular p row.repoName all)
    (fits : sync J d e calls p ≠ .error .overflow) :
    (e.platform.quitsLoop = false → ∀ result, sync J d e calls p ≠ .ok result) ∧
      (Textual J e.checksum p row.repoName →
        ((∃ result, sync J d e calls p = .ok result ∧ Converged d p row.repoName result) ↔
          e.platform.quitsLoop = true ∧ e.platform.Carries)) := by
  constructor
  · intro stays result returned
    obtain ⟨_, _, quits⟩ := sync_run returned
    rw [stays] at quits
    cases quits
  · intro textual
    constructor
    · rintro ⟨result, returned, _⟩
      obtain ⟨_, carries, quits⟩ := sync_run returned
      exact ⟨quits, carries⟩
    · rintro ⟨quits, carries⟩
      refine (sync_yields lossless carries quits ready session sound regular textual).result ?_
      rintro _ rfl
      exact fits

def filesAt (directory : Bytes) (stored : List (CString × Bytes)) : Files :=
  fun path => (stored.find? fun file => directory ++ file.1.val = path).map Prod.snd

def readAll (all : List CString) (files : Files) (directory : Bytes) : List CString :=
  all.filter fun name => (contents files directory name).isSome

theorem filesAt_held {stored : List (CString × Bytes)} {content : Bytes}
    (there : contents (filesAt directory stored) directory name = some content) :
    (name, content) ∈ stored := by
  obtain ⟨⟨other, _⟩, found, rfl⟩ := Option.map_eq_some_iff.mp (contents_some there)
  have path : directory ++ other.val = directory ++ name.val := by simpa using List.find?_some found
  obtain rfl : other = name := Subtype.ext (List.append_cancel_left path)
  exact List.mem_of_find?_eq_some found

theorem readAll_reads (distinct : all.Nodup) : Reads all (readAll all) := by
  intro files directory named
  refine ⟨distinct.filter _, fun name => ⟨fun member => ?_, fun there => ?_⟩⟩
  · have listed := List.mem_of_mem_filter member
    simpa using List.of_mem_filter listed
  · obtain ⟨content, some⟩ := Option.isSome_iff_exists.mp there
    have ordinary : name ≠ dot ∧ name ≠ dotDot := by
      rw [contents] at some
      split_ifs at some with special
      exact not_or.mp special
    simp [readAll, realNames, ordinary, there, named name content some]

def sampleRow : SessionRow where
  sessionId := CString.literal "session"
  clientWsi := 2
  fileserverWsi := 1
  repoName := CString.literal "repo"
  state := .syConnect
  files := .array []
  diff := .array []

def sampleParties (clientStored fsStored : List (CString × Bytes)) : Parties where
  metadataServer :=
    { Loop.start { Db.empty .inOrder with session := [sampleRow] } with isOpen := fun wsi => wsi = 1 }
  fileServer := { Loop.start { transfers := [] } with isOpen := fun wsi => wsi = 1 }
  clientFiles := filesAt localRepoPath.val clientStored
  fsFiles := filesAt (repoDirectory sampleRow.repoName) fsStored

theorem sampleOid_length : (CString.literal "000000000000000000000001").val.length = 24 := by
  decide +kernel

def sampleSetting : Setting where
  sySession := { sessionId := sampleRow.sessionId, localRepoPath }
  checksum := fun content => ⟨cText (120 :: content.take 1), cText_nulFree _⟩
  fileserver := { server := 1, own := 1 }
  oid := ⟨CString.literal "000000000000000000000001", sampleOid_length⟩
  platform := { freedTwice := true, keepsFrames := true, quitsLoop := true, poolThreads := 4 }

def sampleCalls (all : List CString) : SyncCalls where
  first :=
    { client := { server := 2, own := 1 }, clientReaddir := readAll all, fsReaddir := readAll all }
  transfer :=
    { client := { server := 3, own := 1 }
      clientSdp := CString.literal "offer"
      clientCandidates := CString.literal "candidate"
      fsSdp := CString.literal "answer"
      fsCandidates := CString.literal "candidate" }
  second :=
    { client := { server := 4, own := 1 }, clientReaddir := readAll all, fsReaddir := readAll all }

def stopsWith {α : Type} (fault : Fault) : Except Fault α → Bool
  | .error stopped => stopped = fault
  | .ok _ => false

theorem not_stopsWith {α : Type} {fault : Fault} {x : Except Fault α}
    (goes : stopsWith fault x = false) : x ≠ .error fault := by
  rintro rfl
  simp [stopsWith] at goes

theorem sample_accepted :
    Jansson.canonical.accepts sampleSetting.sySession.sessionId = true ∧
    Jansson.canonical.accepts sampleRow.repoName = true ∧
    Jansson.canonical.accepts (CString.literal "offer") = true ∧
    Jansson.canonical.accepts (CString.literal "answer") = true ∧
    Jansson.canonical.accepts (CString.literal "candidate") = true := by
  decide +kernel

theorem sample_ready (platform : Platform) (clientStored fsStored : List (CString × Bytes)) :
    Ready Jansson.canonical { sampleSetting with platform } (sampleParties clientStored fsStored)
      sampleRow where
  found := findSession_first rfl rfl
  fileserver := rfl
  registered := rfl
  running := rfl
  sessionId := sample_accepted.1
  repoName := sample_accepted.2.1

theorem sample_sound (clientStored fsStored : List (CString × Bytes)) (distinct : all.Nodup) :
    (sampleCalls all).Sound Jansson.canonical (sampleParties clientStored fsStored) all where
  first := ⟨(by decide : (2 : Wsi) ≠ Wsi.null), rfl, (by decide : Survives 2)⟩
  transfer := ⟨(by decide : (3 : Wsi) ≠ Wsi.null), rfl, (by decide : Survives 3)⟩
  second := ⟨(by decide : (4 : Wsi) ≠ Wsi.null), rfl, (by decide : Survives 4)⟩
  carried := by
    obtain ⟨_, _, offer, answer, candidate⟩ := sample_accepted
    exact ⟨offer, candidate, answer, candidate⟩
  readFirst := ⟨readAll_reads distinct, readAll_reads distinct⟩
  readSecond := ⟨readAll_reads distinct, readAll_reads distinct⟩

theorem sample_held {clientStored fsStored : List (CString × Bytes)} {content : Bytes}
    (held : Held (sampleParties clientStored fsStored) sampleRow.repoName name content) :
    (name, content) ∈ clientStored ++ fsStored := by
  rcases held with there | there
  · exact List.mem_append_left _ (filesAt_held there)
  · exact List.mem_append_right _ (filesAt_held there)

theorem sample_regular {clientStored fsStored : List (CString × Bytes)}
    (nulFree : ∀ file ∈ clientStored ++ fsStored, 0 ∉ file.2)
    (pieces : ∀ file ∈ clientStored ++ fsStored, (piecesOf file.2).length < 2147483648)
    (named : ∀ file ∈ clientStored ++ fsStored, file.1 ∈ all)
    (short : ∀ name ∈ all, name.val.length < fileNameSize)
    (fits : ∀ name ∈ all,
      (repoDirectory sampleRow.repoName).length + name.val.length < localPathSize)
    (few : all.length < 256) :
    Regular (sampleParties clientStored fsStored) sampleRow.repoName all where
  text _ _ held := ⟨nulFree _ (sample_held held), pieces _ (sample_held held)⟩
  named _ _ held := named _ (sample_held held)
  short := short
  fits := fits
  few := few

def clientStored : List (CString × Bytes) :=
  [(CString.literal "notes", [110, 101, 119, 10, 33]), (CString.literal "mine", [109])]

def fsStored : List (CString × Bytes) :=
  [(CString.literal "notes", [111, 108, 100]), (CString.literal "theirs", [])]

def storedNames : List CString :=
  [CString.literal "notes", CString.literal "mine", CString.literal "theirs"]

theorem storedNames_checked : storedNames.Nodup ∧
    (∀ name ∈ storedNames, name.val.length < fileNameSize ∧
      (repoDirectory sampleRow.repoName).length + name.val.length < localPathSize) := by
  decide +kernel

theorem stored_checked : ∀ file ∈ clientStored ++ fsStored, file.1 ∈ storedNames ∧
    Jansson.canonical.accepts file.1 = true ∧
      Jansson.canonical.accepts (sampleSetting.checksum file.2) = true := by
  decide +kernel

theorem stored_nulFree : ∀ file ∈ clientStored ++ fsStored, 0 ∉ file.2 := by decide

theorem stored_pieces : ∀ file ∈ clientStored ++ fsStored,
    (piecesOf file.2).length < 2147483648 := by
  decide

theorem stored_regular :
    Regular (sampleParties clientStored fsStored) sampleRow.repoName storedNames :=
  sample_regular stored_nulFree stored_pieces (fun file there => (stored_checked file there).1)
    (fun name there => (storedNames_checked.2 name there).1)
    (fun name there => (storedNames_checked.2 name there).2) (by decide)

theorem stored_textual : Textual Jansson.canonical sampleSetting.checksum
    (sampleParties clientStored fsStored) sampleRow.repoName :=
  fun _ _ held => (stored_checked _ (sample_held held)).2

def asBuiltSetting : Setting :=
  { sampleSetting with platform := .asBuilt true true 4 }

theorem stored_stays (d : Direction) : stopsWith .noReturn (sync Jansson.canonical d asBuiltSetting
    (sampleCalls storedNames) (sampleParties clientStored fsStored)) = true := by
  cases d <;> decide +kernel

theorem stopsWith_other {α : Type} {fault other : Fault} {x : Except Fault α}
    (stops : stopsWith fault x = true) (different : fault ≠ other) : x ≠ .error other := by
  rintro rfl
  simp [stopsWith, different.symm] at stops

theorem directories_converge :
    (∀ d, ∃ result, sync Jansson.canonical d sampleSetting (sampleCalls storedNames)
        (sampleParties clientStored fsStored) = .ok result ∧
      Converged d (sampleParties clientStored fsStored) sampleRow.repoName result) ∧
    ∀ d result, sync Jansson.canonical d asBuiltSetting (sampleCalls storedNames)
      (sampleParties clientStored fsStored) ≠ .ok result := by
  have sound := sample_sound clientStored fsStored storedNames_checked.1
  have fits : ∀ d, sync Jansson.canonical d sampleSetting (sampleCalls storedNames)
      (sampleParties clientStored fsStored) ≠ .error .overflow := by
    intro d
    refine not_stopsWith ?_
    cases d <;> decide +kernel
  constructor
  · intro d
    have converge := (sync_converges_iff d Jansson.canonical_lossless
      (sample_ready sampleSetting.platform _ _) rfl sound stored_regular (fits d)).2
    exact (converge stored_textual).mpr ⟨rfl, rfl, rfl⟩
  · intro d
    exact (sync_converges_iff d Jansson.canonical_lossless (sample_ready (.asBuilt true true 4) _ _) rfl
      sound stored_regular (stopsWith_other (stored_stays d) (by decide))).1 rfl

def SyncLaw (platform : Platform) : Prop :=
  ∀ (d : Direction) (J : Jansson) (e : Setting) (p : Parties) (row : SessionRow)
    (calls : SyncCalls) (all : List CString), J.Lossless → e.platform = platform →
    (∀ content, e.checksum content ≠ CString.empty) → Ready J e p row →
    e.sySession.localRepoPath = localRepoPath → calls.Sound J p all →
    Regular p row.repoName all → sync J d e calls p ≠ .error .overflow →
    ∃ result, sync J d e calls p = .ok result ∧ Converged d p row.repoName result

-- A name that is no UTF-8.
def latinName : CString := ⟨[255], by decide⟩

theorem sample_checksum (content : Bytes) : sampleSetting.checksum content ≠ CString.empty := by
  intro empty
  have text := congrArg Subtype.val empty
  simp [sampleSetting, cText, CString.empty] at text

theorem upload_stays : ¬ SyncLaw (.asBuilt true true 4) ∧ ¬ SyncLaw sampleSetting.platform := by
  constructor
  · intro law
    have sound := sample_sound clientStored fsStored storedNames_checked.1
    have stays := stored_stays .upload
    obtain ⟨result, returned, _⟩ := law .upload Jansson.canonical asBuiltSetting _ sampleRow _
      storedNames Jansson.canonical_lossless rfl sample_checksum
      (sample_ready (.asBuilt true true 4) _ _) rfl sound stored_regular
      (stopsWith_other stays (by decide))
    rw [returned] at stays
    cases stays
  · intro law
    let fsFile : List (CString × Bytes) := [(latinName, [])]
    let clientFile : List (CString × Bytes) := [(CString.literal "mine", [])]
    let all : List CString := [latinName, CString.literal "mine"]
    have regular : Regular (sampleParties clientFile fsFile) sampleRow.repoName all :=
      sample_regular (by decide) (by decide) (by decide +kernel) (by decide +kernel)
        (by decide +kernel) (by decide)
    have stops : stopsWith .nullPointer (sync Jansson.canonical .upload sampleSetting
        (sampleCalls all) (sampleParties clientFile fsFile)) = true := by decide +kernel
    have sound := sample_sound clientFile fsFile (by decide +kernel : all.Nodup)
    obtain ⟨result, returned, _⟩ := law .upload Jansson.canonical sampleSetting _ sampleRow _ all
      Jansson.canonical_lossless rfl sample_checksum (sample_ready sampleSetting.platform _ _) rfl
      sound regular (stopsWith_other stops (by decide))
    rw [returned] at stops
    cases stops

end Librtcdc.Metadata
