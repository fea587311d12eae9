import Librtcdc.Metadata.Classification
import Librtcdc.Metadata.Convergence
import Librtcdc.Shared.JsonSize

set_option autoImplicit false

namespace Librtcdc.Metadata

open Systems Sync
open Classification (digest)

def sentMessage {Store : Type} (served : Served Store) : Except Fault Message :=
  match served.sent with
  | some m => .ok m
  | none => .error .noAnswer

def statusPath (J : Jansson) (e : Setting) (call : StatusCall) (p : Parties) :
    Except Fault CString := do
  let request ← syStatusRequest J call.client.own e.sySession (genMd5 e.checksum p.clientFiles)
    fun path => some (call.clientReaddir p.clientFiles path)
  let served ← callbackSdpReceive J p.metadataServer.store call.client.server
    { dataStr := request.data, oid := e.oid }
  let forwarded ← sentMessage served
  let fs ← callbackFileserverReceive J p.fileServer.store e.fileserver.own
    ((statusAnswers e call p).received forwarded.data)
  let replied ← sentMessage fs
  let served ← callbackSdpReceive J served.store e.fileserver.server
    { dataStr := replied.data, oid := e.oid }
  let answer ← sentMessage served
  let data ← callbackClientReceive J request.writeData answer.data
  return data.data

variable {J : Jansson} {e : Setting} {p : Parties} {row : SessionRow} {call : StatusCall}

theorem sentMessage_some {Store : Type} {served : Served Store} {m : Message}
    (sent : served.sent = some m) : sentMessage served = .ok m := by
  rw [sentMessage, sent]

theorem statusPath_fits (lossless : J.Lossless) (travels : Travels J e p row call) :
    Fills (call.Fits J e p row) (statusPath J e call p)
      (· = J.dumps (filesBody .syStatusOk e.sySession.sessionId (call.rows e p row.repoName))) := by
  have loaded := lossless _ travels.answer_holds
  have clientHolds := travels.client_holds
  have fsHolds := travels.fs_holds
  obtain ⟨found, id, repoName, session, clientLists, fsLists, clientCarried, fsCarried⟩ := travels
  unfold statusPath
  refine ReturnsIff.congr ?_ StatusCall.fits_steps
  refine (syStatusRequest_fits session rfl clientCarried clientLists).bind fun request made => ?_
  subst made
  refine (status_forwarded lossless found id clientHolds).bind fun asked outcome => ?_
  obtain ⟨m₁, sent₁, _, data₁, found₁⟩ := outcome
  rw [sentMessage_some sent₁, ok_bind]
  refine (status_replied lossless id repoName data₁ rfl rfl (carried_entries fsCarried fsLists)
    (listed_entries fsLists)).bind fun replied outcome => ?_
  obtain ⟨m₂, sent₂, _, data₂, _⟩ := outcome
  rw [sentMessage_some sent₂, ok_bind, data₂]
  refine (status_returned lossless found₁ id rfl clientHolds fsHolds (fsLists.distinct.filter _)
    (clientLists.distinct.filter _) (fun name => unlisted_empty fsLists)
    (fun name => unlisted_empty clientLists)).bind fun answered outcome => ?_
  obtain ⟨m₃, sent₃, _, data₃, _⟩ := outcome
  rw [sentMessage_some sent₃, ok_bind, data₃]
  exact (callbackClientReceive_fits loaded rfl).then fun data kept => kept.2

theorem exchange_overflows_iff (lossless : J.Lossless) (asks : Asks J e p row call) :
    statusExchange J e call p = .error .overflow ↔ statusPath J e call p = .error .overflow := by
  rw [(statusExchange_fits lossless asks).error_iff,
    (statusPath_fits lossless asks.toTravels).error_iff]

def listingSize (key : String) (checksum : Bytes → CString) (directory : CString → Option Bytes)
    (names : List CString) : Nat :=
  (names.map fun name =>
    name.size + (checksumOf checksum (directory name)).size + keySize key + 20).sum

def diffSize (names : List CString) : Nat :=
  (names.map fun name => name.size + 28).sum

theorem entry_size (key : String) (name checksum : CString) :
    (entry key name checksum).size = name.size + checksum.size + keySize key + 18 := by
  have filename : keySize "filename" = 10 := by decide
  simp only [entry, Json.size_object, List.map_cons, List.map_nil, List.sum_cons, List.sum_nil,
    fieldSize, filename, Json.size_string]
  omega

theorem diffEntry_size (name : CString) (dirty : FileStatus) :
    (diffEntry name dirty).size = name.size + 26 := by
  have filename : keySize "filename" = 10 := by decide
  have dirtyKey : keySize "dirty" = 7 := by decide
  have digit : (Json.integer dirty.code).size = 1 := by cases dirty <;> decide
  simp only [diffEntry, Json.size_object, List.map_cons, List.map_nil, List.sum_cons,
    List.sum_nil, fieldSize, filename, dirtyKey, Json.size_string, digit]
  omega

theorem filesBody_size (type : MetadataType) (sessionId : CString) (files : List Json) :
    (filesBody type sessionId files).size =
      (Json.integer type.code).size + sessionId.size + (Json.array files).size + 46 := by
  have typeKey : keySize "metadata_type" = 15 := by decide
  have idKey : keySize "session_id" = 12 := by decide
  have filesKey : keySize "files" = 7 := by decide
  simp only [filesBody, object, Json.size_object, List.map_cons, List.map_nil, List.sum_cons,
    List.sum_nil, fieldSize, typeKey, idKey, filesKey, Json.size_string]
  omega

theorem repoBody_size (sessionId repoName : CString) :
    (repoBody sessionId repoName).size = sessionId.size + repoName.size + 52 := by
  have typeKey : keySize "metadata_type" = 15 := by decide
  have idKey : keySize "session_id" = 12 := by decide
  have nameKey : keySize "repo_name" = 11 := by decide
  have code : (Json.integer MetadataType.syStatus.code).size = 2 := by decide
  simp only [repoBody, object, Json.size_object, List.map_cons, List.map_nil, List.sum_cons,
    List.sum_nil, fieldSize, typeKey, idKey, nameKey, Json.size_string, code]
  omega

theorem listing_size (checksum : Bytes → CString) (key : String) (files : Files)
    (directory : Bytes) (entries : List CString) :
    (Json.array (listing checksum key files directory entries)).size =
      max 2 (listingSize key checksum (contents files directory) (realNames entries)) := by
  rw [Json.size_array, listing, listingSize, List.map_map]
  simp only [Function.comp_def, entry_size]

theorem rows_size (checksum : Bytes → CString) (client fs : CString → Option Bytes)
    (names : List CString) :
    (Json.array (comparisonRows checksum client fs names)).size = max 2 (diffSize names) := by
  rw [Json.size_array, comparisonRows, diffSize, List.map_map]
  simp only [Function.comp_def, diffEntry_size]

def StatusCall.clientNames (call : StatusCall) (p : Parties) : List CString :=
  realNames (call.clientReaddir p.clientFiles localRepoPath.val)

def StatusCall.fsNames (call : StatusCall) (p : Parties) (repoName : CString) : List CString :=
  realNames (call.fsReaddir p.fsFiles (repoDirectory repoName))

structure Capacity (J : Jansson) (e : Setting) (p : Parties) (row : SessionRow)
    (call : StatusCall) : Prop where
  -- what earlier calls have left in the session
  stored : row.Fits J
  clientPaths : ∀ name ∈ call.clientNames p,
    localRepoPath.val.length + name.val.length < filePathSize
  clientListing : listingSize "client_checksum" e.checksum (clientDirectory p)
    (call.clientNames p) < dataSize
  fsPaths : ∀ name ∈ call.fsNames p row.repoName,
    (repoDirectory row.repoName).length + name.val.length < filePathSize
  fsListing : e.sySession.sessionId.size + listingSize "fs_checksum" e.checksum
    (fsDirectory p row.repoName) (call.fsNames p row.repoName) + 47 < writeDataSize
  diff : e.sySession.sessionId.size + diffSize (call.allNames p row.repoName) + 48 < writeDataSize

theorem client_array_size (e : Setting) (p : Parties) (call : StatusCall) :
    (Json.array (call.clientListing e p)).size = max 2 (listingSize "client_checksum" e.checksum
      (clientDirectory p) (call.clientNames p)) :=
  listing_size ..

theorem fs_array_size (e : Setting) (p : Parties) (call : StatusCall) (repoName : CString) :
    (Json.array (call.fsListing e p repoName)).size = max 2 (listingSize "fs_checksum" e.checksum
      (fsDirectory p repoName) (call.fsNames p repoName)) :=
  listing_size ..

variable (prints : J.Prints) (travels : Travels J e p row call)
include prints travels

theorem stored_length : (J.dumps (.array (call.clientListing e p))).val.length =
    max 2 (listingSize "client_checksum" e.checksum (clientDirectory p) (call.clientNames p)) := by
  rw [prints.length (.array travels.client_holds), client_array_size]

theorem request_length :
    (J.dumps (filesBody .syStatus e.sySession.sessionId (call.clientListing e p))).val.length =
      e.sySession.sessionId.size + max 2 (listingSize "client_checksum" e.checksum
        (clientDirectory p) (call.clientNames p)) + 48 := by
  have code : (Json.integer MetadataType.syStatus.code).size = 2 := by decide
  rw [prints.length (holds_filesBody travels.sessionId travels.client_holds), filesBody_size, code,
    client_array_size]
  omega

theorem forwarded_length :
    (J.dumps (repoBody e.sySession.sessionId row.repoName)).val.length =
      e.sySession.sessionId.size + row.repoName.size + 52 := by
  rw [prints.length (holds_repoBody travels.sessionId travels.repoName), repoBody_size]

theorem replied_length :
    (J.dumps (filesBody .fsStatusOk e.sySession.sessionId
      (call.fsListing e p row.repoName))).val.length =
      e.sySession.sessionId.size + max 2 (listingSize "fs_checksum" e.checksum
        (fsDirectory p row.repoName) (call.fsNames p row.repoName)) + 47 := by
  have code : (Json.integer MetadataType.fsStatusOk.code).size = 1 := by decide
  rw [prints.length (holds_filesBody travels.sessionId travels.fs_holds), filesBody_size, code,
    fs_array_size]
  omega

theorem answer_length :
    (J.dumps (filesBody .syStatusOk e.sySession.sessionId (call.rows e p row.repoName))).val.length =
      e.sySession.sessionId.size + max 2 (diffSize (call.allNames p row.repoName)) + 48 := by
  have code : (Json.integer MetadataType.syStatusOk.code).size = 2 := by decide
  have array : (Json.array (call.rows e p row.repoName)).size =
    max 2 (diffSize (call.allNames p row.repoName)) := rows_size ..
  rw [prints.length travels.answer_holds, filesBody_size, code, array]
  omega

omit prints in
theorem id_size_le (stored : row.Fits J) : e.sySession.sessionId.size ≤ 188 := by
  have same : row.sessionId = e.sySession.sessionId := findSession_named travels.found
  have size := e.sySession.sessionId.size_le
  have short : e.sySession.sessionId.val.length < 32 := same ▸ stored.sessionId
  omega

theorem fits_iff_capacity : call.Fits J e p row ↔ Capacity J e p row call := by
  have stored := stored_length prints travels
  have request := request_length prints travels
  have forwarded := forwarded_length prints travels
  have replied := replied_length prints travels
  have answer := answer_length prints travels
  constructor
  · intro fits
    refine ⟨fits.stored, ?_, ?_, ?_, ?_, ?_⟩
    · simpa [StatusCall.clientNames] using fits.clientPaths
    · have asked := fits.asked.files
      rw [SessionRow.asked, stored] at asked
      omega
    · simpa [StatusCall.fsNames] using fits.fsPaths
    · have short := fits.replied
      rw [Short, replied] at short
      omega
    · have short := fits.answer
      rw [Short, answer] at short
      omega
  · rintro ⟨kept, clientPaths, clientListing, fsPaths, fsListing, diff⟩
    have id := id_size_le travels kept
    have name := row.repoName.size_le
    have repoName := kept.repoName
    have warehouse : warehousePath.val.length = 23 := by decide +kernel
    simp only [dataSize, writeDataSize, repoNameSize] at *
    exact
      { clientPaths := by simpa [StatusCall.clientNames] using clientPaths
        request := by rw [Short, request, writeDataSize]; omega
        stored := kept
        forwarded := by rw [Short, forwarded, writeDataSize]; omega
        repoPath := by rw [List.length_append, warehouse, filePathSize]; omega
        fsPaths := by simpa [StatusCall.fsNames] using fsPaths
        replied := by rw [Short, replied, writeDataSize]; omega
        asked :=
          { repoName := kept.repoName
            files := by rw [SessionRow.asked, stored, dataSize]; omega
            diff := kept.diff
            sessionId := kept.sessionId }
        answer := by rw [Short, answer, writeDataSize]; omega }

omit prints travels

/-- The texts of a status call fit their buffers exactly when these sums do, and what the client
copies of the answer does when the names are short as well. -/
theorem status_fits_iff (lossless : J.Lossless) (prints : J.Prints)
    (travels : Travels J e p row call) :
    (statusPath J e call p ≠ .error .overflow ↔ Capacity J e p row call) ∧
    (statusPath J e call p >>= syStatusDiff J ≠ .error .overflow ↔
      Capacity J e p row call ∧
        ∀ name ∈ call.allNames p row.repoName, name.val.length < fileNameSize) := by
  have path := statusPath_fits lossless travels
  have whole : Fills (call.Fits J e p row ∧
      ∀ name ∈ call.allNames p row.repoName, name.val.length < fileNameSize)
      (statusPath J e call p >>= syStatusDiff J) fun _ => True := by
    refine path.bind fun answer same => ?_
    subst same
    exact (syStatusDiff_fits (lossless _ travels.answer_holds) rfl).weaken fun _ _ => trivial
  rw [Ne, path.error_iff, not_not, Ne, whole.error_iff, not_not, fits_iff_capacity prints travels]
  exact ⟨Iff.rfl, Iff.rfl⟩

def digestSetting : Setting :=
  { sampleSetting with checksum := fun _ => digest }

def numberedStored (count : Nat) : List (CString × Bytes) :=
  (Classification.numbered count).map fun name => (name, [])

theorem sample_travels {clientStored fsStored : List (CString × Bytes)} {all : List CString}
    (distinct : all.Nodup) (named : ∀ file ∈ clientStored ++ fsStored, file.1 ∈ all)
    (accepted : ∀ name ∈ all, Jansson.canonical.accepts name = true) :
    Travels Jansson.canonical digestSetting (sampleParties clientStored fsStored) sampleRow
      (sampleCalls all).first := by
  have listed {name : CString} {content : Bytes}
      (held : Held (sampleParties clientStored fsStored) sampleRow.repoName name content) :
      name ∈ all := named _ (sample_held held)
  have hex : Jansson.canonical.accepts digest = true := by decide +kernel
  exact
    { found := findSession_first rfl rfl
      sessionId := by decide +kernel
      repoName := by decide +kernel
      session := rfl
      clientLists := readAll_reads distinct _ _ fun _ _ there => listed (.inl there)
      fsLists := readAll_reads distinct _ _ fun _ _ there => listed (.inr there)
      clientCarried := fun _ _ there => ⟨accepted _ (listed (.inl there)), hex⟩
      fsCarried := fun _ _ there => ⟨accepted _ (listed (.inr there)), hex⟩ }

theorem three_files_fit :
    statusPath Jansson.canonical digestSetting (sampleCalls storedNames).first
        (sampleParties clientStored fsStored) ≠ .error .overflow := by
  have travels := sample_travels storedNames_checked.1
    (fun file there => (stored_checked file there).1) (by decide +kernel)
  refine (status_fits_iff Jansson.canonical_lossless Jansson.canonical_prints travels).1.mpr ?_
  exact
    { stored := ⟨by decide +kernel, by decide +kernel, by decide +kernel, by decide +kernel⟩
      clientPaths := by decide +kernel
      clientListing := by decide +kernel
      fsPaths := by decide +kernel
      fsListing := by decide +kernel
      diff := by decide +kernel }

def CapacityLaw : Prop :=
  ∀ (J : Jansson) (e : Setting) (p : Parties) (row : SessionRow) (call : StatusCall),
    J.Lossless → J.Prints → Travels J e p row call → statusPath J e call p ≠ .error .overflow

theorem fourteen_files_overrun : ¬ CapacityLaw := by
  intro law
  have travels : Travels Jansson.canonical digestSetting (sampleParties (numberedStored 14) [])
      sampleRow (sampleCalls (Classification.numbered 14)).first :=
    sample_travels (by decide +kernel) (by decide +kernel) (by decide +kernel)
  refine law _ _ _ _ _ Jansson.canonical_lossless Jansson.canonical_prints travels ?_
  refine (statusPath_fits Jansson.canonical_lossless travels).error_iff.mpr fun fits => ?_
  have capacity := (fits_iff_capacity Jansson.canonical_prints travels).mp fits
  exact absurd capacity.clientListing (by decide +kernel)

end Librtcdc.Metadata
