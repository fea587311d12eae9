import Librtcdc.Metadata.Answers
import Librtcdc.Shared.Text

set_option autoImplicit false

namespace Librtcdc.Metadata.Classification

open Systems Sync

structure Listing where
  files : List (CString × CString)
  distinct : (files.map Prod.fst).Nodup
  checksums : ∀ file ∈ files, file.2 ≠ CString.empty

def Listing.names (listing : Listing) : List CString :=
  listing.files.map Prod.fst

def Listing.checksum (listing : Listing) (name : CString) : CString :=
  (listing.files.lookup name).getD CString.empty

def Listing.Stands (listing : Listing) (key : String) (elements : List Json) : Prop :=
  List.Forall₂ (fun element file => Reports key element file.1 file.2) elements listing.files

-- One entry for each file of either listing, with the status that says who has it.
structure Classified (client fs : Listing) (diff : List (CString × FileStatus)) : Prop where
  once : (diff.map Prod.fst).Nodup
  union : ∀ name, name ∈ diff.map Prod.fst ↔ name ∈ client.names ∨ name ∈ fs.names
  clean : ∀ name status, (name, status) ∈ diff → (status = .fileClean ↔
    ∃ checksum, (name, checksum) ∈ client.files ∧ (name, checksum) ∈ fs.files)
  dirty : ∀ name status, (name, status) ∈ diff → (status = .fileDirty ↔
    ∃ old new, (name, old) ∈ client.files ∧ (name, new) ∈ fs.files ∧ old ≠ new)
  clientLack : ∀ name status, (name, status) ∈ diff → (status = .fileClientLack ↔
    name ∈ fs.names ∧ name ∉ client.names)
  fsLack : ∀ name status, (name, status) ∈ diff → (status = .fileFsLack ↔
    name ∈ client.names ∧ name ∉ fs.names)

def statusOf (client fs : Listing) (name : CString) : FileStatus :=
  match client.files.lookup name, fs.files.lookup name with
  | some old, some new => if old = new then .fileClean else .fileDirty
  | some _, none => .fileFsLack
  | none, _ => .fileClientLack

def classify (client fs : Listing) : List (CString × FileStatus) :=
  (joinedNames fs.names client.names).map fun name => (name, statusOf client fs name)

def diffArray (diff : List (CString × FileStatus)) : List Json :=
  diff.map fun file => diffEntry file.1 file.2

variable {client fs listing : Listing} {name checksum : CString} {elements : List Json}

theorem Listing.lookup_some :
    listing.files.lookup name = some checksum ↔ (name, checksum) ∈ listing.files :=
  lookup_eq_some_mem listing.distinct

theorem Listing.lookup_none : listing.files.lookup name = none ↔ name ∉ listing.names := by
  rw [List.lookup_eq_none_iff, Listing.names, List.mem_map]
  constructor
  · rintro absent ⟨file, member, rfl⟩
    simpa using absent file member
  · intro absent file member
    simpa using fun same => absent ⟨file, member, same.symm⟩

theorem Listing.mem_names : name ∈ listing.names ↔ listing.files.lookup name ≠ none := by
  rw [ne_eq, Listing.lookup_none, not_not]

theorem Listing.checksum_mem (member : (name, checksum) ∈ listing.files) :
    listing.checksum name = checksum := by
  rw [Listing.checksum, Listing.lookup_some.mpr member]
  rfl

theorem Listing.checksum_absent (absent : name ∉ listing.names) :
    listing.checksum name = CString.empty := by
  rw [Listing.checksum, Listing.lookup_none.mpr absent]
  rfl

theorem Listing.Stands.reports {key : String} (stands : listing.Stands key elements) :
    ReportsAll key listing.checksum elements listing.names := by
  obtain ⟨length, each⟩ := List.forall₂_iff_zip.mp stands
  rw [Listing.names, ReportsAll, List.forall₂_map_right_iff, List.forall₂_iff_zip]
  refine ⟨length, fun {element file} together => ?_⟩
  have member : (file.1, file.2) ∈ listing.files := (List.of_mem_zip together).2
  rw [Listing.checksum_mem member]
  exact each together

theorem Listing.checksum_nonempty (member : (name, checksum) ∈ listing.files) :
    checksum ≠ CString.empty :=
  listing.checksums _ member

theorem fileStatus_statusOf (listed : name ∈ fs.names ∨ name ∈ client.names) :
    fileStatus (client.checksum name) (fs.checksum name) = statusOf client fs name := by
  unfold fileStatus statusOf Listing.checksum
  cases old : client.files.lookup name with
  | none =>
      cases new : fs.files.lookup name with
      | none =>
          exact absurd listed (not_or.mpr ⟨Listing.lookup_none.mp new, Listing.lookup_none.mp old⟩)
      | some second =>
          have there := Listing.checksum_nonempty (Listing.lookup_some.mp new)
          simp [there.symm]
  | some first =>
      have here := Listing.checksum_nonempty (Listing.lookup_some.mp old)
      cases new : fs.files.lookup name with
      | none => simp [here]
      | some second =>
          have there := Listing.checksum_nonempty (Listing.lookup_some.mp new)
          simp [here, there]

theorem diffOf_classify :
    diffOf client.checksum fs.checksum fs.names client.names = diffArray (classify client fs) := by
  rw [diffOf, diffArray, classify, List.map_map]
  refine List.map_congr_left fun name member => ?_
  rw [fileStatus_statusOf (mem_joinedNames.mp member)]
  rfl

theorem classify_names : (classify client fs).map Prod.fst = joinedNames fs.names client.names := by
  rw [classify, List.map_map]
  exact List.map_id _

theorem statusOf_clean :
    statusOf client fs name = .fileClean ↔
      ∃ checksum, (name, checksum) ∈ client.files ∧ (name, checksum) ∈ fs.files := by
  simp only [← Listing.lookup_some, statusOf]
  cases client.files.lookup name <;> cases fs.files.lookup name <;> simp [eq_comm]

theorem statusOf_dirty :
    statusOf client fs name = .fileDirty ↔
      ∃ old new, (name, old) ∈ client.files ∧ (name, new) ∈ fs.files ∧ old ≠ new := by
  simp only [← Listing.lookup_some, statusOf]
  cases client.files.lookup name <;> cases fs.files.lookup name <;> simp

theorem statusOf_fsLack :
    statusOf client fs name = .fileFsLack ↔ name ∈ client.names ∧ name ∉ fs.names := by
  rw [Listing.mem_names, ← Listing.lookup_none, statusOf]
  cases client.files.lookup name <;> cases fs.files.lookup name <;> simp [ite_eq_iff]

theorem statusOf_clientLack (listed : name ∈ fs.names ∨ name ∈ client.names) :
    statusOf client fs name = .fileClientLack ↔ name ∈ fs.names ∧ name ∉ client.names := by
  rw [Listing.mem_names, Listing.mem_names] at listed
  rw [Listing.mem_names, ← Listing.lookup_none, statusOf]
  cases old : client.files.lookup name <;> cases new : fs.files.lookup name <;>
    simp_all [ite_eq_iff]

theorem classify_classified (client fs : Listing) : Classified client fs (classify client fs) := by
  have each {name : CString} {status : FileStatus} (member : (name, status) ∈ classify client fs) :
      (name ∈ fs.names ∨ name ∈ client.names) ∧ status = statusOf client fs name := by
    obtain ⟨_, listed, same⟩ := List.mem_map.mp member
    obtain ⟨rfl, rfl⟩ := Prod.mk.inj same
    exact ⟨mem_joinedNames.mp listed, rfl⟩
  constructor
  · rw [classify_names]
    exact joinedNames_nodup fs.distinct client.distinct
  · intro name
    rw [classify_names, mem_joinedNames]
    exact or_comm
  · intro name status member
    rw [(each member).2, statusOf_clean]
  · intro name status member
    rw [(each member).2, statusOf_dirty]
  · intro name status member
    rw [(each member).2, statusOf_clientLack (each member).1]
  · intro name status member
    rw [(each member).2, statusOf_fsLack]

def Classifies (J : Jansson) (db : Db) (row : SessionRow) (recvd : Json) (client fs : Listing) :
    Prop :=
  ∃ served m stored diff,
    onFsStatusOk J db recvd = .ok served ∧ served.sent = some m ∧
    m.targetWsi = ofInt32 row.clientWsi ∧ m.data = J.dumps m.body ∧
    m.body.get "files" = some (.array (diffArray diff)) ∧
    findSession served.store row.sessionId = some stored ∧
    stored.diff = .array (diffArray diff) ∧ Classified client fs diff

def answer (row : SessionRow) (client fs : Listing) : Json :=
  filesBody .syStatusOk row.sessionId (diffArray (classify client fs))

variable {J : Jansson} {db : Db} {row : SessionRow} {recvd : Json}
  {clientElements fsElements : List Json}

theorem Classifies.session_fits (classifies : Classifies J db row recvd client fs)
    (found : findSession db row.sessionId = some row)
    (named : recvd.text "session_id" = some row.sessionId) : row.Fits J := by
  obtain ⟨_, _, _, _, returned, _⟩ := classifies
  rw [onFsStatusOk, unpackText_ok.mpr named, ok_bind] at returned
  obtain ⟨session, got, rest⟩ := bind_ok.mp returned
  obtain ⟨info, there, _⟩ := bind_ok.mp rest
  rw [deref_ok.mp there] at got
  obtain ⟨other, same, fits, _⟩ := getSession_ok.mp got
  obtain rfl : row = other := Option.some.inj (found.symm.trans same)
  exact fits

/-- The classification is exact exactly when the session's texts fit the buffers they are read
into, and the answer's text fits the write data. -/
theorem classifies_iff (lossless : J.Lossless) (found : findSession db row.sessionId = some row)
    (holds : J.Holds row.files) (kept : row.files = .array clientElements)
    (named : recvd.text "session_id" = some row.sessionId)
    (received : recvd.get "files" = some (.array fsElements))
    (clientListed : client.Stands "client_checksum" clientElements)
    (fsListed : fs.Stands "fs_checksum" fsElements) :
    Classifies J db row recvd client fs ↔
      row.Fits J ∧ (J.dumps (answer row client fs)).val.length < writeDataSize := by
  have stored : J.loads (J.dumps row.files) = some (.array clientElements) := by
    rw [lossless _ holds, kept]
  obtain ⟨db', files, found', outcome⟩ := onFsStatusOk_eq found named stored received
    clientListed.reports fsListed.reports fs.distinct client.distinct
    (fun _ => Listing.checksum_absent) (fun _ => Listing.checksum_absent)
  rw [diffOf_classify] at found' outcome
  constructor
  · intro classifies
    refine ⟨classifies.session_fits found named, ?_⟩
    obtain ⟨_, _, _, _, returned, _⟩ := classifies
    rw [outcome] at returned
    obtain ⟨_, _, rest⟩ := bind_ok.mp returned
    obtain ⟨_, made, _⟩ := bind_ok.mp rest
    exact (compose_ok.mp made).1
  · rintro ⟨fits, short⟩
    have got : getSession J db row.sessionId = .ok (some (row.info J)) :=
      getSession_ok.mpr ⟨row, found, fits, rfl⟩
    have made : compose J (ofInt32 row.clientWsi) .syStatusOk (answer row client fs) =
        .ok (composed J (ofInt32 row.clientWsi) .syStatusOk (answer row client fs)) :=
      compose_ok.mpr ⟨short, rfl⟩
    rw [got, ok_bind, ← answer, made, ok_bind] at outcome
    exact ⟨_, _, _, classify client fs, outcome, rfl, rfl, rfl, rfl, found', rfl,
      classify_classified client fs⟩

def digest : CString := CString.literal "d41d8cd98f00b204e9800998ecf8427e"

def numbered (count : Nat) : List CString :=
  (List.range count).map fun i => CString.literal "file" ++ CString.ofNat i

def clientEntries (count : Nat) : List Json :=
  (numbered count).map fun name => entry "client_checksum" name digest

def sampleRow (count : Nat) : SessionRow where
  sessionId := CString.literal "session"
  clientWsi := 2
  fileserverWsi := 1
  repoName := CString.literal "repo"
  state := .syStatus
  files := .array (clientEntries count)
  diff := .array []

def sampleDb (count : Nat) : Db :=
  { Db.empty .inOrder with session := [sampleRow count] }

def emptyAnswer : Json :=
  filesBody .fsStatusOk (CString.literal "session") []

def emptyListing : Listing where
  files := []
  distinct := List.nodup_nil
  checksums := nofun

def numberedListing (count : Nat) (distinct : (numbered count).Nodup) : Listing where
  files := (numbered count).map fun name => (name, digest)
  distinct := by
    rw [List.map_map]
    exact (List.map_id _).symm ▸ distinct
  checksums := by
    intro file member
    obtain ⟨_, _, rfl⟩ := List.mem_map.mp member
    have some_text : digest ≠ CString.empty := by decide +kernel
    exact some_text

theorem numberedListing_stands {count : Nat} (distinct : (numbered count).Nodup) :
    (numberedListing count distinct).Stands "client_checksum" (clientEntries count) := by
  rw [Listing.Stands, numberedListing, clientEntries, List.forall₂_map_left_iff,
    List.forall₂_map_right_iff, List.forall₂_same]
  exact fun name _ => entry_reports (by decide) name digest

theorem emptyListing_stands : emptyListing.Stands "fs_checksum" [] := .nil

theorem sampleRow_found (count : Nat) :
    findSession (sampleDb count) (CString.literal "session") = some (sampleRow count) :=
  findSession_first rfl rfl

theorem sampleRow_holds {count : Nat}
    (accepted : ∀ name ∈ numbered count, Jansson.canonical.accepts name = true) :
    Jansson.canonical.Holds (sampleRow count).files := by
  refine .array fun element member => ?_
  obtain ⟨name, listed, rfl⟩ := List.mem_map.mp member
  exact holds_entry (by decide) (accepted name listed) (by decide +kernel)

theorem one_file_classified :
    Classifies Jansson.canonical (sampleDb 1) (sampleRow 1) emptyAnswer
      (numberedListing 1 (by decide)) emptyListing :=
  (classifies_iff Jansson.canonical_lossless (sampleRow_found 1) (sampleRow_holds (by decide +kernel)) rfl
    rfl rfl (numberedListing_stands _) emptyListing_stands).mpr
      ⟨⟨by decide +kernel, by decide +kernel, by decide +kernel, by decide +kernel⟩,
        by decide +kernel⟩

def ClassificationLaw : Prop :=
  ∀ (J : Jansson) (db : Db) (row : SessionRow) (recvd : Json) (client fs : Listing)
    (clientElements fsElements : List Json), J.Lossless →
    findSession db row.sessionId = some row → J.Holds row.files →
    row.files = .array clientElements → recvd.text "session_id" = some row.sessionId →
    recvd.get "files" = some (.array fsElements) →
    client.Stands "client_checksum" clientElements → fs.Stands "fs_checksum" fsElements →
    Classifies J db row recvd client fs

theorem fifteen_files_overrun : ¬ ClassificationLaw := by
  intro law
  have distinct : (numbered 15).Nodup := by decide +kernel
  have accepted : ∀ name ∈ numbered 15, Jansson.canonical.accepts name = true := by
    decide +kernel
  have classifies := law _ (sampleDb 15) (sampleRow 15) emptyAnswer (numberedListing 15 distinct)
    emptyListing _ [] Jansson.canonical_lossless (sampleRow_found 15) (sampleRow_holds accepted) rfl rfl
    rfl (numberedListing_stands distinct) emptyListing_stands
  have fits := classifies.session_fits (sampleRow_found 15) rfl
  exact absurd fits.files (by decide +kernel)

end Librtcdc.Metadata.Classification
