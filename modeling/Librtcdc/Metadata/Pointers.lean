import Mathlib.Data.List.InsertIdx
import Librtcdc.Shared.JsonText
import Librtcdc.Metadata.Store

set_option autoImplicit false

namespace Librtcdc.Metadata

open Systems

-- Pointers of connections through the database: four writers keep 32 bits of a pointer, and three
-- readers extend them by the sign.

variable {J : Jansson} {db : Db} {wsi other : Wsi} {name oid sessionId uriCode repoName : CString}
  {state : MetadataType}

theorem ofInt32_eq {stored : BitVec 32} :
    ofInt32 stored = wsi ↔ Survives wsi ∧ stored = toInt32 wsi := by
  constructor
  · rintro rfl
    exact ⟨ofInt32_survives stored, (toInt32_ofInt32 stored).symm⟩
  · rintro ⟨survives, rfl⟩
    exact survives

theorem survives_iff_range :
    Survives wsi ↔ -2147483648 ≤ wsi.toInt ∧ wsi.toInt < 2147483648 := by
  have extended : (ofInt32 (toInt32 wsi)).toInt = Int.bmod wsi.toNat 4294967296 := by
    rw [ofInt32, BitVec.toInt_signExtend_of_le (by decide), toInt32, BitVec.toInt_setWidth]
  have whole : wsi.toInt = Int.bmod wsi.toNat 18446744073709551616 := BitVec.toInt_eq_toNat_bmod wsi
  have bound : wsi.toNat < 18446744073709551616 := wsi.isLt
  rw [Survives, ← BitVec.toInt_inj, extended, whole, Int.bmod_def, Int.bmod_def]
  omega

inductive Storing where
  | fileserver (name : CString) (wsi : Wsi)
  | session (oid : CString) (fileserverWsi clientWsi : Wsi) (repoName : CString)
      (state : MetadataType)
  | filesys (uriCode repoName : CString) (wsi : Wsi)
  | update (sessionId : CString) (wsi : Wsi)

def Storing.ReadBack (J : Jansson) (db : Db) : Storing → Prop
  | .fileserver name wsi => getWsi (insertFileserver db name wsi) name = wsi
  | .session oid fileserverWsi clientWsi repoName state =>
      ∃ session, getSession J (insertSession db oid fileserverWsi clientWsi repoName state) oid =
          .ok (some session) ∧
        session.fileserverWsi = fileserverWsi ∧ session.clientWsi = clientWsi
  | .filesys uriCode repoName wsi =>
      ∃ uri, getUri (insertFilesys db uriCode repoName wsi) uriCode = .ok (some uri) ∧
        uri.fileserverWsi = wsi
  | .update sessionId wsi =>
      ∃ db' session, updateSession db sessionId (.clientWsi wsi) = .ok db' ∧
        getSession J db' sessionId = .ok (some session) ∧ session.clientWsi = wsi

def foundFileserver (db : Db) (name : CString) (wsi : Wsi) : FileserverRow :=
  (findOne FileserverRow.fileserverName name db.fileserver).getD ⟨name, toInt32 wsi⟩

def foundSession (db : Db) (oid : CString) (fileserverWsi clientWsi : Wsi) (repoName : CString)
    (state : MetadataType) : SessionRow :=
  (findSession db oid).getD (newSession oid fileserverWsi clientWsi repoName state)

def foundFilesys (db : Db) (uriCode repoName : CString) (wsi : Wsi) : FilesysRow :=
  (findOne FilesysRow.uriCode uriCode db.filesys).getD ⟨uriCode, toInt32 wsi, repoName⟩

def Storing.Kept (J : Jansson) (db : Db) : Storing → Prop
  | .fileserver name wsi => Survives wsi ∧ (foundFileserver db name wsi).wsi = toInt32 wsi
  | .session oid fileserverWsi clientWsi repoName state =>
      Survives fileserverWsi ∧ Survives clientWsi ∧
        (foundSession db oid fileserverWsi clientWsi repoName state).Fits J ∧
        (foundSession db oid fileserverWsi clientWsi repoName state).fileserverWsi =
          toInt32 fileserverWsi ∧
        (foundSession db oid fileserverWsi clientWsi repoName state).clientWsi = toInt32 clientWsi
  | .filesys uriCode repoName wsi =>
      Survives wsi ∧ (foundFilesys db uriCode repoName wsi).repoName.val.length < repoNameSize ∧
        uriCode.val.length < idSize ∧
        (foundFilesys db uriCode repoName wsi).fileserverWsi = toInt32 wsi
  | .update sessionId wsi =>
      Survives wsi ∧ ∃ row, findSession db sessionId = some row ∧ row.Fits J

theorem getWsi_insertFileserver :
    getWsi (insertFileserver db name wsi) name = ofInt32 (foundFileserver db name wsi).wsi := by
  have found := findOne_append_own FileserverRow.fileserverName db.fileserver
    { fileserverName := name, wsi := toInt32 wsi }
  rw [getWsi_eq, insertFileserver_eq, found]
  rfl

theorem findSession_insertSession (clientWsi : Wsi) :
    findSession (insertSession db oid wsi clientWsi repoName state) oid =
      some (foundSession db oid wsi clientWsi repoName state) := by
  rw [findSession_eq, insertSession_eq, foundSession, findSession_eq]
  exact findOne_append_own SessionRow.sessionId db.session
    (newSession oid wsi clientWsi repoName state)

theorem getUri_insertFilesys {uri : UriInfo} :
    getUri (insertFilesys db uriCode repoName wsi) uriCode = .ok (some uri) ↔
      (foundFilesys db uriCode repoName wsi).repoName.val.length < repoNameSize ∧
        uriCode.val.length < idSize ∧
        uri = { fileserverWsi := ofInt32 (foundFilesys db uriCode repoName wsi).fileserverWsi
                repoName := (foundFilesys db uriCode repoName wsi).repoName, uriCode } := by
  have found := findOne_append_own FilesysRow.uriCode db.filesys
    { uriCode, fileserverWsi := toInt32 wsi, repoName }
  dsimp only at found
  rw [getUri, findUri_eq, insertFilesys_eq]
  simp only [found, bind_ok, strcpy_ok]
  constructor
  · rintro ⟨_, ⟨short, rfl⟩, _, ⟨code, rfl⟩, made⟩
    exact ⟨short, code, (Option.some.inj (Except.ok.inj made)).symm⟩
  · rintro ⟨short, code, rfl⟩
    exact ⟨_, ⟨short, rfl⟩, _, ⟨code, rfl⟩, rfl⟩

theorem readBack_iff (storing : Storing) : storing.ReadBack J db ↔ storing.Kept J db := by
  cases storing with
  | fileserver name wsi =>
      rw [Storing.ReadBack, getWsi_insertFileserver, ofInt32_eq]
      rfl
  | session oid fileserverWsi clientWsi repoName state =>
      simp only [Storing.ReadBack, Storing.Kept, getSession_ok, findSession_insertSession]
      constructor
      · rintro ⟨_, ⟨_, ⟨⟩, fits, rfl⟩, fileserver, client⟩
        obtain ⟨fileserverSurvives, fileserverStored⟩ := ofInt32_eq.mp fileserver
        obtain ⟨clientSurvives, clientStored⟩ := ofInt32_eq.mp client
        exact ⟨fileserverSurvives, clientSurvives, fits, fileserverStored, clientStored⟩
      · rintro ⟨fileserverSurvives, clientSurvives, fits, fileserverStored, clientStored⟩
        exact ⟨_, ⟨_, rfl, fits, rfl⟩, ofInt32_eq.mpr ⟨fileserverSurvives, fileserverStored⟩,
          ofInt32_eq.mpr ⟨clientSurvives, clientStored⟩⟩
  | filesys uriCode repoName wsi =>
      simp only [Storing.ReadBack, Storing.Kept, getUri_insertFilesys]
      constructor
      · rintro ⟨_, ⟨short, code, rfl⟩, same⟩
        obtain ⟨survives, stored⟩ := ofInt32_eq.mp same
        exact ⟨survives, short, code, stored⟩
      · rintro ⟨survives, short, code, stored⟩
        exact ⟨_, ⟨short, code, rfl⟩, ofInt32_eq.mpr ⟨survives, stored⟩⟩
  | update sessionId wsi =>
      let assign : SessionRow → SessionRow := fun row => { row with clientWsi := toInt32 wsi }
      let session := updateOne SessionRow.sessionId sessionId assign db.session
      have updated : updateSession db sessionId (.clientWsi wsi) = .ok { db with session } :=
        updateSession_eq db sessionId _
      have found : findSession { db with session } sessionId =
          (findSession db sessionId).map assign := by
        rw [findSession_eq, findSession_eq]
        exact findOne_updateOne_same fun _ => rfl
      have same_fits (row : SessionRow) : (assign row).Fits J ↔ row.Fits J :=
        ⟨fun fits => ⟨fits.1, fits.2, fits.3, fits.4⟩, fun fits => ⟨fits.1, fits.2, fits.3, fits.4⟩⟩
      simp only [Storing.ReadBack, Storing.Kept, updated]
      constructor
      · rintro ⟨_, session, ⟨⟩, got, same⟩
        obtain ⟨_, there, fits, rfl⟩ := getSession_ok.mp got
        rw [found] at there
        obtain ⟨row, stored, rfl⟩ := Option.map_eq_some_iff.mp there
        exact ⟨(ofInt32_eq.mp same).1, row, stored, (same_fits row).mp fits⟩
      · rintro ⟨survives, row, stored, fits⟩
        refine ⟨_, _, rfl, getSession_ok.mpr ⟨assign row, ?_, (same_fits row).mpr fits, rfl⟩,
          survives⟩
        rw [found, stored]
        rfl

abbrev Registration := CString × Wsi

def Registration.row (registration : Registration) : FileserverRow where
  fileserverName := registration.1
  wsi := toInt32 registration.2

def Registered (registered : List Registration) (db : Db) : Prop :=
  db.fileserver = registered.map Registration.row

def removedAt (db : Db) (wsi : Wsi) : Option Nat :=
  db.fileserver.findIdx? fun row => decide (row.wsi = toInt32 wsi)

variable {registered : List Registration}

theorem Registered.insert (stands : Registered registered db) :
    Registered (registered ++ [(name, wsi)]) (insertFileserver db name wsi) := by
  rw [Registered, List.map_append, ← stands, insertFileserver_eq]
  rfl

theorem Registered.delete (stands : Registered registered db) :
    Registered ((removedAt db wsi).elim registered registered.eraseIdx)
      (deleteFileserver db wsi) := by
  rw [deleteFileserver_eq, Registered, removeOne, List.eraseP_eq_eraseIdx, removedAt]
  cases db.fileserver.findIdx? fun row => decide (row.wsi = toInt32 wsi) with
  | none => exact stands
  | some i =>
      dsimp only [Option.elim]
      rw [stands, List.eraseIdx_map]

def pointers (registered : List Registration) : List Wsi :=
  registered.map Prod.snd

structure DeletesOwn (registered : List Registration) (db : Db) (wsi : Wsi) : Prop where
  removes : wsi ∈ pointers registered → removedAt db wsi ≠ none
  own : ∀ i ∈ removedAt db wsi, (pointers registered)[i]? = some wsi

-- No registration of another connection with the same low 32 bits comes before those of this.
def NoTwinBefore (registered : List Registration) (wsi : Wsi) : Prop :=
  ∀ other ∈ (pointers registered).takeWhile (fun other => decide (other ≠ wsi)),
    toInt32 other ≠ toInt32 wsi

theorem removedAt_registered (stands : Registered registered db) :
    removedAt db wsi =
      (pointers registered).findIdx? fun other => decide (toInt32 other = toInt32 wsi) := by
  rw [removedAt, stands, pointers, List.findIdx?_map, List.findIdx?_map]
  rfl

theorem first_own_iff {others : List Wsi} :
    (∀ i ∈ others.findIdx? fun other => decide (toInt32 other = toInt32 wsi),
      others[i]? = some wsi) ↔
      ∀ other ∈ others.takeWhile (fun other => decide (other ≠ wsi)),
        toInt32 other ≠ toInt32 wsi := by
  induction others with
  | nil => simp
  | cons pointer rest ih =>
      by_cases own : pointer = wsi
      · simp [List.findIdx?_cons, own]
      · by_cases same : toInt32 pointer = toInt32 wsi
        · simp [List.findIdx?_cons, own, same]
        · rw [List.findIdx?_cons, decide_eq_false same, List.takeWhile_cons, decide_eq_true own,
            if_pos rfl, List.forall_mem_cons, ← ih]
          simp [same]

theorem deletesOwn_iff (stands : Registered registered db) :
    DeletesOwn registered db wsi ↔ NoTwinBefore registered wsi := by
  constructor
  · intro deletes
    have own := deletes.own
    rw [removedAt_registered stands] at own
    exact first_own_iff.mp own
  · intro untwinned
    constructor
    · intro member absent
      rw [removedAt_registered stands, List.findIdx?_eq_none_iff] at absent
      exact of_decide_eq_false (absent wsi member) rfl
    · rw [removedAt_registered stands]
      exact first_own_iff.mpr untwinned

def oneRegistration : List Registration :=
  [(CString.literal "server", 4096)]

def oneFileserver : Db :=
  { Db.empty .inOrder with fileserver := oneRegistration.map Registration.row }

def storedCode : Storing :=
  .filesys (CString.literal "557a0c1e9f2b4d6a8c0e1f23") (CString.literal "hhh") 4096

end Librtcdc.Metadata
