import Librtcdc.Metadata.Types
import Librtcdc.Shared.Collection

set_option autoImplicit false

namespace Librtcdc.Metadata

open Systems

-- A pointer appended with BSON_APPEND_INT32, and the pointer that is read back.

def toInt32 (wsi : Wsi) : BitVec 32 := wsi.setWidth 32

def ofInt32 (stored : BitVec 32) : Wsi := stored.signExtend 64

def Survives (wsi : Wsi) : Prop := ofInt32 (toInt32 wsi) = wsi

instance (wsi : Wsi) : Decidable (Survives wsi) := inferInstanceAs (Decidable (_ = _))

theorem toInt32_ofInt32 (stored : BitVec 32) : toInt32 (ofInt32 stored) = stored := by
  ext i inside
  have wide : i < 64 := by omega
  simp [toInt32, ofInt32, BitVec.getElem_signExtend, inside, wide]

theorem ofInt32_survives (stored : BitVec 32) : Survives (ofInt32 stored) := by
  rw [Survives, toInt32_ofInt32]

structure FileserverRow where
  fileserverName : CString
  wsi : BitVec 32

structure SessionRow where
  sessionId : CString
  clientWsi : BitVec 32
  fileserverWsi : BitVec 32
  repoName : CString
  state : MetadataType
  files : Json
  diff : Json

structure FilesysRow where
  uriCode : CString
  fileserverWsi : BitVec 32
  repoName : CString

-- MongoDB and libbson. The server appends a document to an array with the key NULL.
structure Mongo where
  fileserver : Engine FileserverRow
  session : Engine SessionRow
  filesys : Engine FilesysRow
  appendDocument : List Json → Option CString → Json → List Json
  null_appends : ∀ array document, appendDocument array none document = array ++ [document]

def Mongo.inOrder : Mongo where
  fileserver := .inOrder
  session := .inOrder
  filesys := .inOrder
  appendDocument array _ document := array ++ [document]
  null_appends _ _ := rfl

-- The collections of the `metadata` database; its operations succeed.
structure Db where
  mongo : Mongo
  fileserver : List FileserverRow
  session : List SessionRow
  filesys : List FilesysRow

def Db.empty (mongo : Mongo) : Db where
  mongo := mongo
  fileserver := []
  session := []
  filesys := []

def deleteFileserver (db : Db) (fileserverWsi : Wsi) : Db :=
  { db with
    fileserver := db.mongo.fileserver.remove (fun row => row.wsi = toInt32 fileserverWsi)
      db.fileserver }

def deleteSession (db : Db) (sessionId : CString) : Db :=
  { db with
    session := db.mongo.session.remove (fun row => row.sessionId = sessionId) db.session }

def insertFileserver (db : Db) (fileserverName : CString) (fileserverWsi : Wsi) : Db :=
  { db with
    fileserver := db.mongo.fileserver.insert { fileserverName, wsi := toInt32 fileserverWsi }
      db.fileserver }

def newSession (sessionId : CString) (fileserverWsi clientWsi : Wsi) (repoName : CString)
    (state : MetadataType) : SessionRow where
  sessionId := sessionId
  clientWsi := toInt32 clientWsi
  fileserverWsi := toInt32 fileserverWsi
  repoName := repoName
  state := state
  files := .array []
  diff := .array []

-- `oid` is the identifier that `bson_oid_init` generates.
def insertSession (db : Db) (oid : CString) (fileserverWsi clientWsi : Wsi) (repoName : CString)
    (state : MetadataType) : Db :=
  { db with
    session := db.mongo.session.insert (newSession oid fileserverWsi clientWsi repoName state)
      db.session }

def insertFilesys (db : Db) (uriCode repoName : CString) (fileserverWsi : Wsi) : Db :=
  { db with
    filesys := db.mongo.filesys.insert { uriCode, fileserverWsi := toInt32 fileserverWsi, repoName }
      db.filesys }

-- What a loop unpacks from each element, into variables that the whole loop shares.
def unpackEach (format : List (String × Json.Format)) :
    List (Option Json) → List Json → Except Fault (List (List Json))
  | _, [] => .ok []
  | vars, element :: rest =>
      let vars := element.unpack format vars
      match vars.mapM id with
      | none => .error .uninitialised
      | some values => do
          let later ← unpackEach format vars rest
          return values :: later

def documentArray (mongo : Mongo) (format : List (String × Json.Format)) (value : Option Json) :
    Except Fault Json := do
  let rows ← unpackEach format (format.map fun _ => none) (Json.elements value)
  let documents := rows.map fun values => .object ((format.map Prod.fst).zip values)
  return .array (documents.foldl (fun array document => mongo.appendDocument array none document) [])

-- The field that `update_session` is called with, and its value.
inductive SessionField where
  | clientWsi (wsi : Wsi)
  | state (next : MetadataType)
  | clientChecksum (value : Option Json)
  | files (value : Option Json)
  | diff (value : Option Json)

def SessionField.assign (mongo : Mongo) :
    SessionField → Except Fault (SessionRow → SessionRow)
  | .clientWsi wsi => .ok fun row => { row with clientWsi := toInt32 wsi }
  | .state next => .ok fun row => { row with state := next }
  | .clientChecksum value => do
      let files ← documentArray mongo [("filename", .s), ("client_checksum", .s)] value
      return fun row => { row with files }
  | .files value => do
      let files ← documentArray mongo
        [("filename", .s), ("client_checksum", .s), ("fs_checksum", .s)] value
      return fun row => { row with files }
  | .diff value => do
      let diff ← documentArray mongo [("filename", .s), ("dirty", .i)] value
      return fun row => { row with diff }

def updateSession (db : Db) (sessionId : CString) (field : SessionField) : Except Fault Db := do
  let assign ← field.assign db.mongo
  return { db with
    session := db.mongo.session.update (fun row => row.sessionId = sessionId) assign db.session }

-- ms_struct.h

def dataSize : Nat := 1024

structure SessionInfo where
  fileserverWsi : Wsi
  clientWsi : Wsi
  repoName : CString
  sessionId : CString
  files : CString
  diff : CString

structure UriInfo where
  fileserverWsi : Wsi
  repoName : CString
  uriCode : CString

def findSession (db : Db) (sessionId : CString) : Option SessionRow :=
  db.mongo.session.find (fun row => row.sessionId = sessionId) db.session

-- `none` is NULL.
def getSession (J : Jansson) (db : Db) (sessionId : CString) :
    Except Fault (Option SessionInfo) :=
  match findSession db sessionId with
  | none => .ok none
  | some row => do
      let repoName ← strcpy repoNameSize row.repoName
      let files ← strcpy dataSize (J.dumps row.files)
      let diff ← strcpy dataSize (J.dumps row.diff)
      let sessionId ← strcpy idSize sessionId
      return some
        { fileserverWsi := ofInt32 row.fileserverWsi
          clientWsi := ofInt32 row.clientWsi
          repoName, sessionId, files, diff }

def getUri (db : Db) (uriCode : CString) : Except Fault (Option UriInfo) :=
  match db.mongo.filesys.find (fun row => row.uriCode = uriCode) db.filesys with
  | none => .ok none
  | some row => do
      let repoName ← strcpy repoNameSize row.repoName
      let uriCode ← strcpy idSize uriCode
      return some { fileserverWsi := ofInt32 row.fileserverWsi, repoName, uriCode }

def getWsi (db : Db) (fileserverName : CString) : Wsi :=
  match db.mongo.fileserver.find (fun row => row.fileserverName = fileserverName) db.fileserver with
  | none => Wsi.null
  | some row => ofInt32 row.wsi

def deref {α : Type} : Option α → Except Fault α
  | some value => .ok value
  | none => .error .nullPointer

@[simp] theorem deref_some {α : Type} (value : α) : deref (some value) = .ok value := rfl

theorem deref_ok {α : Type} {pointer : Option α} {value : α} :
    deref pointer = .ok value ↔ pointer = some value := by
  cases pointer <;> simp [deref]

section Rows

variable (db : Db) (mongo : Mongo)

theorem deleteFileserver_eq (fileserverWsi : Wsi) :
    deleteFileserver db fileserverWsi = { db with
      fileserver := removeOne FileserverRow.wsi (toInt32 fileserverWsi) db.fileserver } := by
  rw [deleteFileserver, Engine.remove_eq _ FileserverRow.wsi]

theorem deleteSession_eq (sessionId : CString) :
    deleteSession db sessionId =
      { db with session := removeOne SessionRow.sessionId sessionId db.session } := by
  rw [deleteSession, Engine.remove_eq _ SessionRow.sessionId]

theorem insertFileserver_eq (fileserverName : CString) (fileserverWsi : Wsi) :
    insertFileserver db fileserverName fileserverWsi = { db with
      fileserver := db.fileserver ++ [{ fileserverName, wsi := toInt32 fileserverWsi }] } := by
  rw [insertFileserver, Engine.insert_last]

theorem insertSession_eq (oid : CString) (fileserverWsi clientWsi : Wsi) (repoName : CString)
    (state : MetadataType) :
    insertSession db oid fileserverWsi clientWsi repoName state = { db with
      session := db.session ++ [newSession oid fileserverWsi clientWsi repoName state] } := by
  rw [insertSession, Engine.insert_last]

theorem insertFilesys_eq (uriCode repoName : CString) (fileserverWsi : Wsi) :
    insertFilesys db uriCode repoName fileserverWsi = { db with
      filesys := db.filesys ++
        [{ uriCode, fileserverWsi := toInt32 fileserverWsi, repoName }] } := by
  rw [insertFilesys, Engine.insert_last]

theorem updateSession_eq (sessionId : CString) (field : SessionField) :
    updateSession db sessionId field = do
      let assign ← field.assign db.mongo
      return { db with session := updateOne SessionRow.sessionId sessionId assign db.session } := by
  simp only [updateSession, Engine.update_eq _ SessionRow.sessionId]

theorem findSession_eq (sessionId : CString) :
    findSession db sessionId = findOne SessionRow.sessionId sessionId db.session :=
  Engine.find_eq _ SessionRow.sessionId ..

variable {db} in
theorem findSession_congr {db' : Db} (same : db'.session = db.session) (sessionId : CString) :
    findSession db' sessionId = findSession db sessionId := by
  rw [findSession_eq, findSession_eq, same]

variable {db} in
theorem findSession_first {row : SessionRow} {rest : List SessionRow} {sessionId : CString}
    (listed : db.session = row :: rest) (named : row.sessionId = sessionId) :
    findSession db sessionId = some row := by
  rw [findSession_eq, listed, findOne_cons, if_pos named]

variable {db} in
theorem findSession_named {row : SessionRow} {sessionId : CString}
    (found : findSession db sessionId = some row) : row.sessionId = sessionId :=
  findOne_key (findSession_eq db sessionId ▸ found)

variable {db} in
theorem findSession_mem {row : SessionRow} {sessionId : CString}
    (found : findSession db sessionId = some row) : row ∈ db.session :=
  findOne_mem (findSession_eq db sessionId ▸ found)

variable {db} in
theorem findSession_insert_found {row : SessionRow} {sessionId : CString}
    (found : findSession db sessionId = some row) (oid : CString) (fileserverWsi clientWsi : Wsi)
    (repoName : CString) (state : MetadataType) :
    findSession (insertSession db oid fileserverWsi clientWsi repoName state) sessionId =
      some row := by
  rw [findSession_eq] at found
  rw [insertSession_eq, findSession_eq]
  exact findOne_append_found found _

theorem findUri_eq (uriCode : CString) :
    db.mongo.filesys.find (fun row => row.uriCode = uriCode) db.filesys =
      findOne FilesysRow.uriCode uriCode db.filesys :=
  Engine.find_eq _ FilesysRow.uriCode ..

theorem findFileserver_eq (fileserverName : CString) :
    db.mongo.fileserver.find (fun row => row.fileserverName = fileserverName) db.fileserver =
      findOne FileserverRow.fileserverName fileserverName db.fileserver :=
  Engine.find_eq _ FileserverRow.fileserverName ..

theorem getWsi_eq (fileserverName : CString) :
    getWsi db fileserverName =
      (findOne FileserverRow.fileserverName fileserverName db.fileserver).elim Wsi.null
        fun row => ofInt32 row.wsi := by
  rw [getWsi, findFileserver_eq]
  cases findOne FileserverRow.fileserverName fileserverName db.fileserver <;> rfl

theorem appendEach_eq (documents array : List Json) :
    documents.foldl (fun array document => mongo.appendDocument array none document) array =
      array ++ documents := by
  induction documents generalizing array with
  | nil => simp
  | cons document rest ih =>
      rw [List.foldl_cons, ih, mongo.null_appends, List.append_assoc, List.singleton_append]

theorem documentArray_eq (format : List (String × Json.Format)) (value : Option Json) :
    documentArray mongo format value = do
      let rows ← unpackEach format (format.map fun _ => none) (Json.elements value)
      return .array (rows.map fun values => .object ((format.map Prod.fst).zip values)) := by
  simp only [documentArray, appendEach_eq, List.nil_append]

theorem SessionField.assign_eq (other : Mongo) (field : SessionField) :
    field.assign mongo = field.assign other := by
  cases field <;> simp only [SessionField.assign, documentArray_eq]

end Rows

def SessionField.clientOf : SessionField → SessionRow → BitVec 32
  | .clientWsi wsi, _ => toInt32 wsi
  | _, row => row.clientWsi

theorem SessionField.assign_keeps {mongo : Mongo} {field : SessionField}
    {assign : SessionRow → SessionRow} (assigned : field.assign mongo = .ok assign)
    (row : SessionRow) :
    (assign row).sessionId = row.sessionId ∧ (assign row).fileserverWsi = row.fileserverWsi ∧
      (assign row).clientWsi = field.clientOf row := by
  cases field with
  | clientWsi | state =>
      obtain rfl := Except.ok.inj assigned
      exact ⟨rfl, rfl, rfl⟩
  | clientChecksum | files | diff =>
      obtain ⟨_, _, made⟩ := bind_ok.mp assigned
      obtain rfl := Except.ok.inj made
      exact ⟨rfl, rfl, rfl⟩

variable {J : Jansson} {db db' : Db} {sessionId : CString} {field : SessionField}

theorem updateSession_ok (updated : updateSession db sessionId field = .ok db') :
    ∃ assign, field.assign db.mongo = .ok assign ∧
      db' = { db with session := updateOne SessionRow.sessionId sessionId assign db.session } := by
  rw [updateSession_eq] at updated
  obtain ⟨assign, assigned, made⟩ := bind_ok.mp updated
  exact ⟨assign, assigned, (Except.ok.inj made).symm⟩

def SessionRow.info (J : Jansson) (row : SessionRow) : SessionInfo where
  fileserverWsi := ofInt32 row.fileserverWsi
  clientWsi := ofInt32 row.clientWsi
  repoName := row.repoName
  sessionId := row.sessionId
  files := J.dumps row.files
  diff := J.dumps row.diff

structure SessionRow.Fits (J : Jansson) (row : SessionRow) : Prop where
  repoName : row.repoName.val.length < repoNameSize
  files : (J.dumps row.files).val.length < dataSize
  diff : (J.dumps row.diff).val.length < dataSize
  sessionId : row.sessionId.val.length < idSize

theorem getSession_ok {session : SessionInfo} :
    getSession J db sessionId = .ok (some session) ↔
      ∃ row, findSession db sessionId = some row ∧ row.Fits J ∧ session = row.info J := by
  unfold getSession
  cases found : findSession db sessionId with
  | none => simp
  | some row =>
      have same : row.sessionId = sessionId := findSession_named found
      simp only [bind_ok, strcpy_ok]
      constructor
      · rintro ⟨_, ⟨repoName, rfl⟩, _, ⟨files, rfl⟩, _, ⟨diff, rfl⟩, _, ⟨id, rfl⟩, made⟩
        rw [← same] at id
        refine ⟨row, rfl, ⟨repoName, files, diff, id⟩, ?_⟩
        rw [← Option.some.inj (Except.ok.inj made), SessionRow.info, same]
      · rintro ⟨_, ⟨⟩, fits, rfl⟩
        refine ⟨_, ⟨fits.repoName, rfl⟩, _, ⟨fits.files, rfl⟩, _, ⟨fits.diff, rfl⟩, _,
          ⟨same ▸ fits.sessionId, rfl⟩, ?_⟩
        rw [SessionRow.info, same]
        rfl

theorem getUri_ok {uriCode : CString} {uri : UriInfo} (got : getUri db uriCode = .ok (some uri)) :
    ∃ row ∈ db.filesys, uri.fileserverWsi = ofInt32 row.fileserverWsi ∧
      uri.repoName = row.repoName := by
  unfold getUri at got
  split at got
  · cases got
  · rename_i row found
    rw [findUri_eq] at found
    simp only [bind_ok, strcpy_ok] at got
    obtain ⟨_, ⟨_, rfl⟩, _, _, made⟩ := got
    rw [← Option.some.inj (Except.ok.inj made)]
    exact ⟨row, findOne_mem found, rfl, rfl⟩

theorem getWsi_survives (fileserverName : CString) : Survives (getWsi db fileserverName) := by
  unfold getWsi
  split
  · decide
  · exact ofInt32_survives _

end Librtcdc.Metadata
