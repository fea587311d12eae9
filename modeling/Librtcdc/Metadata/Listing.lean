import Mathlib.Data.List.Nodup
import Librtcdc.Metadata.Exchange
import Librtcdc.Metadata.Joining

set_option autoImplicit false

namespace Librtcdc.Metadata

open Systems Sync

variable {J : Jansson} {size : Nat} {text : CString} {parts : List Bytes} {targetWsi : Wsi}
  {type : MetadataType} {body element : Json} {names : List CString}

theorem strcpy_fits : Fills (text.val.length < size) (strcpy size text) (· = text) where
  returns fits := ⟨text, if_pos fits, rfl⟩
  stops unfit := if_neg unfit

theorem concat_fits : Fills (parts.flatten.length < size) (concat size parts) (· = parts.flatten) where
  returns fits := ⟨parts.flatten, if_pos fits, rfl⟩
  stops unfit := if_neg unfit

def composed (J : Jansson) (targetWsi : Wsi) (type : MetadataType) (body : Json) : Message where
  writeData := { targetWsi, type, data := J.dumps body }
  body := body

abbrev Short (text : CString) : Prop :=
  text.val.length < writeDataSize

theorem compose_fits :
    Fills (Short (J.dumps body)) (compose J targetWsi type body)
      (· = composed J targetWsi type body) := by
  refine strcpy_fits.then fun data same => ?_
  rw [same, composed]

theorem compose_yields :
    Yields (compose J targetWsi type body) (· = composed J targetWsi type body) :=
  compose_fits.toReturns

theorem forward_fits :
    Fills (Short text) (forward targetWsi type text body)
      (· = { writeData := { targetWsi, type, data := text }, body }) := by
  refine strcpy_fits.then fun data same => ?_
  rw [same]

def realNames (entries : List CString) : List CString :=
  entries.filter fun name => name ≠ dot ∧ name ≠ dotDot

def entry (checksumKey : String) (filename checksum : CString) : Json :=
  .object [("filename", .string filename), (checksumKey, .string checksum)]

theorem fileEntry_accepted {key : String} {filename checksum : CString}
    (name : J.accepts filename = true) (value : J.accepts checksum = true) :
    fileEntry J key filename checksum = entry key filename checksum := by
  simp [fileEntry, textField, name, value, entry]

theorem listFiles_fits {key : String} {directory : Bytes} {genMd5 : Bytes → CString}
    {entries : List CString}
    (accepted : ∀ name ∈ realNames entries,
      J.accepts name = true ∧ J.accepts (genMd5 (directory ++ name.val)) = true) :
    Fills (∀ name ∈ realNames entries, (directory ++ name.val).length < filePathSize)
      (listFiles J key directory genMd5 (some entries))
      (· = (realNames entries).map fun name => entry key name (genMd5 (directory ++ name.val))) := by
  refine ReturnsIff.mapM_eq fun name member => ?_
  obtain ⟨nameFits, checksumFits⟩ := accepted name member
  have path : [directory, name.val].flatten = directory ++ name.val := by simp
  rw [← path]
  refine concat_fits.then fun filePath same => ?_
  rw [same, path, fileEntry_accepted nameFits checksumFits]

theorem mapM_id_some (values : List Json) : (values.map some).mapM id = some values := by
  induction values with
  | nil => rfl
  | cons value rest ih => simp [ih]

theorem unpackEach_fills {format : List (String × Json.Format)} {elements : List Json}
    {rows : List (List Json)} {vars : List (Option Json)} (enough : vars.length = format.length)
    (fills : List.Forall₂ (fun element row => element.Fills format row) elements rows) :
    unpackEach format vars elements = .ok rows := by
  induction fills generalizing vars with
  | nil => rfl
  | @cons element row _ _ here _ ih =>
      have width : (row.map some).length = format.length := by
        rw [List.length_map, List.Forall₂.length_eq here]
      rw [unpackEach, Json.unpack_fills here enough, mapM_id_some, ih width]
      rfl

variable {mongo : Mongo}

theorem documentArray_fills {format : List (String × Json.Format)} {array : Option Json}
    {rows : List (List Json)}
    (fills : List.Forall₂ (fun element row => element.Fills format row) (Json.elements array)
      rows) :
    documentArray mongo format array =
      .ok (.array (rows.map fun row => .object ((format.map Prod.fst).zip row))) := by
  rw [documentArray_eq, unpackEach_fills (List.length_map _) fills]
  rfl

theorem documentArray_map {ι : Type} {items : List ι} {format : List (String × Json.Format)}
    (values : ι → List Json)
    (fills : ∀ item, (Json.object ((format.map Prod.fst).zip (values item))).Fills format
      (values item)) :
    documentArray mongo format (some (.array (items.map fun item =>
        .object ((format.map Prod.fst).zip (values item))))) =
      .ok (.array (items.map fun item => .object ((format.map Prod.fst).zip (values item)))) := by
  have each : List.Forall₂ (fun (element : Json) row => element.Fills format row)
      (items.map fun item => .object ((format.map Prod.fst).zip (values item)))
      (items.map values) := by
    rw [List.forall₂_map_left_iff, List.forall₂_map_right_iff, List.forall₂_same]
    exact fun item _ => fills item
  rw [documentArray_fills each, List.map_map]
  rfl

structure Describes (element : Json) (name client fs : CString) : Prop where
  isObject : ∃ fields, element = .object fields
  filename : element.text "filename" = some name
  client : element.text "client_checksum" = some client
  fs : element.text "fs_checksum" = some fs

structure Reports (key : String) (element : Json) (name checksum : CString) : Prop where
  isObject : ∃ fields, element = .object fields
  filename : element.text "filename" = some name
  checksum : element.text key = some checksum

variable {name filename checksum old fsChecksum : CString} {client fs given : CString → CString}
  {joined elements : List Json} {remaining clientNames fsNames : List CString}

theorem entry_reports {key : String} (different : key ≠ "filename") (name checksum : CString) :
    Reports key (entry key name checksum) name checksum := by
  have absent : (key == "filename") = false := by simpa using different
  refine ⟨⟨_, rfl⟩, rfl, ?_⟩
  simp [entry, Json.text, Json.get, List.lookup_cons, absent]

abbrev DescribesAll (given fs : CString → CString) : List Json → List CString → Prop :=
  List.Forall₂ fun element name => Describes element name (given name) (fs name)

def joinedNames (fsNames clientNames : List CString) : List CString :=
  fsNames ++ clientNames.filter fun name => name ∉ fsNames

theorem mem_joinedNames : name ∈ joinedNames fsNames clientNames ↔
    name ∈ fsNames ∨ name ∈ clientNames := by
  by_cases listed : name ∈ fsNames <;> simp [joinedNames, listed]

theorem joinedNames_nodup (fsDistinct : fsNames.Nodup) (clientDistinct : clientNames.Nodup) :
    (joinedNames fsNames clientNames).Nodup := by
  rw [joinedNames, List.nodup_append]
  refine ⟨fsDistinct, clientDistinct.filter _, ?_⟩
  rintro name listed _ only rfl
  simp [listed] at only

abbrev ReportsAll (key : String) (checksum : CString → CString) : List Json → List CString → Prop :=
  List.Forall₂ fun element name => Reports key element name (checksum name)

theorem entries_report {key : String} (different : key ≠ "filename") (names : List CString)
    (checksum : CString → CString) :
    ReportsAll key checksum (names.map fun name => entry key name (checksum name)) names := by
  rw [ReportsAll, List.forall₂_map_left_iff, List.forall₂_same]
  exact fun name _ => entry_reports different name (checksum name)

theorem describesAll_iff : DescribesAll client fs joined names ↔
    List.Forall₂ (IsRow "filename" "fs_checksum" "client_checksum") joined
      (names.map fun name => (name, fs name, client name)) := by
  rw [List.forall₂_map_right_iff]
  constructor
  · exact List.Forall₂.imp fun _ _ here => ⟨here.isObject, here.filename, here.fs, here.client⟩
  · exact List.Forall₂.imp fun _ _ here => ⟨here.isObject, here.name, here.bChecksum, here.aChecksum⟩

theorem reportsAll_iff {key : String} : ReportsAll key client elements names ↔
    List.Forall₂ (Carries "filename" key) elements
      (names.map fun name => (name, client name)) := by
  rw [List.forall₂_map_right_iff]
  constructor
  · exact List.Forall₂.imp fun _ _ here => ⟨here.isObject, here.filename, here.checksum⟩
  · exact List.Forall₂.imp fun _ _ here => ⟨here.isObject, here.name, here.checksum⟩

theorem joinedNames_eq (clientDistinct : clientNames.Nodup) :
    joinedNames fsNames clientNames = joinedKeys fsNames clientNames := by
  rw [joinedKeys_nodup_right fsNames clientDistinct, joinedNames]
  exact congrArg _ (List.filter_congr fun _ _ => decide_eq_decide.mpr Iff.rfl)

theorem joinedRows_listing (fsDistinct : fsNames.Nodup) (clientDistinct : clientNames.Nodup)
    (fsLacks : ∀ name, name ∉ fsNames → fs name = CString.empty)
    (clientLacks : ∀ name, name ∉ clientNames → client name = CString.empty) :
    joinedRows (fsNames.map fun name => (name, fs name))
        (clientNames.map fun name => (name, client name)) =
      (joinedNames fsNames clientNames).map fun name => (name, fs name, client name) := by
  rw [joinedRows_distinct (by rwa [keys_map]), outerJoin_map fsDistinct clientDistinct fsLacks
    clientLacks, joinedNames_eq clientDistinct]

theorem joinChecksumArrays_describes {clientElements fsElements : List Json}
    (fsListed : ReportsAll "fs_checksum" fs fsElements fsNames)
    (clientListed : ReportsAll "client_checksum" client clientElements clientNames)
    (fsDistinct : fsNames.Nodup) (clientDistinct : clientNames.Nodup)
    (fsLacks : ∀ name, name ∉ fsNames → fs name = CString.empty)
    (clientLacks : ∀ name, name ∉ clientNames → client name = CString.empty) :
    ∃ joined, joinChecksumArrays "filename" (some (.array fsElements)) "fs_checksum"
        (some (.array clientElements)) "client_checksum" = .ok joined ∧
      DescribesAll client fs joined (joinedNames fsNames clientNames) := by
  have apart : Apart "filename" "fs_checksum" "client_checksum" :=
    ⟨by decide, by decide, by decide⟩
  obtain ⟨joined, joins, described⟩ := joinChecksumArrays_first apart
    (a := some (.array fsElements)) (b := some (.array clientElements))
    (reportsAll_iff.mp fsListed) (reportsAll_iff.mp clientListed)
  rw [joinedRows_listing fsDistinct clientDistinct fsLacks clientLacks] at described
  exact ⟨joined, joins, describesAll_iff.mpr described⟩

def diffEntry (name : CString) (dirty : FileStatus) : Json :=
  .object [("filename", .string name), ("dirty", .integer dirty.code)]

variable {rows : List (CString × CString × CString)} {files : List (CString × CString)}

theorem joined_diff
    (described : List.Forall₂ (IsRow "filename" "fs_checksum" "client_checksum") joined rows) :
    joined.mapM diffElement =
      .ok (rows.map fun row => diffEntry row.1 (fileStatus row.2.2 row.2.1)) := by
  induction described with
  | nil => rfl
  | cons here _ ih =>
      rw [List.mapM_cons, diffElement, here.bChecksum, here.aChecksum, here.name, ih]
      rfl

theorem diff_describes (described : DescribesAll client fs joined names) :
    joined.mapM diffElement =
      .ok (names.map fun name => diffEntry name (fileStatus (client name) (fs name))) := by
  rw [joined_diff (describesAll_iff.mp described), List.map_map]
  rfl

theorem joined_documents
    (described : List.Forall₂ (IsRow "filename" "fs_checksum" "client_checksum") joined rows) :
    ∃ documents, documentArray mongo [("filename", .s), ("client_checksum", .s), ("fs_checksum", .s)]
      (some (.array joined)) = .ok documents := by
  have fills : List.Forall₂ (fun (element : Json) row => element.Fills
      [("filename", .s), ("client_checksum", .s), ("fs_checksum", .s)] row) joined
      (rows.map fun row => [.string row.1, .string row.2.2, .string row.2.1]) := by
    rw [List.forall₂_map_right_iff]
    refine described.imp fun element row here => ?_
    exact .cons (Json.fills_string here.name)
      (.cons (Json.fills_string here.bChecksum) (.cons (Json.fills_string here.aChecksum) .nil))
  exact ⟨_, documentArray_fills fills⟩

theorem documentArray_joined (described : DescribesAll client fs joined names) :
    ∃ files, documentArray mongo [("filename", .s), ("client_checksum", .s), ("fs_checksum", .s)]
      (some (.array joined)) = .ok files :=
  joined_documents (describesAll_iff.mp described)

theorem files_documents (mongo : Mongo) {key : String} {array : Option Json}
    (has : List.Forall₂ (Carries "filename" key) (Json.elements array) files) :
    documentArray mongo [("filename", .s), (key, .s)] array =
      .ok (.array (files.map fun file => entry key file.1 file.2)) := by
  have fills : List.Forall₂ (fun (element : Json) row => element.Fills
      [("filename", .s), (key, .s)] row) (Json.elements array)
      (files.map fun file => [.string file.1, .string file.2]) := by
    rw [List.forall₂_map_right_iff]
    refine has.imp fun element file here => ?_
    exact .cons (Json.fills_string here.name) (.cons (Json.fills_string here.checksum) .nil)
  rw [documentArray_fills fills, List.map_map]
  rfl

theorem documentArray_entries (mongo : Mongo) {key : String} (different : key ≠ "filename")
    (names : List CString) (client : CString → CString) :
    documentArray mongo [("filename", .s), (key, .s)]
        (some (.array (names.map fun name => entry key name (client name)))) =
      .ok (.array (names.map fun name => entry key name (client name))) := by
  have listed : List.Forall₂ (Carries "filename" key) (Json.elements (some (.array _))) _ :=
    reportsAll_iff.mp (entries_report different names client)
  rw [files_documents mongo listed, List.map_map]
  rfl

variable {status : CString → FileStatus}

theorem diffEntry_fills (dirty : FileStatus) :
    (diffEntry name dirty).Fills [("filename", .s), ("dirty", .i)]
      [.string name, .integer dirty.code] := by
  refine .cons rfl (.cons ?_ .nil)
  cases dirty <;> rfl

theorem documentArray_diff (mongo : Mongo) {ι : Type} {items : List ι} (name : ι → CString)
    (status : ι → FileStatus) :
    documentArray mongo [("filename", .s), ("dirty", .i)]
        (some (.array (items.map fun item => diffEntry (name item) (status item)))) =
      .ok (.array (items.map fun item => diffEntry (name item) (status item))) :=
  documentArray_map (fun item => [.string (name item), .integer (status item).code])
    fun item => diffEntry_fills (status item)

theorem ofCode_code (dirty : FileStatus) : FileStatus.ofCode dirty.code = dirty := by
  cases dirty <;> rfl

theorem diffInfo_fits (file : DiffInfo) :
    Fills (file.filename.val.length < fileNameSize)
      (diffInfo [.string file.filename, .integer file.dirty.code]) (· = file) := by
  refine strcpy_fits.then fun copy same => ?_
  rw [same, ofCode_code]

def diffValue (entries : List DiffInfo) : Json :=
  .array (entries.map fun file => diffEntry file.filename file.dirty)

def diffRows (entries : List DiffInfo) : List (List Json) :=
  entries.map fun file => [.string file.filename, .integer file.dirty.code]

theorem diffValue_unpack (entries : List DiffInfo) :
    unpackEach [("filename", .s), ("dirty", .i)] [none, none]
      (Json.elements (some (diffValue entries))) = .ok (diffRows entries) := by
  refine unpackEach_fills rfl ?_
  rw [diffValue, Json.elements_array, diffRows, List.forall₂_map_left_iff,
    List.forall₂_map_right_iff, List.forall₂_same]
  exact fun file _ => diffEntry_fills file.dirty

theorem diffRows_fit (entries : List DiffInfo) :
    Fills (∀ file ∈ entries, file.filename.val.length < fileNameSize)
      ((diffRows entries).mapM diffInfo) (· = entries) := by
  rw [diffRows, List.mapM_map]
  refine (ReturnsIff.mapM_eq (g := id) fun file _ => diffInfo_fits file).weaken ?_
  rintro _ rfl
  exact List.map_id entries

theorem readDiff_fits (entries : List DiffInfo) :
    Fills (∀ file ∈ entries, file.filename.val.length < fileNameSize)
      (readDiff (some (diffValue entries))) (· = entries.take (entries.length % 256)) := by
  rw [readDiff, diffValue_unpack, ok_bind]
  refine (diffRows_fit entries).then fun read same => ?_
  rw [same]

theorem readDiff_yields (few : names.length < 256) :
    Yields (readDiff (some (.array (names.map fun name => diffEntry name (status name)))))
      (· = names.map fun name => { filename := name, dirty := status name }) := by
  have read := (readDiff_fits (names.map fun name =>
    { filename := name, dirty := status name })).toReturns
  rw [diffValue, List.map_map] at read
  refine read.weaken fun seen same => ?_
  rw [same, List.length_map, Nat.mod_eq_of_lt few, List.take_of_length_le (by simp)]

end Librtcdc.Metadata
