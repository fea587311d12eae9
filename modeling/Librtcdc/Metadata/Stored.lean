import Librtcdc.Metadata.Joining
import Librtcdc.Metadata.Responses
import Librtcdc.Shared.Outcome

set_option autoImplicit false

namespace Librtcdc.Metadata

open Systems

def HasFiles (key : String) (array : Option Json) : List (CString × CString) → Prop :=
  List.Forall₂ (Carries "filename" key) (Json.elements array)

structure SessionRow.Kept (J : Jansson) (row : SessionRow) : Prop where
  holds : J.Holds row.files
  hasFiles : ∃ files, HasFiles "client_checksum" (some row.files) files

def Db.Kept (J : Jansson) (db : Db) : Prop :=
  ∀ row ∈ db.session, row.Kept J

abbrev IfReturns {α : Type} (x : Except Fault α) (post : α → Prop) : Prop :=
  Returns (fun _ => True) x post

theorem any_outcome {α : Type} {x : Except Fault α} : IfReturns x fun _ => True := by
  cases x <;> trivial

variable {J : Jansson} {mongo : Mongo} {element : Json} {elements joined : List Json}
  {vars : List (Option Json)}
  {format : List (String × Json.Format)} {filename checksum : CString}

def Texts (J : Jansson) (vars : List (Option Json)) : Prop :=
  ∀ json, some json ∈ vars → ∃ text, json = .string text ∧ J.accepts text = true

theorem unpack_texts (strings : ∀ key ∈ format, key.2 = .s) (holds : J.Holds element)
    (old : Texts J vars) : Texts J (element.unpack format vars) := by
  induction format generalizing vars with
  | nil => cases vars <;> simpa [Json.unpack] using old
  | cons key more ih =>
      obtain ⟨key, kind⟩ := key
      obtain rfl : kind = .s := strings (key, kind) List.mem_cons_self
      cases vars with
      | nil => simpa [Json.unpack] using old
      | cons first olds =>
          have later : Texts J olds := fun json member => old json (List.mem_cons_of_mem _ member)
          rw [Json.unpack]
          split
          · rename_i value found
            intro json member
            rcases List.mem_cons.mp member with here | below
            · obtain rfl := Option.some.inj here
              obtain ⟨raw, got, unpacked⟩ := Option.bind_eq_some_iff.mp found
              have fits := holds.get got
              cases raw <;> cases unpacked
              exact ⟨_, rfl, Jansson.holds_string.mp fits⟩
            · exact ih (fun key member => strings key (List.mem_cons_of_mem _ member)) later json below
          · exact old

theorem unpack_length : (element.unpack format vars).length = vars.length := by
  induction format generalizing vars with
  | nil => cases vars <;> simp [Json.unpack]
  | cons key more ih =>
      obtain ⟨key, kind⟩ := key
      cases vars with
      | nil => simp [Json.unpack]
      | cons first olds =>
          rw [Json.unpack]
          split
          · simp [ih]
          · rfl

theorem mapM_id_eq {values : List Json} (all : vars.mapM id = some values) :
    vars = values.map some := by
  induction vars generalizing values with
  | nil => simp_all
  | cons first rest ih =>
      simp only [List.mapM_cons, id, Option.bind_eq_bind, Option.bind_eq_some_iff] at all
      obtain ⟨value, rfl, more, later, same⟩ := all
      obtain rfl := Option.some.inj same
      rw [ih later, List.map_cons]

def IsTexts (J : Jansson) (width : Nat) (row : List Json) : Prop :=
  row.length = width ∧ ∀ json ∈ row, ∃ text, json = .string text ∧ J.accepts text = true

theorem unpackEach_texts (strings : ∀ key ∈ format, key.2 = .s)
    (holds : ∀ element ∈ elements, J.Holds element) (old : Texts J vars) :
    IfReturns (unpackEach format vars elements) fun rows =>
      ∀ row ∈ rows, IsTexts J vars.length row := by
  induction elements generalizing vars with
  | nil => exact fun _ member => absurd member List.not_mem_nil
  | cons element rest ih =>
      have texts := unpack_texts strings (holds element List.mem_cons_self) old
      have width : (element.unpack format vars).length = vars.length := unpack_length
      rw [unpackEach]
      split
      · trivial
      · rename_i values all
        rw [mapM_id_eq all] at texts width
        refine (ih (fun element member => holds element (List.mem_cons_of_mem _ member))
          (mapM_id_eq all ▸ texts)).bind fun rows later => ?_
        refine .value fun row member => ?_
        rcases List.mem_cons.mp member with rfl | below
        · refine ⟨by simpa using width, fun json there => texts json (List.mem_map_of_mem there)⟩
        · have row := later row below
          rwa [unpack_length] at row

theorem zip_kept {keys : List String} {row : List Json} (distinct : keys.Nodup)
    (texts : IsTexts J keys.length row) : J.Holds (.object (keys.zip row)) := by
  have names : (keys.zip row).map Prod.fst = keys :=
    List.map_fst_zip (Nat.le_of_eq texts.1.symm)
  refine Jansson.holds_object.mpr ⟨by rwa [names], fun field member => ?_⟩
  obtain ⟨text, same, fits⟩ := texts.2 field.2 (List.of_mem_zip member).2
  rw [same]
  exact .string fits

theorem exists_forall₂ {α β : Type} {R : α → β → Prop} {values : List α}
    (each : ∀ a ∈ values, ∃ b, R a b) : ∃ others, List.Forall₂ R values others := by
  induction values with
  | nil => exact ⟨[], .nil⟩
  | cons a rest ih =>
      obtain ⟨b, here⟩ := each a List.mem_cons_self
      obtain ⟨others, later⟩ := ih fun a member => each a (List.mem_cons_of_mem _ member)
      exact ⟨b :: others, .cons here later⟩

theorem zip_carries {keys : List String} {row : List Json}
    (texts : IsTexts J (keys.length + 2) row) :
    ∃ entry, Carries "filename" "client_checksum"
      (.object (("filename" :: "client_checksum" :: keys).zip row)) entry := by
  obtain ⟨width, each⟩ := texts
  match row, width with
  | first :: second :: rest, _ =>
      obtain ⟨filename, rfl, _⟩ := each first List.mem_cons_self
      obtain ⟨checksum, rfl, _⟩ := each second (by simp)
      exact ⟨(filename, checksum), ⟨_, rfl⟩, rfl, rfl⟩

theorem documentArray_kept {array : Option Json} (keys : List String)
    (distinct : ("filename" :: "client_checksum" :: keys).Nodup)
    (holds : ∀ element ∈ Json.elements array, J.Holds element) :
    IfReturns (documentArray mongo
        (("filename" :: "client_checksum" :: keys).map fun key => (key, .s)) array)
      fun files => ∀ row : SessionRow, SessionRow.Kept J { row with files } := by
  have strings : ∀ key ∈ ("filename" :: "client_checksum" :: keys).map fun key =>
      (key, Json.Format.s), key.2 = .s := by simp
  have nothing : Texts J ((("filename" :: "client_checksum" :: keys).map fun key =>
      (key, Json.Format.s)).map fun _ => none) := by simp [Texts]
  have names : (("filename" :: "client_checksum" :: keys).map fun key =>
      (key, Json.Format.s)).map Prod.fst = "filename" :: "client_checksum" :: keys := by
    simp [Function.comp_def]
  rw [documentArray_eq]
  refine (unpackEach_texts strings holds nothing).bind fun rows texts => .value fun row => ?_
  rw [names]
  simp only [List.length_map] at texts
  constructor
  · refine .array fun document member => ?_
    obtain ⟨row, listed, rfl⟩ := List.mem_map.mp member
    exact zip_kept distinct (texts row listed)
  · refine exists_forall₂ fun document member => ?_
    obtain ⟨row, listed, rfl⟩ := List.mem_map.mp member
    exact zip_carries (texts row listed)

theorem insertChecksum_holds {pivotKey key : String} (accepted : J.accepts checksum = true)
    (holds : ∀ element ∈ elements, J.Holds element) :
    IfReturns (insertChecksum pivotKey key filename checksum elements) fun inserted =>
      ∀ next ∈ inserted, ∀ element ∈ next, J.Holds element := by
  induction elements with
  | nil => exact fun _ there => nomatch there
  | cons element rest ih =>
      have here := holds element List.mem_cons_self
      have below : ∀ element ∈ rest, J.Holds element :=
        fun element member => holds element (List.mem_cons_of_mem _ member)
      rw [insertChecksum]
      refine any_outcome.bind fun name _ => ?_
      split_ifs
      · refine .value fun next same => ?_
        obtain rfl := Option.some.inj same
        intro element member
        rcases List.mem_cons.mp member with rfl | later
        · exact here.set (.string accepted)
        · exact below element later
      · refine (ih below).bind fun later holds => .value fun next same => ?_
        obtain ⟨others, found, rfl⟩ := Option.map_eq_some_iff.mp same
        intro element member
        rcases List.mem_cons.mp member with rfl | inside
        · exact here
        · exact holds others found element inside

theorem joinInto_holds {pivotKey aKey bKey : String} (texts : Texts J vars)
    (joinedHold : ∀ element ∈ joined, J.Holds element)
    (holds : ∀ element ∈ elements, J.Holds element) (emptyFits : J.accepts CString.empty = true) :
    IfReturns (joinInto pivotKey aKey bKey vars joined elements) fun next =>
      ∀ element ∈ next, J.Holds element := by
  induction elements generalizing vars joined with
  | nil => exact joinedHold
  | cons element rest ih =>
      have here := holds element List.mem_cons_self
      have below : ∀ element ∈ rest, J.Holds element :=
        fun element member => holds element (List.mem_cons_of_mem _ member)
      have read : Texts J (element.unpack [(pivotKey, .s), (bKey, .s)] vars) :=
        unpack_texts (by simp) here texts
      rw [joinInto]
      split
      · rename_i filename checksum same
        rw [same] at read ⊢
        obtain ⟨_, text, accepted⟩ := read (.string checksum) (by simp)
        rw [← Json.string.inj text] at accepted
        refine (insertChecksum_holds accepted joinedHold).bind fun inserted insertedHold => ?_
        cases inserted with
        | some next => exact ih read (insertedHold next rfl) below
        | none =>
            refine ih read (fun element member => ?_) below
            rcases List.mem_append.mp member with old | added
            · exact joinedHold element old
            · obtain rfl := List.mem_singleton.mp added
              exact here.set (.string emptyFits)
      · trivial

theorem joinChecksumArrays_holds {pivotKey aKey bKey : String} {a b : Option Json}
    (aHolds : ∀ element ∈ Json.elements a, J.Holds element)
    (bHolds : ∀ element ∈ Json.elements b, J.Holds element)
    (emptyFits : J.accepts CString.empty = true) :
    IfReturns (joinChecksumArrays pivotKey a aKey b bKey) fun joined =>
      ∀ element ∈ joined, J.Holds element := by
  refine joinInto_holds (by simp [Texts]) (fun element member => ?_) bHolds emptyFits
  obtain ⟨old, listed, rfl⟩ := List.mem_map.mp member
  exact (aHolds old listed).set (.string emptyFits)

variable {db : Db} {wsi : Wsi} {oid : Oid} {recvd : Json} {sessionId : CString}

def SessionField.Holds (J : Jansson) : SessionField → Prop
  | .clientChecksum value | .files value => ∀ element ∈ Json.elements value, J.Holds element
  | _ => True

theorem updateOne_mem {α κ : Type} [DecidableEq κ] {key : α → κ} {k : κ} {f : α → α} {rows : List α}
    {row : α} (member : row ∈ updateOne key k f rows) :
    row ∈ rows ∨ ∃ old ∈ rows, row = f old := by
  induction rows with
  | nil => cases member
  | cons first rest ih =>
      rw [updateOne] at member
      split_ifs at member
      · rcases List.mem_cons.mp member with rfl | later
        · exact .inr ⟨first, List.mem_cons_self, rfl⟩
        · exact .inl (List.mem_cons_of_mem _ later)
      · rcases List.mem_cons.mp member with rfl | later
        · exact .inl List.mem_cons_self
        · rcases ih later with old | ⟨old, listed, same⟩
          · exact .inl (List.mem_cons_of_mem _ old)
          · exact .inr ⟨old, List.mem_cons_of_mem _ listed, same⟩

theorem assign_kept {field : SessionField} (holds : field.Holds J) :
    IfReturns (field.assign mongo) fun assign =>
      ∀ row : SessionRow, row.Kept J → (assign row).Kept J := by
  cases field with
  | clientWsi | state => exact fun row kept => ⟨kept.holds, kept.hasFiles⟩
  | diff => exact any_outcome.bind fun _ _ => .value fun row kept => ⟨kept.holds, kept.hasFiles⟩
  | clientChecksum value =>
      have written : IfReturns
          (documentArray mongo [("filename", .s), ("client_checksum", .s)] value) _ :=
        documentArray_kept [] (by decide) holds
      exact written.bind fun files kept => .value fun row _ => kept row
  | files value =>
      have written : IfReturns (documentArray mongo
          [("filename", .s), ("client_checksum", .s), ("fs_checksum", .s)] value) _ :=
        documentArray_kept ["fs_checksum"] (by decide) holds
      exact written.bind fun files kept => .value fun row _ => kept row

theorem updateSession_kept (field : SessionField) (kept : db.Kept J) (holds : field.Holds J) :
    IfReturns (updateSession db sessionId field) (Db.Kept J) := by
  rw [updateSession_eq]
  refine (assign_kept holds).bind fun assign keeps => .value fun row member => ?_
  rcases updateOne_mem member with old | ⟨old, listed, rfl⟩
  · exact kept row old
  · exact keeps old (kept old listed)

theorem insertSession_kept {fileserverWsi clientWsi : Wsi} {repoName : CString}
    {state : MetadataType} (kept : db.Kept J) :
    (insertSession db sessionId fileserverWsi clientWsi repoName state).Kept J := by
  intro row member
  rw [insertSession_eq] at member
  rcases List.mem_append.mp member with old | added
  · exact kept row old
  · obtain rfl := List.mem_singleton.mp added
    exact ⟨.array (fun _ there => absurd there List.not_mem_nil), [], .nil⟩

theorem onTransfer_kept {type : MetadataType} {more : SessionInfo → List (String × Json)}
    (kept : db.Kept J) :
    IfReturns (onTransfer J type more db wsi recvd) fun served => served.store.Kept J :=
  any_outcome.bind fun _ _ => any_outcome.bind fun _ _ => any_outcome.bind fun _ _ =>
    any_outcome.bind fun _ _ => any_outcome.bind fun _ _ =>
      (updateSession_kept (.clientWsi wsi) kept trivial).bind fun _ kept =>
        any_outcome.bind fun _ _ => .value kept

theorem onReady_kept {type : MetadataType} {text : CString} (kept : db.Kept J) :
    IfReturns (onReady J type db text recvd) fun served => served.store.Kept J :=
  any_outcome.bind fun _ _ => any_outcome.bind fun _ _ => any_outcome.bind fun _ _ =>
    any_outcome.bind fun _ _ => .value kept

theorem onSyStatus_kept (kept : db.Kept J) (holds : J.Holds recvd) :
    IfReturns (onSyStatus J db wsi recvd) fun served => served.store.Kept J := by
  have elements : ∀ element ∈ Json.elements (recvd.get "files"), J.Holds element :=
    Jansson.Holds.elements fun _ found => holds.get found
  exact any_outcome.bind fun _ _ => any_outcome.bind fun _ _ => any_outcome.bind fun _ _ =>
    (updateSession_kept (.state .syStatus) kept trivial).bind fun _ kept =>
      (updateSession_kept (.clientChecksum _) kept elements).bind fun _ kept =>
        (updateSession_kept (.clientWsi wsi) kept trivial).bind fun _ kept =>
          any_outcome.bind fun _ _ => .value kept

theorem getSession_files (lossless : J.Lossless) (kept : db.Kept J) :
    IfReturns (getSession J db sessionId) fun pointer => ∀ session ∈ pointer,
      ∀ element ∈ Json.elements (J.loads session.files), J.Holds element := by
  cases got : getSession J db sessionId with
  | error => trivial
  | ok pointer =>
      rintro session there
      rw [Option.mem_def] at there
      subst there
      obtain ⟨row, found, _, rfl⟩ := getSession_ok.mp got
      have holds : J.Holds row.files := (kept row (findSession_mem found)).holds
      have loaded : J.loads (row.info J).files = some row.files := lossless _ holds
      rw [loaded]
      exact Jansson.Holds.elements fun _ same => Option.some.inj same ▸ holds

theorem onFsStatusOk_kept (lossless : J.Lossless) (emptyFits : J.accepts CString.empty = true)
    (kept : db.Kept J) (holds : J.Holds recvd) :
    IfReturns (onFsStatusOk J db recvd) fun served => served.store.Kept J := by
  have elements : ∀ element ∈ Json.elements (recvd.get "files"), J.Holds element :=
    Jansson.Holds.elements fun _ found => holds.get found
  refine any_outcome.bind fun sessionId _ => ?_
  refine (getSession_files lossless kept).bind fun pointer clientHolds => ?_
  cases pointer with
  | none => trivial
  | some session =>
      refine (joinChecksumArrays_holds elements (clientHolds session rfl) emptyFits).bind
        fun joined joinedHold => ?_
      refine (updateSession_kept (.files (some (.array joined))) kept joinedHold).bind fun _ kept => ?_
      refine any_outcome.bind fun diff _ => ?_
      refine (updateSession_kept (.diff (some (.array diff))) kept trivial).bind fun _ kept => ?_
      exact any_outcome.bind fun _ _ => .value kept

theorem onSyInit_kept (kept : db.Kept J) :
    IfReturns (onSyInit J db wsi oid recvd) fun served => served.store.Kept J := by
  rw [onSyInit]
  split_ifs
  · exact .value kept
  · exact any_outcome.bind fun _ _ => any_outcome.bind fun _ _ => .value (insertSession_kept kept)

theorem onFsInitOk_kept (kept : db.Kept J) :
    IfReturns (onFsInitOk J db oid recvd) fun served => served.store.Kept J := by
  refine any_outcome.bind fun _ _ => any_outcome.bind fun _ _ => any_outcome.bind fun session _ => ?_
  have registered : (insertFilesys db oid.val session.repoName session.fileserverWsi).Kept J := kept
  exact (updateSession_kept (.state .syInitOk) registered trivial).bind fun _ kept =>
    any_outcome.bind fun _ _ => .value kept

theorem onSyConnect_kept (kept : db.Kept J) :
    IfReturns (onSyConnect J db wsi oid recvd) fun served => served.store.Kept J := by
  refine any_outcome.bind fun _ _ => any_outcome.bind fun pointer _ => ?_
  cases pointer with
  | none => exact .value kept
  | some uri => exact any_outcome.bind fun _ _ => .value (insertSession_kept kept)

theorem deleteSession_kept (kept : db.Kept J) : (deleteSession db sessionId).Kept J := by
  rw [deleteSession_eq]
  exact fun row member => kept row (List.mem_of_mem_eraseP member)

theorem onSyCleanup_kept (kept : db.Kept J) :
    IfReturns (onSyCleanup J db wsi recvd) fun served => served.store.Kept J :=
  any_outcome.bind fun _ _ => any_outcome.bind fun _ _ => .value (deleteSession_kept kept)

variable {input : Received} {served : Served Db}

theorem receive_kept (lossless : J.Lossless) (emptyFits : J.accepts CString.empty = true)
    (kept : db.Kept J) (holds : ∀ recvd, J.loads input.dataStr = some recvd → J.Holds recvd) :
    IfReturns (callbackSdpReceive J db wsi input) fun served => served.store.Kept J := by
  unfold callbackSdpReceive
  split
  · trivial
  · rename_i recvd loaded
    have held := holds recvd loaded
    refine any_outcome.bind fun type _ => ?_
    split
    · exact any_outcome.bind fun _ _ => .value kept
    · exact onSyInit_kept kept
    · exact onFsInitOk_kept kept
    · exact onSyConnect_kept kept
    · exact onSyStatus_kept kept held
    · exact onFsStatusOk_kept lossless emptyFits kept held
    · exact onTransfer_kept kept
    · exact onReady_kept kept
    · exact onTransfer_kept kept
    · exact onReady_kept kept
    · exact onSyCleanup_kept kept
    · exact .value kept

def Readable (J : Jansson) (_ : Loop Db) : Action Received → Prop
  | .receive _ input => ∀ recvd, J.loads input.dataStr = some recvd → J.Holds recvd
  | _ => True

variable {s next : Loop Db} {action : Action Received} {emitted events : List Event}
  {actions : List (Action Received)}

theorem step_kept (lossless : J.Lossless) (emptyFits : J.accepts CString.empty = true)
    (kept : s.store.Kept J) (readable : Readable J s action)
    (moved : step (metadataServer J) s action = some (next, emitted)) : next.store.Kept J := by
  cases action with
  | established wsi =>
      obtain ⟨_, _, served, outcome, committed⟩ := step_established moved
      obtain rfl := Except.ok.inj outcome
      have reached : ((s.opened wsi).commit wsi (Served.silent s.store)).1 = next :=
        congrArg Prod.fst committed
      rw [← reached, commit_store]
      exact kept
  | closed wsi =>
      obtain ⟨_, rfl, _⟩ := step_closed moved
      exact kept
  | receive wsi input =>
      obtain ⟨_, served, outcome, committed⟩ := step_receive moved
      have reached : (s.commit wsi served).1 = next := congrArg Prod.fst committed
      rw [← reached, commit_store]
      exact (receive_kept lossless emptyFits kept readable).ok outcome
  | writeable wsi =>
      obtain ⟨_, rfl, _⟩ := step_writeable moved
      exact kept

theorem run_kept {db : Db} (lossless : J.Lossless) (emptyFits : J.accepts CString.empty = true)
    (kept : db.Kept J)
    (run : RunIf (Readable J) (step (metadataServer J)) (Loop.start db) actions s events) :
    s.store.Kept J :=
  run.invariant (fun s _ => s.store.Kept J) kept fun _ _ _ _ _ kept readable moved =>
    step_kept lossless emptyFits kept readable moved

end Librtcdc.Metadata
