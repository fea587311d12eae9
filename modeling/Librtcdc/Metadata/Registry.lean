import Mathlib.Data.List.Nodup
import Librtcdc.Metadata.Convergence
import Librtcdc.Metadata.Sessions
import Librtcdc.Shared.Registry

set_option autoImplicit false

namespace Librtcdc.Metadata

open Systems Sync

abbrev Place := CString × BitVec 32
abbrev ServerRegistry := Registry CString CString CString (BitVec 32)
abbrev ServerMove := Registry.Move CString CString CString (BitVec 32)

def SessionRow.place (row : SessionRow) : Place := (row.repoName, row.fileserverWsi)

def FilesysRow.place (row : FilesysRow) : Place := (row.repoName, row.fileserverWsi)

def registryOf (db : Db) : ServerRegistry where
  servers := db.fileserver.map FileserverRow.wsi
  sessions id := (findSession db id).map SessionRow.place
  codes code := (findOne FilesysRow.uriCode code db.filesys).map FilesysRow.place

-- The server that has been registered longest, unless its pointer reads back as NULL.
def chosen (servers : List (BitVec 32)) : Option (BitVec 32) :=
  servers.head?.filter fun server => server != 0

def textMove (wsi : Wsi) (oid : Oid) (recvd : Json) : MetadataType → Option ServerMove
  | .fsRegister => some (.register (toInt32 wsi))
  | .syInit => (recvd.text "repo_name").map (.create oid.val)
  | .fsInitOk => (recvd.text "session_id").map (.publish · oid.val)
  | .syConnect => (recvd.text "URI_code").map (.join oid.val)
  | .syCleanup => (recvd.text "session_id").map .close
  | _ => none

def moveOf (J : Jansson) : Action Received → Option ServerMove
  | .closed wsi => some (.leave (toInt32 wsi))
  | .receive wsi input =>
      (J.loads input.dataStr).bind fun recvd =>
        match metadataType recvd with
        | .ok (some type) => textMove wsi input.oid recvd type
        | _ => none
  | .established _ | .writeable _ => none

structure Keyed (db : Db) : Prop where
  sessions : (db.session.map SessionRow.sessionId).Nodup
  fileservers : ∀ row ∈ db.fileserver, row.fileserverName = fileserverDns

-- The id that is generated is in no document.
def New (s : Loop Db) : Action Received → Prop
  | .receive _ input => findSession s.store input.oid.val = none ∧
      findOne FilesysRow.uriCode input.oid.val s.store.filesys = none
  | _ => True

instance (s : Loop Db) : (action : Action Received) → Decidable (New s action)
  | .receive _ input => inferInstanceAs (Decidable (findSession s.store input.oid.val = none ∧
      findOne FilesysRow.uriCode input.oid.val s.store.filesys = none))
  | .established _ | .closed _ | .writeable _ => .isTrue trivial

structure Does (db : Db) (move : Option ServerMove) (served : Served Db) : Prop where
  keyed : Keyed served.store
  registry : registryOf served.store = (registryOf db).afterAll chosen move.toList

variable {J : Jansson} {db db' : Db} {sessionId : CString} {wsi : Wsi} {oid : Oid} {recvd : Json}
  {served : Served Db} {field : SessionField}

theorem assign_place {mongo : Mongo} {assign : SessionRow → SessionRow}
    (assigned : field.assign mongo = .ok assign) (row : SessionRow) :
    (assign row).place = row.place := by
  cases field with
  | clientWsi | state =>
      obtain rfl := Except.ok.inj assigned
      rfl
  | clientChecksum | files | diff =>
      obtain ⟨_, _, made⟩ := bind_ok.mp assigned
      obtain rfl := Except.ok.inj made
      rfl

theorem updateSession_registry (keyed : Keyed db)
    (updated : updateSession db sessionId field = .ok db') :
    Keyed db' ∧ registryOf db' = registryOf db := by
  obtain ⟨assign, assigned, rfl⟩ := updateSession_ok updated
  have keeps := fun row => (SessionField.assign_keeps assigned row).1
  have places : ∀ id, (findSession { db with
      session := updateOne SessionRow.sessionId sessionId assign db.session } id).map
        SessionRow.place = (findSession db id).map SessionRow.place := by
    intro id
    by_cases here : id = sessionId
    · subst here
      rw [findSession_eq, findSession_eq, findOne_updateOne_same keeps, Option.map_map]
      congr 1
      funext row
      exact assign_place assigned row
    · rw [findSession_eq, findSession_eq, findOne_updateOne_other keeps here]
  refine ⟨⟨?_, keyed.fileservers⟩, ?_⟩
  · rw [keys_updateOne keeps]
    exact keyed.sessions
  · simp only [registryOf, places]

theorem getWsi_chosen (keyed : Keyed db) :
    (getWsi db fileserverDns = Wsi.null ∧ chosen (registryOf db).servers = none) ∨
      getWsi db fileserverDns ≠ Wsi.null ∧
        chosen (registryOf db).servers = some (toInt32 (getWsi db fileserverDns)) := by
  obtain ⟨mongo, fileserver, session, filesys⟩ := db
  rw [getWsi_eq]
  cases fileserver with
  | nil => exact .inl ⟨rfl, rfl⟩
  | cons row rest =>
      have here : row.fileserverName = fileserverDns := keyed.fileservers row List.mem_cons_self
      rw [findOne_cons, if_pos here, Option.elim_some, toInt32_ofInt32]
      by_cases null : row.wsi = 0
      · refine .inl ⟨?_, ?_⟩
        · rw [null]
          decide
        · simp [chosen, registryOf, null]
      · refine .inr ⟨fun same => null ?_, ?_⟩
        · rw [← toInt32_ofInt32 row.wsi, same]
          decide
        · simp only [chosen, registryOf, List.map_cons, List.head?_cons, Option.filter_some]
          exact if_pos (bne_iff_ne.mpr null)

theorem insertSession_registry {id : CString} (fileserverWsi clientWsi : Wsi) (repoName : CString)
    (state : MetadataType) (keyed : Keyed db) (fresh : findSession db id = none) :
    Keyed (insertSession db id fileserverWsi clientWsi repoName state) ∧
      registryOf (insertSession db id fileserverWsi clientWsi repoName state) =
        (registryOf db).opened id (some (repoName, toInt32 fileserverWsi)) := by
  rw [findSession_eq] at fresh
  rw [insertSession_eq]
  refine ⟨⟨?_, keyed.fileservers⟩, ?_⟩
  · rw [List.map_append, List.map_singleton, ← List.concat_eq_append, List.nodup_concat]
    exact ⟨findOne_eq_none.mp fresh, keyed.sessions⟩
  · simp only [registryOf, findSession_eq, Registry.opened, Registry.mk.injEq, true_and, and_true]
    funext other
    by_cases here : other = id
    · subst here
      let row := newSession other fileserverWsi clientWsi repoName state
      have own : findOne SessionRow.sessionId row.sessionId (db.session ++ [row]) = some row :=
        findOne_append_fresh fresh
      rw [Function.update_self]
      exact congrArg (Option.map SessionRow.place) own
    · rw [Function.update_of_ne here, findOne_append_other (Ne.symm here)]

theorem insertFilesys_registry {code : CString} (repoName : CString) (fileserverWsi : Wsi)
    (keyed : Keyed db)
    (fresh : findOne FilesysRow.uriCode code db.filesys = none) :
    Keyed (insertFilesys db code repoName fileserverWsi) ∧
      registryOf (insertFilesys db code repoName fileserverWsi) =
        (registryOf db).published code (some (repoName, toInt32 fileserverWsi)) := by
  rw [insertFilesys_eq]
  refine ⟨⟨keyed.sessions, keyed.fileservers⟩, ?_⟩
  simp only [registryOf, Registry.published, Registry.mk.injEq, true_and]
  refine ⟨rfl, funext fun other => ?_⟩
  by_cases here : other = code
  · subst here
    let row : FilesysRow := ⟨other, toInt32 fileserverWsi, repoName⟩
    have own : findOne FilesysRow.uriCode row.uriCode (db.filesys ++ [row]) = some row :=
      findOne_append_fresh fresh
    rw [Function.update_self]
    exact congrArg (Option.map FilesysRow.place) own
  · rw [Function.update_of_ne here, findOne_append_other (Ne.symm here)]

theorem deleteSession_registry {id : CString} (keyed : Keyed db) :
    Keyed (deleteSession db id) ∧
      registryOf (deleteSession db id) =
        { registryOf db with sessions := Function.update (registryOf db).sessions id none } := by
  rw [deleteSession_eq]
  refine ⟨⟨nodup_removeOne keyed.sessions, keyed.fileservers⟩, ?_⟩
  simp only [registryOf, findSession_eq, Registry.mk.injEq, true_and, and_true]
  funext other
  by_cases here : other = id
  · subst here
    rw [Function.update_self, findOne_removeOne_same keyed.sessions]
    rfl
  · rw [Function.update_of_ne here, findOne_removeOne_other here]

theorem getUri_none {uriCode : CString} (got : getUri db uriCode = .ok none) :
    findOne FilesysRow.uriCode uriCode db.filesys = none := by
  rw [getUri, findUri_eq] at got
  split at got
  · assumption
  · simp only [bind_ok, return_ok, reduceCtorEq, and_false, exists_false] at got

theorem getUri_some {uriCode : CString} {uri : UriInfo} (got : getUri db uriCode = .ok (some uri)) :
    ∃ row, findOne FilesysRow.uriCode uriCode db.filesys = some row ∧
      uri = { fileserverWsi := ofInt32 row.fileserverWsi, repoName := row.repoName, uriCode } := by
  rw [getUri, findUri_eq] at got
  split at got
  · cases got
  · rename_i row found
    simp only [bind_ok, strcpy_ok] at got
    obtain ⟨_, ⟨_, rfl⟩, _, ⟨_, rfl⟩, made⟩ := got
    exact ⟨row, found, (Option.some.inj (Except.ok.inj made)).symm⟩

theorem Does.still {notes : List Note} {sent : Option Message} {store : Db}
    (kept : Keyed store ∧ registryOf store = registryOf db) :
    Does db none { store, notes, sent } :=
  ⟨kept.1, kept.2⟩

theorem onFsRegister_does (keyed : Keyed db) (handled : onFsRegister J db wsi = .ok served) :
    Does db (some (.register (toInt32 wsi))) served := by
  simp only [onFsRegister, bind_ok, return_ok] at handled
  obtain ⟨m, _, rfl⟩ := handled
  rw [insertFileserver_eq]
  refine ⟨⟨keyed.sessions, fun row member => ?_⟩, ?_⟩
  · rcases List.mem_append.mp member with old | new
    · exact keyed.fileservers row old
    · obtain rfl := List.mem_singleton.mp new
      rfl
  · simp [registryOf, Registry.afterAll, Registry.after, findSession]

theorem onSyInit_does (keyed : Keyed db) (fresh : findSession db oid.val = none)
    (handled : onSyInit J db wsi oid recvd = .ok served) :
    Does db ((recvd.text "repo_name").map (.create oid.val)) served := by
  simp only [onSyInit] at handled
  rcases getWsi_chosen keyed with ⟨nobody, none_chosen⟩ | ⟨there, one_chosen⟩
  · rw [if_pos nobody] at handled
    obtain rfl := return_ok.mp handled
    refine ⟨keyed, ?_⟩
    cases recvd.text "repo_name" with
    | none => rfl
    | some repoName =>
        simp [Registry.afterAll, Registry.after, none_chosen, Registry.opened, Served.silent]
  · rw [if_neg there] at handled
    simp only [bind_ok, return_ok, unpackText_ok] at handled
    obtain ⟨repoName, named, m, _, rfl⟩ := handled
    obtain ⟨keyed', opened⟩ := insertSession_registry _ _ _ _ keyed fresh
    refine ⟨keyed', opened.trans ?_⟩
    simp [named, Registry.afterAll, Registry.after, one_chosen]

theorem onFsInitOk_does (keyed : Keyed db)
    (fresh : findOne FilesysRow.uriCode oid.val db.filesys = none)
    (handled : onFsInitOk J db oid recvd = .ok served) :
    Does db ((recvd.text "session_id").map (.publish · oid.val)) served := by
  simp only [onFsInitOk, bind_ok, return_ok, unpackText_ok, deref_ok] at handled
  obtain ⟨sessionId, named, pointer, got, session, rfl, db', moved, m, _, rfl⟩ := handled
  obtain ⟨row, found, _, rfl⟩ := getSession_ok.mp got
  obtain ⟨keyed', published⟩ := insertFilesys_registry row.repoName
    (ofInt32 row.fileserverWsi) keyed fresh
  obtain ⟨keyed'', same⟩ := updateSession_registry keyed' moved
  refine ⟨keyed'', (same.trans published).trans ?_⟩
  have known : (registryOf db).sessions sessionId = some (row.repoName, row.fileserverWsi) := by
    simp [registryOf, found, SessionRow.place]
  simp [named, Registry.afterAll, Registry.after, known, toInt32_ofInt32]

theorem onSyConnect_does (keyed : Keyed db) (fresh : findSession db oid.val = none)
    (handled : onSyConnect J db wsi oid recvd = .ok served) :
    Does db ((recvd.text "URI_code").map (.join oid.val)) served := by
  simp only [onSyConnect, bind_ok, unpackText_ok] at handled
  obtain ⟨uriCode, named, pointer, got, handled⟩ := handled
  rw [named, Option.map_some]
  cases pointer with
  | none =>
      obtain rfl := return_ok.mp handled
      have unknown := getUri_none got
      exact ⟨keyed, by simp [Registry.afterAll, Registry.after, registryOf, unknown,
        Registry.opened, Served.silent]⟩
  | some uri =>
      simp only [bind_ok, return_ok] at handled
      obtain ⟨m, _, rfl⟩ := handled
      obtain ⟨row, found, rfl⟩ := getUri_some got
      obtain ⟨keyed', opened⟩ := insertSession_registry _ _ _ _ keyed fresh
      refine ⟨keyed', opened.trans ?_⟩
      simp [Registry.afterAll, Registry.after, registryOf, found, FilesysRow.place,
        toInt32_ofInt32]

theorem onSyStatus_does (keyed : Keyed db) (handled : onSyStatus J db wsi recvd = .ok served) :
    Does db none served := by
  simp only [onSyStatus, bind_ok, return_ok] at handled
  obtain ⟨_, _, _, _, _, _, db₁, first, db₂, second, db₃, third, m, _, rfl⟩ := handled
  obtain ⟨keyed₁, same₁⟩ := updateSession_registry keyed first
  obtain ⟨keyed₂, same₂⟩ := updateSession_registry keyed₁ second
  obtain ⟨keyed₃, same₃⟩ := updateSession_registry keyed₂ third
  exact .still ⟨keyed₃, same₃.trans (same₂.trans same₁)⟩

theorem onFsStatusOk_does (keyed : Keyed db) (handled : onFsStatusOk J db recvd = .ok served) :
    Does db none served := by
  simp only [onFsStatusOk, bind_ok, return_ok] at handled
  obtain ⟨_, _, _, _, _, _, _, _, db₁, first, _, _, db₂, second, m, _, rfl⟩ := handled
  obtain ⟨keyed₁, same₁⟩ := updateSession_registry keyed first
  obtain ⟨keyed₂, same₂⟩ := updateSession_registry keyed₁ second
  exact .still ⟨keyed₂, same₂.trans same₁⟩

theorem onTransfer_does {type : MetadataType} {more : SessionInfo → List (String × Json)}
    (keyed : Keyed db) (handled : onTransfer J type more db wsi recvd = .ok served) :
    Does db none served := by
  simp only [onTransfer, bind_ok, return_ok] at handled
  obtain ⟨_, _, _, _, _, _, _, _, _, _, db', moved, m, _, rfl⟩ := handled
  exact .still (updateSession_registry keyed moved)

theorem onReady_does {type : MetadataType} {dataStr : CString} (keyed : Keyed db)
    (handled : onReady J type db dataStr recvd = .ok served) : Does db none served := by
  simp only [onReady, bind_ok, return_ok] at handled
  obtain ⟨_, _, _, _, _, _, m, _, rfl⟩ := handled
  exact .still ⟨keyed, rfl⟩

theorem onSyCleanup_does (keyed : Keyed db) (handled : onSyCleanup J db wsi recvd = .ok served) :
    Does db ((recvd.text "session_id").map .close) served := by
  simp only [onSyCleanup, bind_ok, return_ok, unpackText_ok] at handled
  obtain ⟨sessionId, named, m, _, rfl⟩ := handled
  obtain ⟨keyed', closed⟩ := deleteSession_registry keyed
  refine ⟨keyed', closed.trans ?_⟩
  rw [named]
  rfl

theorem receive_does {input : Received} (keyed : Keyed db)
    (freshSession : findSession db input.oid.val = none)
    (freshCode : findOne FilesysRow.uriCode input.oid.val db.filesys = none)
    (received : callbackSdpReceive J db wsi input = .ok served) :
    Does db (moveOf J (.receive wsi input)) served := by
  unfold callbackSdpReceive at received
  split at received
  · cases received
  · rename_i recvd loaded
    obtain ⟨type, typed, handled⟩ := bind_ok.mp received
    simp only [moveOf, loaded, Option.bind_some, typed]
    cases type with
    | none =>
        obtain rfl := return_ok.mp handled
        exact .still ⟨keyed, rfl⟩
    | some type =>
        cases type with
        | fsRegister => exact onFsRegister_does keyed handled
        | syInit => exact onSyInit_does keyed freshSession handled
        | fsInitOk => exact onFsInitOk_does keyed freshCode handled
        | syConnect => exact onSyConnect_does keyed freshSession handled
        | syStatus => exact onSyStatus_does keyed handled
        | fsStatusOk => exact onFsStatusOk_does keyed handled
        | syUpload | syDownload => exact onTransfer_does keyed handled
        | fsUploadReady | fsDownloadReady => exact onReady_does keyed handled
        | syCleanup => exact onSyCleanup_does keyed handled
        | _ =>
            obtain rfl := return_ok.mp handled
            exact .still ⟨keyed, rfl⟩

variable {s next start : Loop Db} {action : Action Received} {actions : List (Action Received)}
  {events emitted : List Event}

theorem step_does (keyed : Keyed s.store) (new : New s action)
    (moved : step (metadataServer J) s action = some (next, emitted)) :
    Keyed next.store ∧ registryOf next.store =
      (registryOf s.store).afterAll chosen (moveOf J action).toList := by
  cases action with
  | established wsi =>
      obtain ⟨_, _, served, opens, same⟩ := step_established moved
      obtain rfl : Served.silent s.store = served := Except.ok.inj opens
      obtain rfl : ((s.opened wsi).commit wsi (Served.silent s.store)).1 = next := by rw [same]
      exact ⟨keyed, rfl⟩
  | closed wsi =>
      obtain ⟨_, rfl, _⟩ := step_closed moved
      simp only [Loop.drop, metadataServer, deleteFileserver_eq]
      refine ⟨⟨keyed.sessions, fun row member => keyed.fileservers row ?_⟩, ?_⟩
      · exact List.mem_of_mem_eraseP member
      · simp only [registryOf, keys_removeOne]
        rfl
  | receive wsi input =>
      obtain ⟨_, served, received, same⟩ := step_receive moved
      have does := receive_does keyed new.1 new.2 received
      obtain rfl : (s.commit wsi served).1 = next := by rw [same]
      rw [commit_store]
      exact ⟨does.keyed, does.registry⟩
  | writeable wsi =>
      obtain ⟨_, rfl, _⟩ := step_writeable moved
      exact ⟨keyed, rfl⟩

theorem run_does (keyed : Keyed start.store)
    (run : RunIf New (step (metadataServer J)) start actions s events) :
    Keyed s.store ∧ registryOf s.store =
      (registryOf start.store).afterAll chosen (actions.filterMap (moveOf J)) := by
  induction run with
  | refl => exact ⟨keyed, rfl⟩
  | @snoc actions s next events emitted action _ new moved ih =>
      obtain ⟨keyed', same⟩ := step_does ih.1 new moved
      refine ⟨keyed', ?_⟩
      rw [same, ih.2, List.filterMap_append, Registry.afterAll, Registry.afterAll,
        Registry.afterAll, List.foldl_append, List.filterMap_cons, List.filterMap_nil]
      cases moveOf J action <;> rfl

/-- In any run the database is the registry after what the messages and closings asked, in order. -/
theorem server_refines (keyed : Keyed start.store)
    (run : RunIf New (step (metadataServer J)) start actions s events) :
    registryOf s.store =
      (registryOf start.store).afterAll chosen (actions.filterMap (moveOf J)) :=
  (run_does keyed run).2

def notes : Place := (CString.literal "notes", 1)

def publishing : List (Action Received) :=
  [.established 1, .receive 1 registers, .writeable 1,
    .established 2, .receive 2 (inits "notes" firstOid), .writeable 2,
    .receive 1 (initOk firstOid secondOid), .writeable 1, .closed 1]

theorem registryOf_empty (mongo : Mongo) : registryOf (Db.empty mongo) = Registry.empty := by
  simp only [registryOf, findSession_eq]
  rfl

theorem empty_keyed (mongo : Mongo) : Keyed (Loop.start (Db.empty mongo)).store :=
  ⟨List.nodup_nil, nofun⟩

theorem publishing_refines :
    ∃ s events, RunIf New (step (metadataServer Jansson.canonical)) (Loop.start (Db.empty .inOrder))
        publishing s events ∧
      registryOf s.store = Registry.empty.afterAll chosen
        [.register 1, .create firstOid.val notes.1, .publish firstOid.val secondOid.val,
          .leave 1] := by
  have moved : ((execIf New (step (metadataServer Jansson.canonical))
      (Loop.start (Db.empty .inOrder)) publishing).map fun _ => ()) = some () := by decide +kernel
  have asked : publishing.filterMap (moveOf Jansson.canonical) =
      [.register 1, .create firstOid.val notes.1, .publish firstOid.val secondOid.val,
        .leave 1] := by decide +kernel
  obtain ⟨⟨s, events⟩, taken, _⟩ := Option.map_eq_some_iff.mp moved
  have run := execIf_runIf taken
  refine ⟨s, events, run, ?_⟩
  rw [← asked]
  exact server_refines (empty_keyed .inOrder) run

theorem moveOf_some {move : ServerMove} (asked : moveOf J action = some move) :
    (∃ wsi, action = .closed wsi ∧ move = .leave (toInt32 wsi)) ∨
      ∃ wsi input recvd type, action = .receive wsi input ∧
        J.loads input.dataStr = some recvd ∧ metadataType recvd = .ok (some type) ∧
        textMove wsi input.oid recvd type = some move := by
  cases action with
  | closed wsi => exact .inl ⟨wsi, rfl, (Option.some.inj asked).symm⟩
  | receive wsi input =>
      obtain ⟨recvd, loaded, asked⟩ := Option.bind_eq_some_iff.mp asked
      split at asked
      · rename_i type typed
        exact .inr ⟨wsi, input, recvd, type, rfl, loaded, typed, asked⟩
      · cases asked
  | established | writeable => cases asked

theorem textMove_publish {type : MetadataType} {id code : CString}
    (asked : textMove wsi oid recvd type = some (.publish id code)) : code = oid.val := by
  cases type with
  | fsInitOk =>
      obtain ⟨_, _, same⟩ := Option.map_eq_some_iff.mp asked
      cases same
      rfl
  | syInit | syConnect | syCleanup =>
      obtain ⟨_, _, same⟩ := Option.map_eq_some_iff.mp asked
      cases same
  | _ => cases asked

theorem textMove_create {type : MetadataType} {id repoName : CString}
    (asked : textMove wsi oid recvd type = some (.create id repoName)) :
    type = .syInit ∧ recvd.text "repo_name" = some repoName := by
  cases type with
  | syInit =>
      obtain ⟨_, named, same⟩ := Option.map_eq_some_iff.mp asked
      cases same
      exact ⟨rfl, named⟩
  | fsInitOk | syConnect | syCleanup =>
      obtain ⟨_, _, same⟩ := Option.map_eq_some_iff.mp asked
      cases same
  | _ => cases asked

theorem textMove_register {type : MetadataType} {server : BitVec 32}
    (asked : textMove wsi oid recvd type = some (.register server)) :
    type = .fsRegister ∧ server = toInt32 wsi := by
  cases type with
  | fsRegister =>
      cases asked
      exact ⟨rfl, rfl⟩
  | syInit | fsInitOk | syConnect | syCleanup =>
      obtain ⟨_, _, same⟩ := Option.map_eq_some_iff.mp asked
      cases same
  | _ => cases asked

theorem run_codes {code : CString} {place : Place} (keyed : Keyed start.store)
    (known : (registryOf start.store).codes code = some place)
    (run : RunIf New (step (metadataServer J)) start actions s events) :
    Keyed s.store ∧ (registryOf s.store).codes code = some place := by
  refine run.invariant (fun s _ => Keyed s.store ∧ (registryOf s.store).codes code = some place)
    ⟨keyed, known⟩ ?_
  rintro s events action next emitted ⟨keyed, known⟩ new moved
  obtain ⟨keyed', same⟩ := step_does keyed new moved
  refine ⟨keyed', ?_⟩
  rw [same]
  refine Registry.codes_kept known fun move asked id published => ?_
  rw [Option.mem_toList] at asked
  subst published
  rcases moveOf_some asked with ⟨_, _, other⟩ | ⟨wsi, input, recvd, type, rfl, _, _, text⟩
  · cases other
  · obtain rfl := textMove_publish text
    simp [registryOf, new.2] at known

/-- A URI code that was given out stays good: whoever connects with it later gets a session for the
same repository on the same file server, unless a text overflows its buffer. -/
theorem code_opens {code : CString} {place : Place} {input : Received} (keyed : Keyed start.store)
    (known : (registryOf start.store).codes code = some place)
    (run : RunIf New (step (metadataServer J)) start actions s events)
    (loaded : J.loads input.dataStr = some recvd)
    (typed : metadataType recvd = .ok (some .syConnect))
    (named : recvd.text "URI_code" = some code) (new : New s (.receive wsi input))
    (fits : callbackSdpReceive J s.store wsi input ≠ .error .overflow) :
    ∃ served, callbackSdpReceive J s.store wsi input = .ok served ∧
      (registryOf served.store).sessions input.oid.val = some place ∧
      served.sent = some (composed J wsi .syConnectOk (connectOkBody input.oid)) := by
  obtain ⟨keyed', known'⟩ := run_codes keyed known run
  obtain ⟨row, found, rfl⟩ := Option.map_eq_some_iff.mp known'
  have handles : callbackSdpReceive J s.store wsi input =
      onSyConnect J s.store wsi input.oid recvd := by
    simp only [callbackSdpReceive, loaded, typed, ok_bind]
  rw [handles] at fits ⊢
  obtain ⟨served, returned, m, sent, rfl, stored⟩ :=
    (onSyConnect_stores named found).toReturns.result fun _ excused => excused ▸ fits
  refine ⟨served, returned, ?_, sent⟩
  rw [stored, (insertSession_registry _ _ _ _ keyed' new.1).2]
  simp only [Registry.opened, Function.update_self, toInt32_ofInt32, FilesysRow.place]

def connects (code : CString) (oid : Oid) : Received where
  dataStr := text (object .syConnect [("URI_code", .string code)])
  oid := oid

theorem published_opens :
    ∃ s events served, RunIf New (step (metadataServer Jansson.canonical))
        (Loop.start (insertFilesys (Db.empty .inOrder) secondOid.val notes.1 1))
        [.established 1, .receive 1 registers, .closed 1, .established 2] s events ∧
      callbackSdpReceive Jansson.canonical s.store 2 (connects secondOid.val firstOid) = .ok served ∧
      (registryOf served.store).sessions firstOid.val = some notes := by
  have moved : ((execIf New (step (metadataServer Jansson.canonical))
      (Loop.start (insertFilesys (Db.empty .inOrder) secondOid.val notes.1 1))
      [.established 1, .receive 1 registers, .closed 1, .established 2]).map fun last =>
        (decide (New last.1 (.receive 2 (connects secondOid.val firstOid))),
          stopsWith .overflow (callbackSdpReceive Jansson.canonical last.1.store 2
            (connects secondOid.val firstOid)))) = some (true, false) := by decide +kernel
  obtain ⟨⟨s, events⟩, taken, both⟩ := Option.map_eq_some_iff.mp moved
  obtain ⟨new, fits⟩ := Prod.mk.inj both
  have run := execIf_runIf taken
  have keyed : Keyed
      (Loop.start (insertFilesys (Db.empty .inOrder) secondOid.val notes.1 1)).store :=
    ⟨List.nodup_nil, nofun⟩
  have known : (registryOf (insertFilesys (Db.empty .inOrder) secondOid.val notes.1 1)).codes
      secondOid.val = some notes := by decide +kernel
  have loaded : Jansson.canonical.loads (connects secondOid.val firstOid).dataStr =
      some (object .syConnect [("URI_code", .string secondOid.val)]) :=
    Jansson.canonical_loads_dumps _
  obtain ⟨served, returned, opened, _⟩ := code_opens keyed known run loaded rfl rfl
    (of_decide_eq_true new) (not_stopsWith fits)
  exact ⟨s, events, served, run, returned, opened⟩

def Says (J : Jansson) (type : MetadataType) (said : Wsi → Json → Prop) (action : Action Received) :
    Prop :=
  ∃ wsi input recvd, action = .receive wsi input ∧ J.loads input.dataStr = some recvd ∧
    metadataType recvd = .ok (some type) ∧ said wsi recvd

/-- A session or a code only ever stands for a repository that a client asked for in SY_INIT, on a
file server that has registered. -/
theorem places_created {mongo : Mongo} {place : Place}
    (run : RunIf New (step (metadataServer J)) (Loop.start (Db.empty mongo)) actions s events)
    (stands : (∃ id, (registryOf s.store).sessions id = some place) ∨
      ∃ code, (registryOf s.store).codes code = some place) :
    (∃ action ∈ actions, Says J .syInit (fun _ recvd => recvd.text "repo_name" = some place.1)
        action) ∧
      ∃ action ∈ actions, Says J .fsRegister (fun wsi _ => place.2 = toInt32 wsi) action := by
  have empty : registryOf (Loop.start (Db.empty mongo)).store = Registry.empty :=
    registryOf_empty mongo
  have picks : ∀ servers server, chosen servers = some server → server ∈ servers := by
    intro servers server picked
    exact List.mem_of_mem_head? (Option.filter_eq_some_iff.mp picked).1
  have same := (run_does (empty_keyed mongo) run).2
  rw [empty] at same
  have traced : Registry.Traced (actions.filterMap (moveOf J)) place := by
    have all := Registry.afterAll_traced picks (actions.filterMap (moveOf J))
    rw [same] at stands
    rcases stands with ⟨id, there⟩ | ⟨code, there⟩
    · exact all.sessions id place there
    · exact all.codes code place there
  obtain ⟨⟨id, created⟩, registered⟩ := traced
  obtain ⟨first, firstIn, firstAsks⟩ := List.mem_filterMap.mp created
  obtain ⟨second, secondIn, secondAsks⟩ := List.mem_filterMap.mp registered
  refine ⟨⟨first, firstIn, ?_⟩, second, secondIn, ?_⟩
  · rcases moveOf_some firstAsks with
      ⟨_, _, other⟩ | ⟨wsi, input, recvd, type, is, loaded, typed, text⟩
    · cases other
    · obtain ⟨rfl, named⟩ := textMove_create text
      exact ⟨wsi, input, recvd, is, loaded, typed, named⟩
  · rcases moveOf_some secondAsks with
      ⟨_, _, other⟩ | ⟨wsi, input, recvd, type, is, loaded, typed, text⟩
    · cases other
    · obtain ⟨rfl, server⟩ := textMove_register text
      exact ⟨wsi, input, recvd, is, loaded, typed, server⟩

theorem publishing_created :
    ∃ action ∈ publishing, Says Jansson.canonical .syInit
      (fun _ recvd => recvd.text "repo_name" = some notes.1) action := by
  have moved : ((execIf New (step (metadataServer Jansson.canonical))
      (Loop.start (Db.empty .inOrder)) publishing).map fun last =>
        (registryOf last.1.store).codes secondOid.val) = some (some notes) := by decide +kernel
  obtain ⟨⟨s, events⟩, taken, stands⟩ := Option.map_eq_some_iff.mp moved
  exact (places_created (execIf_runIf taken) (.inr ⟨secondOid.val, stands⟩)).1

end Librtcdc.Metadata
