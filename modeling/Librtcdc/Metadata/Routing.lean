import Librtcdc.Metadata.Responses

set_option autoImplicit false

namespace Librtcdc.Metadata

open Systems

def issuerOf (sessionId : CString) : Event → Option Wsi
  | .note (.issued id clientWsi) => if id = sessionId then some clientWsi else none
  | _ => none

def lastIssuer (sessionId : CString) (events : List Event) : Option Wsi :=
  (events.filterMap (issuerOf sessionId)).getLast?

def boundOf (sessionId : CString) : Event → Option Wsi
  | .note (.bound id fileserverWsi) => if id = sessionId then some fileserverWsi else none
  | _ => none

def lastBound (sessionId : CString) (events : List Event) : Option Wsi :=
  (events.filterMap (boundOf sessionId)).getLast?

-- A message composed after these events goes where its session belongs.
structure Routed (earlier : List Event) (m : Message) : Prop where
  response : m.type.isResponse = true → ∀ sessionId, m.sessionId = some sessionId →
    lastIssuer sessionId earlier = some m.targetWsi
  forward : m.type.isForward = true → ∀ sessionId, m.sessionId = some sessionId →
    lastBound sessionId earlier = some m.targetWsi

def ComposedLast (J : Jansson) (wsi : Wsi) (data : WriteData) (before : List Event) : Prop :=
  ∃ earlier m later, before = earlier ++ .composed wsi m :: later ∧ composedOn wsi later = [] ∧
    m.writeData = data ∧ m.Carries J ∧ Routed earlier m

def WellRouted (J : Jansson) (events : List Event) : Prop :=
  ∀ before wsi data after, events = before ++ .written wsi data :: after →
    ComposedLast J wsi data before

-- A stored pointer is read back unchanged, and a generated id is no session's.
def Sound (s : Loop Db) : Action Received → Prop
  | .receive wsi input => Survives wsi ∧ (findSession s.store input.oid.val).isNone = true
  | _ => True

instance (s : Loop Db) : (action : Action Received) → Decidable (Sound s action)
  | .receive wsi input =>
      inferInstanceAs (Decidable (Survives wsi ∧ (findSession s.store input.oid.val).isNone = true))
  | .established _ | .closed _ | .writeable _ => .isTrue trivial

structure Table (db : Db) (events : List Event) : Prop where
  unique : (db.session.map SessionRow.sessionId).Nodup
  client : ∀ sessionId row, findSession db sessionId = some row →
    lastIssuer sessionId events = some (ofInt32 row.clientWsi)
  fileserver : ∀ sessionId row, findSession db sessionId = some row →
    lastBound sessionId events = some (ofInt32 row.fileserverWsi)

variable {J : Jansson} {db : Db} {wsi w : Wsi} {oid : Oid} {recvd : Json} {served : Served Db}
  {events more emitted : List Event} {sessionId other : CString} {m : Message}
  {data : WriteData} {received : Option MetadataType} {s next : Loop Db} {action : Action Received}

@[simp] theorem issuerOf_bound : issuerOf other (.note (.bound sessionId wsi)) = none := rfl

theorem lastIssuer_append (first second : List Event) :
    lastIssuer sessionId (first ++ second) =
      (lastIssuer sessionId second).or (lastIssuer sessionId first) := by
  rw [lastIssuer, List.filterMap_append, List.getLast?_append]
  rfl

theorem lastBound_append (first second : List Event) :
    lastBound sessionId (first ++ second) =
      (lastBound sessionId second).or (lastBound sessionId first) := by
  rw [lastBound, List.filterMap_append, List.getLast?_append]
  rfl

theorem lastIssuer_issued : lastIssuer other (events ++ [.note (.issued sessionId wsi)]) =
    if sessionId = other then some wsi else lastIssuer other events := by
  rw [lastIssuer_append]
  split_ifs with same <;> simp [lastIssuer, issuerOf, same]

theorem lastBound_issued :
    lastBound other (events ++ [.note (.issued sessionId wsi)]) = lastBound other events := by
  rw [lastBound_append]
  simp [lastBound, boundOf]

theorem lastIssuer_opened (fileserverWsi : Wsi) :
    lastIssuer other
      (events ++ [.note (.issued sessionId wsi), .note (.bound sessionId fileserverWsi)]) =
        if sessionId = other then some wsi else lastIssuer other events := by
  rw [lastIssuer_append]
  split_ifs with same <;>
    simp [lastIssuer, issuerOf, same, List.filterMap_cons_none issuerOf_bound]

theorem lastBound_opened (fileserverWsi : Wsi) :
    lastBound other
      (events ++ [.note (.issued sessionId wsi), .note (.bound sessionId fileserverWsi)]) =
        if sessionId = other then some fileserverWsi else lastBound other events := by
  rw [lastBound_append]
  split_ifs with same <;> simp [lastBound, boundOf, same]

def Unnoted (event : Event) : Prop :=
  (∀ sessionId, issuerOf sessionId event = none) ∧ ∀ sessionId, boundOf sessionId event = none

theorem Table.later (table : Table db events) (unnoted : ∀ event ∈ more, Unnoted event) :
    Table db (events ++ more) where
  unique := table.unique
  client sessionId row found := by
    rw [lastIssuer_append, lastIssuer, List.filterMap_eq_nil_iff.mpr fun event member =>
      (unnoted event member).1 sessionId]
    exact table.client sessionId row found
  fileserver sessionId row found := by
    rw [lastBound_append, lastBound, List.filterMap_eq_nil_iff.mpr fun event member =>
      (unnoted event member).2 sessionId]
    exact table.fileserver sessionId row found

theorem findSession_insert (fresh : findSession db oid.val = none) (fileserverWsi : Wsi)
    (repoName : CString) (state : MetadataType) :
    findSession (insertSession db oid.val fileserverWsi wsi repoName state) oid.val =
      some (newSession oid.val fileserverWsi wsi repoName state) := by
  rw [findSession_eq] at fresh
  rw [insertSession_eq, findSession_eq]
  have absent : findOne SessionRow.sessionId
      (newSession oid.val fileserverWsi wsi repoName state).sessionId db.session = none := fresh
  exact findOne_append_fresh absent

theorem findSession_insert_other (different : other ≠ oid.val) (fileserverWsi : Wsi)
    (repoName : CString) (state : MetadataType) :
    findSession (insertSession db oid.val fileserverWsi wsi repoName state) other =
      findSession db other := by
  rw [insertSession_eq, findSession_eq, findSession_eq]
  exact findOne_append_other different.symm

theorem findSession_updated {assign : SessionRow → SessionRow} (keeps : Keeps assign) :
    findSession (updated db sessionId assign) sessionId = (findSession db sessionId).map assign := by
  rw [findSession_eq, findSession_eq]
  exact findOne_updateOne_same keeps.sessionId

theorem findSession_updated_other {assign : SessionRow → SessionRow} (keeps : Keeps assign)
    (different : other ≠ sessionId) :
    findSession (updated db sessionId assign) other = findSession db other := by
  rw [findSession_eq, findSession_eq]
  exact findOne_updateOne_other keeps.sessionId different

theorem findSession_deleted_other (different : other ≠ sessionId) :
    findSession (deleteSession db sessionId) other = findSession db other := by
  rw [deleteSession_eq, findSession_eq, findSession_eq]
  exact findOne_removeOne_other different

theorem findSession_insert_cases (fresh : findSession db oid.val = none) {fileserverWsi : Wsi}
    {repoName : CString} {state : MetadataType} {row : SessionRow}
    (found : findSession (insertSession db oid.val fileserverWsi wsi repoName state) other =
      some row) :
    (other = oid.val ∧ row = newSession oid.val fileserverWsi wsi repoName state) ∨
      (other ≠ oid.val ∧ findSession db other = some row) := by
  by_cases same : other = oid.val
  · rw [same, findSession_insert fresh] at found
    exact .inl ⟨same, (Option.some.inj found).symm⟩
  · rw [findSession_insert_other same] at found
    exact .inr ⟨same, found⟩

theorem findSession_updated_cases {assign : SessionRow → SessionRow} (keeps : Keeps assign)
    {row : SessionRow} (found : findSession (updated db sessionId assign) other = some row) :
    (other = sessionId ∧ ∃ old, findSession db other = some old ∧ row = assign old) ∨
      (other ≠ sessionId ∧ findSession db other = some row) := by
  by_cases same : other = sessionId
  · subst same
    rw [findSession_updated keeps] at found
    obtain ⟨old, before, rfl⟩ := Option.map_eq_some_iff.mp found
    exact .inl ⟨rfl, old, before, rfl⟩
  · rw [findSession_updated_other keeps same] at found
    exact .inr ⟨same, found⟩

theorem findSession_deleted_some (unique : (db.session.map SessionRow.sessionId).Nodup)
    {row : SessionRow} (found : findSession (deleteSession db sessionId) other = some row) :
    findSession db other = some row := by
  by_cases same : other = sessionId
  · subst same
    rw [deleteSession_eq, findSession_eq, findOne_removeOne_same unique] at found
    cases found
  · rwa [findSession_deleted_other same] at found

theorem Table.unchanged {db' : Db} (table : Table db events) (same : db'.session = db.session) :
    Table db' events where
  unique := by
    rw [same]
    exact table.unique
  client sessionId row found := table.client sessionId row
    ((findSession_congr same sessionId).symm.trans found)
  fileserver sessionId row found := table.fileserver sessionId row
    ((findSession_congr same sessionId).symm.trans found)

theorem Table.opened (table : Table db events) (survives : Survives wsi)
    (fresh : findSession db oid.val = none) {fileserverWsi : Wsi} (stored : Survives fileserverWsi)
    (repoName : CString) (state : MetadataType) :
    Table (insertSession db oid.val fileserverWsi wsi repoName state)
      (events ++ [.note (.issued oid.val wsi), .note (.bound oid.val fileserverWsi)]) where
  unique := by
    rw [findSession_eq] at fresh
    have absent := findOne_eq_none.mp fresh
    simp only [insertSession_eq, List.map_append, List.map_singleton]
    refine List.nodup_append.mpr ⟨table.unique, by simp, ?_⟩
    rintro a member b last rfl
    rw [List.mem_singleton.mp last] at member
    exact absent member
  client sessionId row found := by
    rw [lastIssuer_opened]
    rcases findSession_insert_cases fresh found with ⟨same, rfl⟩ | ⟨different, before⟩
    · rw [if_pos same.symm, newSession, survives]
    · rw [if_neg (Ne.symm different)]
      exact table.client sessionId row before
  fileserver sessionId row found := by
    rw [lastBound_opened]
    rcases findSession_insert_cases fresh found with ⟨same, rfl⟩ | ⟨different, before⟩
    · rw [if_pos same.symm, newSession, stored]
    · rw [if_neg (Ne.symm different)]
      exact table.fileserver sessionId row before

theorem Table.update {assign : SessionRow → SessionRow} (table : Table db events)
    (keeps : Keeps assign)
    (client : ∀ row, findSession db sessionId = some row →
      lastIssuer sessionId more = some (ofInt32 (assign row).clientWsi))
    (issuers : ∀ other, other ≠ sessionId → lastIssuer other more = lastIssuer other events)
    (bounds : ∀ other, lastBound other more = lastBound other events) :
    Table (updated db sessionId assign) more where
  unique := by
    have same : (updated db sessionId assign).session.map SessionRow.sessionId = _ :=
      keys_updateOne keeps.sessionId
    rw [same]
    exact table.unique
  client other row found := by
    rcases findSession_updated_cases keeps found with ⟨rfl, old, before, rfl⟩ | ⟨different, before⟩
    · exact client old before
    · rw [issuers other different]
      exact table.client other row before
  fileserver other row found := by
    rw [bounds]
    rcases findSession_updated_cases keeps found with ⟨rfl, old, before, rfl⟩ | ⟨_, before⟩
    · rw [keeps.fileserverWsi]
      exact table.fileserver other old before
    · exact table.fileserver other row before

theorem Table.deleted (table : Table db events) : Table (deleteSession db sessionId) events where
  unique := by
    rw [deleteSession_eq]
    exact nodup_removeOne table.unique
  client other row found := table.client other row (findSession_deleted_some table.unique found)
  fileserver other row found :=
    table.fileserver other row (findSession_deleted_some table.unique found)

theorem Handled.table (handled : Handled J db wsi oid recvd received served) (table : Table db events)
    (survives : Survives wsi) (fresh : findSession db oid.val = none) :
    Table served.store (events ++ served.notes.map .note) := by
  cases handled with
  | silent => simpa [Served.silent] using table
  | register m _ _ _ =>
      rw [List.map_nil, List.append_nil]
      exact table.unchanged rfl
  | opened m _ fileserverWsi repoName state stored _ _ _ =>
      exact table.opened survives fresh stored repoName state
  | request m sessionId row assign _ keeps client _ _ _ =>
      refine table.update keeps ?_ ?_ fun _ => lastBound_issued
      · intro row _
        rw [client, survives]
        exact lastIssuer_issued.trans (if_pos rfl)
      · intro other different
        exact lastIssuer_issued.trans (if_neg different.symm)
  | response m _ sessionId row assign filesys _ keeps client _ _ _ _ =>
      rw [List.map_nil, List.append_nil]
      have moved : Table (updated db sessionId assign) events := by
        refine table.update keeps ?_ (fun _ _ => rfl) fun _ => rfl
        intro row found
        rw [client]
        exact table.client sessionId row found
      exact moved.unchanged rfl
  | cleanup m sessionId _ _ _ _ =>
      rw [List.map_nil, List.append_nil]
      exact table.deleted

theorem request_not_response {type : MetadataType} (asked : type.isRequest = true) :
    type.isResponse ≠ true := by
  cases type <;> simp_all [MetadataType.isRequest, MetadataType.isResponse]

theorem response_not_forward {type : MetadataType} (response : type.isResponse = true) :
    type.isForward ≠ true := by
  cases type <;> simp_all [MetadataType.isForward, MetadataType.isResponse]

theorem Handled.routed (handled : Handled J db wsi oid recvd received served) (table : Table db events) :
    ∀ m ∈ served.sent, Routed (events ++ served.notes.map .note) m := by
  cases handled with
  | silent => simp [Served.silent]
  | register m type _ _ | cleanup m _ _ type _ _ =>
      rintro _ ⟨⟩
      exact ⟨by simp [type, MetadataType.isResponse], by simp [type, MetadataType.isForward]⟩
  | opened m _ fileserverWsi repoName state _ about addressed _ =>
      rintro _ ⟨⟩
      have named : ∀ sessionId, m.sessionId = some sessionId → oid.val = sessionId :=
        fun _ same => Option.some.inj (about.symm.trans same)
      rcases addressed with ⟨_, type, target, _⟩ | ⟨_, type, target⟩
      · refine ⟨by simp [type, MetadataType.isResponse], fun _ sessionId same => ?_⟩
        rw [target]
        exact (lastBound_opened fileserverWsi).trans (if_pos (named sessionId same))
      · refine ⟨fun _ sessionId same => ?_, by simp [type, MetadataType.isForward]⟩
        rw [target]
        exact (lastIssuer_opened fileserverWsi).trans (if_pos (named sessionId same))
  | request m sessionId row assign about keeps client asked target _ =>
      rintro _ ⟨⟩
      refine ⟨fun response => absurd response (request_not_response asked), fun _ other same => ?_⟩
      obtain rfl := Option.some.inj (about.about.symm.trans same)
      rw [target, List.map_singleton, lastBound_issued]
      exact table.fileserver sessionId row about.found
  | response m _ sessionId row assign filesys about keeps client _ response target _ =>
      rintro _ ⟨⟩
      refine ⟨fun _ other same => ?_, fun forward => absurd forward (response_not_forward response)⟩
      obtain rfl := Option.some.inj (about.about.symm.trans same)
      rw [target, List.map_nil, List.append_nil]
      exact table.client sessionId row about.found

theorem Handled.isolated (handled : Handled J db wsi oid recvd received served)
    (named : recvd.text "session_id" = some sessionId) {row : SessionRow}
    (different : other ≠ sessionId) (found : findSession db other = some row) :
    findSession served.store other = some row := by
  cases handled with
  | silent => exact found
  | register => exact found
  | opened => exact findSession_insert_found found ..
  | request m id _ assign about keeps _ _ _ _ =>
      obtain rfl := Option.some.inj (about.named.symm.trans named)
      rw [findSession_updated_other keeps different, found]
  | response m _ id _ assign filesys about keeps _ _ _ _ _ =>
      obtain rfl := Option.some.inj (about.named.symm.trans named)
      exact (findSession_updated_other keeps different).trans found
  | cleanup m id here _ _ _ =>
      obtain rfl := Option.some.inj (here.symm.trans named)
      rw [findSession_deleted_other different, found]

theorem ComposedLast.later (composed : ComposedLast J wsi data events)
    (unchanged : composedOn wsi more = []) : ComposedLast J wsi data (events ++ more) := by
  obtain ⟨earlier, m, later, rfl, alone, same, carries, routed⟩ := composed
  refine ⟨earlier, m, later ++ more, by simp, ?_, same, carries, routed⟩
  rw [composedOn_append, alone, unchanged, List.nil_append]

theorem WellRouted.append (routed : WellRouted J events)
    (silent : ∀ wsi data, .written wsi data ∉ more) : WellRouted J (events ++ more) := by
  intro before wsi data after split
  rcases List.append_eq_append_iff.mp split with ⟨rest, _, inside⟩ | ⟨rest, early, whole⟩
  · exact absurd (by simp [inside]) (silent wsi data)
  · cases rest with
    | nil =>
        have inside : more = .written wsi data :: after := whole.symm
        exact absurd (by simp [inside]) (silent wsi data)
    | cons event tail =>
        obtain ⟨rfl, _⟩ := List.cons.inj whole
        exact routed before wsi data tail early

theorem WellRouted.written (routed : WellRouted J events) (composed : ComposedLast J wsi data events) :
    WellRouted J (events ++ [.written wsi data]) := by
  intro before w other after split
  rcases List.append_eq_append_iff.mp split with ⟨rest, late, inside⟩ | ⟨rest, early, whole⟩
  · cases rest with
    | nil =>
        obtain ⟨same, _⟩ := List.cons.inj inside
        obtain ⟨rfl, rfl⟩ := Event.written.inj same
        rw [late, List.append_nil]
        exact composed
    | cons event tail => simp at inside
  · cases rest with
    | nil =>
        obtain ⟨same, _⟩ := List.cons.inj whole
        obtain ⟨rfl, rfl⟩ := Event.written.inj same
        rw [List.append_nil] at early
        exact early ▸ composed
    | cons event tail =>
        obtain ⟨rfl, _⟩ := List.cons.inj whole
        exact routed before w other tail early

structure History (J : Jansson) (s : Loop Db) (events : List Event) : Prop where
  table : Table s.store events
  waiting : ∀ wsi, s.requested wsi = true → ComposedLast J wsi (s.writeData wsi) events
  written : WellRouted J events

theorem notes_silent (notes : List Note) (wsi : Wsi) (data : WriteData) :
    .written wsi data ∉ notes.map Event.note := by
  simp

theorem History.commit (history : History J s events)
    (handled : Handled J s.store wsi oid recvd received served) (survives : Survives wsi)
    (fresh : findSession s.store oid.val = none) :
    History J (s.commit wsi served).1 (events ++ (s.commit wsi served).2) := by
  have table := handled.table history.table survives fresh
  have noted := history.written.append (notes_silent served.notes)
  cases sends : served.sent with
  | none =>
      rw [commit_none sends]
      exact ⟨table, fun w due => (history.waiting w due).later (composedOn_notes _), noted⟩
  | some m =>
      rw [commit_some sends, ← List.append_assoc]
      have composed : ∀ w data, .written w data ∉ [Event.composed wsi m] := by simp
      have unnoted : ∀ event ∈ [Event.composed wsi m], Unnoted event := by
        simp [Unnoted, issuerOf, boundOf]
      refine ⟨table.later unnoted, fun w due => ?_, noted.append composed⟩
      by_cases here : wsi = w
      · subst here
        have carries := handled.carries m (by simp [sends])
        have routed := handled.routed history.table m (by simp [sends])
        exact ⟨_, m, [], rfl, rfl, by simp, carries, routed⟩
      · have kept := history.waiting w (by simpa [Ne.symm here] using due)
        simp only [Function.update_of_ne (Ne.symm here)]
        exact (kept.later (composedOn_notes _)).later (by simp [here])

theorem step_history (history : History J s events) (sound : Sound s action)
    (waiting : Waiting s) (moved : step (metadataServer J) s action = some (next, emitted)) :
    History J next (events ++ emitted) := by
  cases action with
  | established wsi =>
      obtain ⟨_, absent, served, outcome, committed⟩ := step_established moved
      obtain rfl : Served.silent s.store = served := Except.ok.inj outcome
      rw [commit_none rfl] at committed
      obtain ⟨rfl, rfl⟩ := Prod.mk.inj committed
      rw [Served.silent, List.map_nil, List.append_nil]
      refine ⟨history.table, fun w due => ?_, history.written⟩
      by_cases here : w = wsi
      · simp [Loop.opened, here] at due
      · simpa [Loop.opened, here] using
          history.waiting w (by simpa [Loop.opened, here] using due)
  | closed wsi =>
      obtain ⟨_, rfl, rfl⟩ := step_closed moved
      rw [List.append_nil]
      refine ⟨history.table.unchanged rfl, fun w due => ?_, history.written⟩
      by_cases here : w = wsi
      · simp [Loop.drop, here] at due
      · exact history.waiting w (by simpa [Loop.drop, here] using due)
  | receive wsi input =>
      obtain ⟨_, served, outcome, committed⟩ := step_receive moved
      obtain ⟨recvd, _, _, _, handled⟩ := receive_handled outcome
      have fresh : findSession s.store input.oid.val = none := by simpa using sound.2
      have kept := history.commit handled sound.1 fresh
      rwa [committed] at kept
  | writeable wsi =>
      obtain ⟨due, rfl, rfl⟩ := step_writeable moved
      have whole := (metadataServer J).writes _ (waiting.nonempty wsi due)
      rw [whole, writtenEvents]
      have composed := history.waiting wsi due
      have unnoted : ∀ event ∈ [Event.written wsi (s.writeData wsi)], Unnoted event := by
        simp [Unnoted, issuerOf, boundOf]
      refine ⟨history.table.later unnoted, fun w later => ?_, history.written.written composed⟩
      by_cases here : w = wsi
      · simp [Loop.flush, here] at later
      · have kept := history.waiting w (by simpa [Loop.flush, here] using later)
        simp only [Loop.flush, Function.update_of_ne here]
        exact kept.later (composedOn_written _)

-- Whatever message naming a session is handled next, the other records stay as they are.
def Isolating (J : Jansson) (s : Loop Db) : Prop :=
  ∀ wsi input recvd sessionId next emitted,
    step (metadataServer J) s (.receive wsi input) = some (next, emitted) →
    J.loads input.dataStr = some recvd → recvd.text "session_id" = some sessionId →
    ∀ other row, other ≠ sessionId → findSession s.store other = some row →
      findSession next.store other = some row

theorem step_isolating (J : Jansson) (s : Loop Db) : Isolating J s := by
  intro wsi input recvd sessionId next emitted moved loaded named id row different found
  obtain ⟨_, served, outcome, committed⟩ := step_receive moved
  obtain ⟨received, _, same, _, handled⟩ := receive_handled outcome
  obtain rfl := Option.some.inj (loaded.symm.trans same)
  have store : (s.commit wsi served).1.store = served.store := commit_store
  rw [committed] at store
  rw [store]
  exact handled.isolated named different found

theorem start_history (empty : db.session = []) : History J (Loop.start db) [] where
  table :=
    { unique := by simp [Loop.start, empty]
      client := by simp [Loop.start, findSession_eq, empty]
      fileserver := by simp [Loop.start, findSession_eq, empty] }
  waiting := by simp [Loop.start]
  written := by simp [WellRouted]

/-- Every message goes where its session belongs, and sessions do not disturb each other. -/
theorem messages_routed {actions : List (Action Received)} (empty : db.session = [])
    (run : RunIf Sound (step (metadataServer J)) (Loop.start db) actions s events) :
    WellRouted J events ∧ Isolating J s := by
  have kept : Waiting s ∧ History J s events :=
    run.invariant (fun s events => Waiting s ∧ History J s events)
      ⟨start_waiting db, start_history empty⟩ fun _ _ _ _ _ before sound moved =>
        ⟨step_waiting before.1 moved, step_history before.2 sound before.1 moved⟩
  exact ⟨kept.2.written, step_isolating J s⟩

theorem two_inits_routed :
    ∃ s events, RunIf Sound (step (metadataServer Jansson.canonical)) (Loop.start (Db.empty .inOrder))
        (twoInits ++ [.receive 1 (initOk secondOid thirdOid), .writeable 1,
          .receive 1 (initOk firstOid fourthOid), .writeable 1]) s events ∧
      targets (writtenOn 1 events) = [1, 3, 2] ∧
      WellRouted Jansson.canonical events ∧ Isolating Jansson.canonical s := by
  have moved : (execIf Sound (step (metadataServer Jansson.canonical)) (Loop.start (Db.empty .inOrder))
      (twoInits ++ [.receive 1 (initOk secondOid thirdOid), .writeable 1,
        .receive 1 (initOk firstOid fourthOid), .writeable 1])).map
          (fun last => targets (writtenOn 1 last.2)) = some [1, 3, 2] := by decide +kernel
  obtain ⟨⟨s, events⟩, taken, written⟩ := Option.map_eq_some_iff.mp moved
  have run := execIf_runIf taken
  exact ⟨s, events, run, written, messages_routed rfl run⟩

end Librtcdc.Metadata
