import Librtcdc.Metadata.Responses
import Librtcdc.Shared.Isolation

set_option autoImplicit false

namespace Librtcdc.Metadata

open Systems Sync

def sessionRows (sessionId : CString) (db : Db) : List SessionRow :=
  db.session.filter fun row => decide (row.sessionId = sessionId)

def SameSession (sessionId : CString) (db db' : Db) : Prop :=
  sessionRows sessionId db = sessionRows sessionId db'

structure SameServed (sessionId : CString) (served served' : Served Db) : Prop where
  store : SameSession sessionId served.store served'.store
  notes : served'.notes = served.notes
  sent : served'.sent = served.sent

def MetadataType.ofSession (type : MetadataType) : Bool :=
  type.isRequest || type.isReply || decide (type = .syCleanup)

def concernsText (J : Jansson) (sessionId dataStr : CString) : Bool :=
  match J.loads dataStr with
  | none => false
  | some recvd =>
      match metadataType recvd with
      | .ok (some type) => type.ofSession && decide (recvd.text "session_id" = some sessionId)
      | _ => false

variable {J : Jansson} {db db' : Db} {sessionId other : CString} {wsi : Wsi} {oid : Oid}
  {recvd : Json} {served : Served Db}

theorem SameSession.found (same : SameSession sessionId db db') :
    findSession db sessionId = findSession db' sessionId := by
  have filtered : findOne SessionRow.sessionId sessionId (sessionRows sessionId db) =
      findOne SessionRow.sessionId sessionId (sessionRows sessionId db') := by rw [same]
  rwa [sessionRows, sessionRows, findOne_filter, findOne_filter, ← findSession_eq,
    ← findSession_eq] at filtered

theorem SameSession.getSession (same : SameSession sessionId db db') :
    getSession J db sessionId = getSession J db' sessionId := by
  simp only [Metadata.getSession, same.found]

theorem SameSession.filesys (same : SameSession sessionId db db') (rows rows' : List FilesysRow) :
    SameSession sessionId { db with filesys := rows } { db' with filesys := rows' } := same

theorem SameSession.update (same : SameSession sessionId db db') (field : SessionField) :
    Together (SameSession sessionId) (updateSession db sessionId field)
      (updateSession db' sessionId field) := by
  rw [updateSession_eq, updateSession_eq, SessionField.assign_eq db.mongo db'.mongo]
  refine .after fun assign assigned => .value ?_
  have keeps := fun row => (SessionField.assign_keeps assigned row).1
  simp only [SameSession, sessionRows, filter_updateOne_same keeps] at same ⊢
  rw [same]

theorem SameSession.delete (same : SameSession sessionId db db') :
    SameSession sessionId (deleteSession db sessionId) (deleteSession db' sessionId) := by
  simp only [SameSession, sessionRows, deleteSession_eq, filter_removeOne_same] at same ⊢
  rw [same]

theorem after_named {α β : Type} {Q : α → β → Prop} {f : CString → Except Fault α}
    {g : CString → Except Fault β} (named : recvd.text "session_id" = some sessionId)
    (next : Together Q (f sessionId) (g sessionId)) :
    Together Q (unpackText recvd "session_id" >>= f) (unpackText recvd "session_id" >>= g) := by
  have unpacked : unpackText recvd "session_id" = .ok sessionId := unpackText_ok.mpr named
  rw [unpacked]
  exact next

theorem onFsInitOk_together (same : SameSession sessionId db db')
    (named : recvd.text "session_id" = some sessionId) :
    Together (SameServed sessionId) (onFsInitOk J db oid recvd) (onFsInitOk J db' oid recvd) := by
  refine after_named named ?_
  rw [same.getSession]
  refine .after fun pointer _ => .after fun session _ => ?_
  refine (same.filesys _ _ |>.update _).bind fun db₁ db₁' same₁ => .after fun m _ => ?_
  exact .value ⟨same₁, rfl, rfl⟩

theorem onSyStatus_together (same : SameSession sessionId db db')
    (named : recvd.text "session_id" = some sessionId) :
    Together (SameServed sessionId) (onSyStatus J db wsi recvd) (onSyStatus J db' wsi recvd) := by
  refine after_named named ?_
  rw [same.getSession]
  refine .after fun pointer _ => .after fun session _ => ?_
  refine (same.update _).bind fun db₁ db₁' same₁ => ?_
  refine (same₁.update _).bind fun db₂ db₂' same₂ => ?_
  refine (same₂.update _).bind fun db₃ db₃' same₃ => .after fun m _ => ?_
  exact .value ⟨same₃, rfl, rfl⟩

theorem onFsStatusOk_together (same : SameSession sessionId db db')
    (named : recvd.text "session_id" = some sessionId) :
    Together (SameServed sessionId) (onFsStatusOk J db recvd) (onFsStatusOk J db' recvd) := by
  refine after_named named ?_
  rw [same.getSession]
  refine .after fun pointer _ => .after fun session _ => .after fun joined _ => ?_
  refine (same.update _).bind fun db₁ db₁' same₁ => .after fun diff _ => ?_
  refine (same₁.update _).bind fun db₂ db₂' same₂ => .after fun m _ => ?_
  exact .value ⟨same₂, rfl, rfl⟩

theorem onTransfer_together {type : MetadataType} {more : SessionInfo → List (String × Json)}
    (same : SameSession sessionId db db') (named : recvd.text "session_id" = some sessionId) :
    Together (SameServed sessionId) (onTransfer J type more db wsi recvd)
      (onTransfer J type more db' wsi recvd) := by
  refine after_named named ?_
  refine .after fun clientSdp _ => .after fun clientCandidates _ => ?_
  rw [same.getSession]
  refine .after fun pointer _ => .after fun session _ => ?_
  refine (same.update _).bind fun db₁ db₁' same₁ => .after fun m _ => ?_
  exact .value ⟨same₁, rfl, rfl⟩

theorem onReady_together {type : MetadataType} {dataStr : CString}
    (same : SameSession sessionId db db') (named : recvd.text "session_id" = some sessionId) :
    Together (SameServed sessionId) (onReady J type db dataStr recvd)
      (onReady J type db' dataStr recvd) := by
  refine after_named named ?_
  rw [same.getSession]
  refine .after fun pointer _ => .after fun session _ => .after fun m _ => ?_
  exact .value ⟨same, rfl, rfl⟩

theorem onSyCleanup_together (same : SameSession sessionId db db')
    (named : recvd.text "session_id" = some sessionId) :
    Together (SameServed sessionId) (onSyCleanup J db wsi recvd) (onSyCleanup J db' wsi recvd) := by
  refine after_named named ?_
  refine .after fun m _ => ?_
  exact .value ⟨same.delete, rfl, rfl⟩

theorem receive_together {input : Received} (same : SameSession sessionId db db')
    (concerned : concernsText J sessionId input.dataStr = true) :
    Together (SameServed sessionId) (callbackSdpReceive J db wsi input)
      (callbackSdpReceive J db' wsi input) := by
  unfold concernsText at concerned
  unfold callbackSdpReceive
  cases loaded : J.loads input.dataStr with
  | none => simp [loaded] at concerned
  | some recvd =>
      simp only [loaded] at concerned
      refine .after fun received typed => ?_
      simp only [typed] at concerned
      cases received with
      | none => cases concerned
      | some type =>
          simp only [Bool.and_eq_true, decide_eq_true_eq] at concerned
          obtain ⟨ofSession, named⟩ := concerned
          cases type with
          | fsInitOk => exact onFsInitOk_together same named
          | fsStatusOk => exact onFsStatusOk_together same named
          | fsUploadReady | fsDownloadReady => exact onReady_together same named
          | syStatus => exact onSyStatus_together same named
          | syUpload | syDownload => exact onTransfer_together same named
          | syCleanup => exact onSyCleanup_together same named
          | _ => cases ofSession

theorem updated_other {assign : SessionRow → SessionRow} (keeps : Keeps assign)
    (different : sessionId ≠ other) :
    SameSession sessionId (updated db other assign) db :=
  filter_updateOne_other keeps.sessionId different

theorem deleteSession_other (different : sessionId ≠ other) :
    SameSession sessionId (deleteSession db other) db := by
  rw [deleteSession_eq]
  exact filter_removeOne_other different

theorem insertSession_other {fileserverWsi clientWsi : Wsi} {repoName : CString}
    {state : MetadataType} (different : other ≠ sessionId) :
    SameSession sessionId (insertSession db other fileserverWsi clientWsi repoName state) db := by
  simp [SameSession, sessionRows, insertSession_eq, newSession, different]

theorem onFsRegister_anonymous {m : Message} (handled : onFsRegister J db wsi = .ok served)
    (sent : m ∈ served.sent) : m.sessionId = none := by
  simp only [onFsRegister, bind_ok, return_ok] at handled
  obtain ⟨made, composed, rfl⟩ := handled
  obtain ⟨_, rfl⟩ := compose_ok.mp composed
  obtain rfl := Option.some.inj sent
  rfl

theorem onSyCleanup_anonymous {m : Message} (handled : onSyCleanup J db wsi recvd = .ok served)
    (sent : m ∈ served.sent) : m.sessionId = none := by
  simp only [onSyCleanup, bind_ok, return_ok] at handled
  obtain ⟨_, _, made, composed, rfl⟩ := handled
  obtain ⟨_, rfl⟩ := compose_ok.mp composed
  obtain rfl := Option.some.inj sent
  rfl

def Note.session : Note → CString
  | .issued sessionId _ | .bound sessionId _ => sessionId

structure Untouched (sessionId : CString) (db : Db) (served : Served Db) : Prop where
  store : SameSession sessionId served.store db
  notes : ∀ note ∈ served.notes, note.session ≠ sessionId
  sent : ∀ m ∈ served.sent, m.sessionId ≠ some sessionId

theorem receive_others {input : Received}
    (received : callbackSdpReceive J db wsi input = .ok served)
    (fresh : input.oid.val ≠ sessionId)
    (unconcerned : concernsText J sessionId input.dataStr = false) :
    Untouched sessionId db served := by
  obtain ⟨recvd, type, loaded, typed, handled⟩ := receive_handled received
  have elsewhere : ∀ named of, type = some of → of.ofSession = true →
      recvd.text "session_id" = some named → sessionId ≠ named := by
    rintro named of rfl ofSession text rfl
    simp [concernsText, loaded, typed, ofSession, text] at unconcerned
  cases handled with
  | silent => exact ⟨rfl, by simp [Served.silent], by simp [Served.silent]⟩
  | register m =>
      refine ⟨rfl, by simp, fun made sent => ?_⟩
      simp only [callbackSdpReceive, loaded, typed, ok_bind] at received
      rw [onFsRegister_anonymous received sent]
      exact nofun
  | opened m of fileserverWsi repoName state stored about =>
      refine ⟨insertSession_other fresh, by simpa [Note.session] using fresh, fun made sent => ?_⟩
      obtain rfl := Option.some.inj sent
      rw [about]
      exact fun same => fresh (Option.some.inj same)
  | request m named row assign about keeps client asked =>
      have different := elsewhere named m.type rfl (by simp [MetadataType.ofSession, asked])
        about.named
      refine ⟨updated_other keeps different, by simpa [Note.session] using different.symm,
        fun made sent => ?_⟩
      obtain rfl := Option.some.inj sent
      rw [about.about]
      exact fun same => different (Option.some.inj same).symm
  | response m of named row assign filesys about keeps client replied =>
      have different := elsewhere named of rfl (by simp [MetadataType.ofSession, replied])
        about.named
      refine ⟨updated_other keeps different, by simp, fun made sent => ?_⟩
      obtain rfl := Option.some.inj sent
      rw [about.about]
      exact fun same => different (Option.some.inj same).symm
  | cleanup m named text =>
      have different := elsewhere named .syCleanup rfl rfl text
      refine ⟨deleteSession_other different, by simp, fun made sent => ?_⟩
      simp only [callbackSdpReceive, loaded, typed, ok_bind] at received
      rw [onSyCleanup_anonymous received sent]
      exact nofun

def concerns (J : Jansson) (sessionId : CString) : Action Received → Bool
  | .established _ | .closed _ => true
  | .receive _ input => concernsText J sessionId input.dataStr
  | .writeable _ => false

def aboutSession (sessionId : CString) : Event → Bool
  | .note note => decide (note.session = sessionId)
  | .composed _ m => decide (m.sessionId = some sessionId)
  | .written .. => false

-- The id has been generated, and is not generated again.
def Issued (sessionId : CString) (_ : Loop Db) : Action Received → Prop
  | .receive _ input => input.oid.val ≠ sessionId
  | _ => True

structure SameView (sessionId : CString) (s t : Loop Db) : Prop where
  isOpen : t.isOpen = s.isOpen
  store : SameSession sessionId s.store t.store

theorem Untouched.silent (untouched : Untouched sessionId db served) {s : Loop Db} :
    (s.commit wsi served).2.filter (aboutSession sessionId) = [] := by
  refine List.filter_eq_nil_iff.mpr fun event member => ?_
  unfold Loop.commit at member
  cases sent : served.sent with
  | none =>
      simp only [sent, List.mem_map] at member
      obtain ⟨note, there, rfl⟩ := member
      simpa [aboutSession] using untouched.notes note there
  | some m =>
      simp only [sent, List.mem_append, List.mem_map, List.mem_singleton] at member
      rcases member with ⟨note, there, rfl⟩ | rfl
      · simpa [aboutSession] using untouched.notes note there
      · simpa [aboutSession] using untouched.sent m sent

theorem SameServed.commit {served' : Served Db} {s t : Loop Db}
    (same : SameServed sessionId served served') :
    (t.commit wsi served').2 = (s.commit wsi served).2 := by
  unfold Loop.commit
  rw [same.sent, same.notes]
  cases served.sent <;> rfl

variable (J sessionId)

def sessionObserver : Observer (Issued sessionId) (step (metadataServer J)) where
  concerns := concerns J sessionId
  sees := aboutSession sessionId
  alike := SameView sessionId
  same := fun _ => ⟨rfl, rfl⟩
  allowed := by
    rintro s t (_ | _ | _ | _) _ issued <;> exact issued
  others := by
    rintro s t next (wsi | wsi | ⟨wsi, input⟩ | wsi) emitted alike issued unconcerned moved
    · cases unconcerned
    · cases unconcerned
    · obtain ⟨_, served, received, same⟩ := step_receive moved
      have untouched := receive_others received issued unconcerned
      obtain rfl : (s.commit wsi served).1 = next := by rw [same]
      obtain rfl : (s.commit wsi served).2 = emitted := by rw [same]
      refine ⟨⟨?_, ?_⟩, untouched.silent⟩
      · rw [commit_isOpen, alike.isOpen]
      · rw [commit_store]
        exact untouched.store.trans alike.store
    · obtain ⟨_, rfl, rfl⟩ := step_writeable moved
      refine ⟨⟨alike.isOpen, alike.store⟩, ?_⟩
      unfold writtenEvents
      split <;> rfl
  own := by
    rintro s t next (wsi | wsi | ⟨wsi, input⟩ | wsi) emitted alike issued concerned moved
    · obtain ⟨present, closed, served, opens, same⟩ := step_established moved
      obtain rfl : Served.silent s.store = served := Except.ok.inj opens
      obtain rfl : ((s.opened wsi).commit wsi (Served.silent s.store)).1 = next := by rw [same]
      obtain rfl : ((s.opened wsi).commit wsi (Served.silent s.store)).2 = emitted := by rw [same]
      refine ⟨((t.opened wsi).commit wsi (Served.silent t.store)).1, _, ?_, ⟨?_, alike.store⟩, rfl⟩
      · refine step_iff.mpr ⟨trivial, ?_⟩
        rw [anyStep, if_neg (by simp [present, alike.isOpen, closed])]
        rfl
      · simp [Loop.commit, Served.silent, Loop.opened, alike.isOpen]
    · obtain ⟨there, rfl, rfl⟩ := step_closed moved
      refine ⟨t.drop wsi (deleteFileserver t.store wsi), [], ?_, ⟨?_, alike.store⟩, rfl⟩
      · refine step_iff.mpr ⟨trivial, ?_⟩
        rw [anyStep, if_pos (by rw [alike.isOpen, there])]
        rfl
      · simp [Loop.drop, alike.isOpen]
    · obtain ⟨there, served, received, same⟩ := step_receive moved
      obtain ⟨served', received', both⟩ := (receive_together alike.store concerned).result received
      obtain rfl : (s.commit wsi served).1 = next := by rw [same]
      obtain rfl : (s.commit wsi served).2 = emitted := by rw [same]
      refine ⟨(t.commit wsi served').1, (t.commit wsi served').2, ?_, ⟨?_, ?_⟩, by rw [both.commit]⟩
      · have received'' : (metadataServer J).receive t.store wsi input = .ok served' := received'
        refine step_iff.mpr ⟨trivial, ?_⟩
        simp only [anyStep, alike.isOpen, there, if_true, received'']
      · rw [commit_isOpen, commit_isOpen, alike.isOpen]
      · rw [commit_store, commit_store]
        exact both.store
    · cases concerned

variable {J sessionId} {start s : Loop Db} {actions : List (Action Received)} {events : List Event}

/-- What becomes of a session and what is composed about it, on any connections, is what its own
messages would have brought about alone: those of all other sessions can be left out. -/
theorem session_isolated
    (run : RunIf (Issued sessionId) (step (metadataServer J)) start actions s events) :
    ∃ alone seen, RunIf (Issued sessionId) (step (metadataServer J)) start
        (actions.filter (concerns J sessionId)) alone seen ∧
      sessionRows sessionId alone.store = sessionRows sessionId s.store ∧
      seen.filter (aboutSession sessionId) = events.filter (aboutSession sessionId) := by
  obtain ⟨alone, seen, own, alike, views⟩ := (sessionObserver J sessionId).alone run
  exact ⟨alone, seen, own, alike.store.symm, views⟩

instance (sessionId : CString) (s : Loop Db) : (action : Action Received) →
    Decidable (Issued sessionId s action)
  | .receive _ input => inferInstanceAs (Decidable (input.oid.val ≠ sessionId))
  | .established _ | .closed _ | .writeable _ => .isTrue trivial

def twoSessions : Db :=
  insertSession (insertSession (Db.empty .inOrder) firstOid.val 1 2 (CString.literal "left") .syInit)
    secondOid.val 1 3 (CString.literal "right") .syInit

def namesSession (type : MetadataType) (session oid : Oid) (more : List (String × Json)) :
    Received where
  dataStr := text (object type (("session_id", .string session.val) :: more))
  oid := oid

def inTurns : List (Action Received) :=
  [.established 1, .established 2, .established 3,
    .receive 1 (namesSession .fsInitOk secondOid thirdOid []), .writeable 1,
    .receive 2 (namesSession .syStatus firstOid thirdOid [("files", .array [])]),
    .receive 3 (namesSession .syCleanup secondOid thirdOid []), .writeable 3,
    .receive 1 (namesSession .fsStatusOk firstOid thirdOid [("files", .array [])])]

theorem first_isolated :
    ∃ alone seen, RunIf (Issued firstOid.val) (step (metadataServer Jansson.canonical))
        (Loop.start twoSessions) (inTurns.filter (concerns Jansson.canonical firstOid.val))
        alone seen ∧
      (sessionRows firstOid.val alone.store).map SessionRow.state = [.syStatus] ∧
      (seen.filter (aboutSession firstOid.val)).length = 3 := by
  have moved : ((execIf (Issued firstOid.val) (step (metadataServer Jansson.canonical))
      (Loop.start twoSessions) inTurns).map fun last =>
        ((sessionRows firstOid.val last.1.store).map SessionRow.state,
          (last.2.filter (aboutSession firstOid.val)).length)) = some ([.syStatus], 3) := by
    decide +kernel
  obtain ⟨⟨s, events⟩, taken, both⟩ := Option.map_eq_some_iff.mp moved
  obtain ⟨states, count⟩ := Prod.mk.inj both
  obtain ⟨alone, seen, own, rows, views⟩ := session_isolated (execIf_runIf taken)
  exact ⟨alone, seen, own, by rw [rows, states], by rw [views, count]⟩

end Librtcdc.Metadata
