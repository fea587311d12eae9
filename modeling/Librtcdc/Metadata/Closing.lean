import Librtcdc.Metadata.Responses

set_option autoImplicit false

namespace Librtcdc.Metadata

open Systems

def namedSession (db : Db) (recvd : Json) : Option SessionRow :=
  (recvd.text "session_id").bind (findSession db)

def addressee (db : Db) (wsi : Wsi) (recvd : Json) : MetadataType → Option Wsi
  | .fsRegister | .syConnect | .syCleanup => some wsi
  | .syInit => if getWsi db fileserverDns = Wsi.null then none else some (getWsi db fileserverDns)
  | .fsInitOk | .fsStatusOk | .fsUploadReady | .fsDownloadReady =>
      (namedSession db recvd).map fun row => ofInt32 row.clientWsi
  | .syStatus | .syUpload | .syDownload =>
      (namedSession db recvd).map fun row => ofInt32 row.fileserverWsi
  | _ => none

def addresseeOf (J : Jansson) (db : Db) (wsi : Wsi) (input : Received) : Option Wsi :=
  (J.loads input.dataStr).bind fun recvd =>
    match metadataType recvd with
    | .ok (some type) => addressee db wsi recvd type
    | _ => none

-- An answer is addressed to an open connection, which stays open while the answer waits, and a
-- writeable event comes where one was asked for, or where there is nothing to write.
def Attentive (J : Jansson) (s : Loop Db) : Action Received → Prop
  | .receive wsi input =>
      ∀ target ∈ addresseeOf J s.store wsi input, s.isOpen target = true
  | .closed wsi =>
      ∀ other, other ≠ wsi → s.requested other = true → (s.writeData other).targetWsi ≠ wsi
  | .writeable wsi => s.requested wsi = true ∨ (s.writeData wsi).data = CString.empty
  | .established _ => True

def WritesToOpen (J : Jansson) (s : Loop Db) (action : Action Received) : Prop :=
  ∀ next emitted via data, anyStep (metadataServer J) s action = some (next, emitted) →
    .written via data ∈ emitted → s.isOpen data.targetWsi = true

variable {J : Jansson} {db : Db} {wsi w : Wsi} {oid : Oid} {recvd : Json} {served : Served Db}
  {events emitted : List Event} {m : Message} {received : Option MetadataType}
  {s next : Loop Db} {action : Action Received} {input : Received}

theorem Handled.addressee {type : MetadataType}
    (handled : Handled J db wsi oid recvd (some type) served) :
    ∀ m ∈ served.sent, addressee db wsi recvd type = some m.targetWsi := by
  generalize here : some type = received at handled
  cases handled with
  | silent => simp [Served.silent]
  | register m _ target _ =>
      rintro _ ⟨⟩
      obtain rfl := Option.some.inj here
      rw [target]
      rfl
  | cleanup m _ _ _ target _ =>
      rintro _ ⟨⟩
      obtain rfl := Option.some.inj here
      rw [target]
      rfl
  | opened m asked fileserverWsi _ _ _ _ addressed _ =>
      rintro _ ⟨⟩
      obtain rfl := Option.some.inj here
      rcases addressed with ⟨rfl, _, target, rfl, somebody⟩ | ⟨rfl, _, target⟩
      · simp [Metadata.addressee, somebody, target]
      · rw [target]
        rfl
  | request m sessionId row _ about _ _ asked target _ =>
      rintro _ ⟨⟩
      have named : namedSession db recvd = some row := by
        rw [namedSession, about.named]
        exact about.found
      have same : type = m.type := Option.some.inj here
      rw [← same] at asked
      cases type <;> simp_all [MetadataType.isRequest, Metadata.addressee]
  | response m replied sessionId row _ _ about _ _ isReply _ target _ =>
      rintro _ ⟨⟩
      have named : namedSession db recvd = some row := by
        rw [namedSession, about.named]
        exact about.found
      obtain rfl := Option.some.inj here
      cases type <;> simp_all [MetadataType.isReply, Metadata.addressee]

theorem receive_addressee (handled : callbackSdpReceive J db wsi input = .ok served) :
    ∀ m ∈ served.sent, addresseeOf J db wsi input = some m.targetWsi := by
  intro m sends
  obtain ⟨recvd, type, loaded, typed, outcome⟩ := receive_handled handled
  simp only [addresseeOf, loaded, Option.bind_some, typed]
  cases type with
  | none =>
      generalize here : none = received at outcome
      cases outcome with
      | silent => simp [Served.silent] at sends
      | _ => cases here
  | some type => exact outcome.addressee m sends

theorem Handled.silent_addressee {type : MetadataType} {target : Wsi}
    (handled : Handled J db wsi oid recvd (some type) served) (silent : served.sent = none)
    (asked : Metadata.addressee db wsi recvd type = some target) : target = wsi := by
  generalize here : some type = received at handled
  cases handled with
  | silent _ quiet =>
      obtain ⟨noRequest, noReply, nobody⟩ := quiet type here.symm
      cases type <;> simp_all [MetadataType.isRequest, MetadataType.isReply, Metadata.addressee]
  | _ => cases silent

theorem silent_addressee (handled : callbackSdpReceive J db wsi input = .ok served)
    (silent : served.sent = none) {target : Wsi}
    (asked : addresseeOf J db wsi input = some target) : target = wsi := by
  obtain ⟨recvd, type, loaded, typed, outcome⟩ := receive_handled handled
  simp only [addresseeOf, loaded, Option.bind_some, typed] at asked
  cases type with
  | none => cases asked
  | some type => exact outcome.silent_addressee silent asked

def Answerable (s : Loop Db) : Prop :=
  ∀ wsi, s.requested wsi = true → s.isOpen (s.writeData wsi).targetWsi = true

theorem commit_writes_nothing {data : WriteData} :
    .written w data ∉ (s.commit wsi served).2 := by
  cases sends : served.sent with
  | none => simp [commit_none sends]
  | some m => simp [commit_some sends]

theorem writesToOpen_writeable (there : s.isOpen wsi = true)
    (nonempty : (s.writeData wsi).data ≠ CString.empty) :
    WritesToOpen J s (.writeable wsi) ↔ s.isOpen (s.writeData wsi).targetWsi = true := by
  have moved : anyStep (metadataServer J) s (.writeable wsi) = _ := anyStep_writes there nonempty
  constructor
  · intro writes
    exact writes _ _ wsi _ moved (List.mem_singleton_self _)
  · intro still next emitted via data taken member
    rw [moved] at taken
    obtain ⟨_, rfl⟩ := Prod.mk.inj (Option.some.inj taken)
    obtain ⟨_, rfl⟩ := Event.written.inj (List.mem_singleton.mp member)
    exact still

theorem Attentive.writesToOpen (waiting : Waiting s) (answerable : Answerable s)
    (attentive : Attentive J s action) : WritesToOpen J s action := by
  cases action with
  | established wsi =>
      intro next emitted via data moved member
      obtain ⟨_, _, served, _, committed⟩ := anyStep_established moved
      rw [← (Prod.mk.inj committed).2] at member
      exact absurd member commit_writes_nothing
  | closed wsi =>
      intro next emitted via data moved member
      obtain ⟨_, _, rfl⟩ := anyStep_closed moved
      cases member
  | receive wsi input =>
      intro next emitted via data moved member
      obtain ⟨_, served, _, committed⟩ := anyStep_receive moved
      rw [← (Prod.mk.inj committed).2] at member
      exact absurd member commit_writes_nothing
  | writeable wsi =>
      rcases attentive with due | nothing
      · exact (writesToOpen_writeable (waiting.isOpen wsi due) (waiting.nonempty wsi due)).mpr
          (answerable wsi due)
      · intro next emitted via data moved member
        obtain ⟨_, _, rfl⟩ := anyStep_writeable moved
        simp [metadataServer, callbackSdpWriteable, nothing, writtenEvents] at member

theorem step_answerable (answerable : Answerable s) (attentive : Attentive J s action)
    (moved : anyStep (metadataServer J) s action = some (next, emitted)) : Answerable next := by
  cases action with
  | established wsi =>
      obtain ⟨_, _, served, outcome, committed⟩ := anyStep_established moved
      obtain rfl : Served.silent s.store = served := Except.ok.inj outcome
      rw [commit_none rfl] at committed
      obtain ⟨rfl, rfl⟩ := Prod.mk.inj committed
      intro w due
      by_cases here : w = wsi
      · simp [Loop.opened, here] at due
      · have before := answerable w (by simpa [Loop.opened, here] using due)
        by_cases same : (s.writeData w).targetWsi = wsi <;> simp [Loop.opened, here, same, before]
  | closed wsi =>
      obtain ⟨_, rfl, _⟩ := anyStep_closed moved
      intro w due
      by_cases here : w = wsi
      · simp [Loop.drop, here] at due
      · have waits : s.requested w = true := by simpa [Loop.drop, here] using due
        have elsewhere := attentive w here waits
        simpa [Loop.drop, elsewhere] using answerable w waits
  | receive wsi input =>
      obtain ⟨_, served, outcome, committed⟩ := anyStep_receive moved
      have addressed := receive_addressee outcome
      cases sends : served.sent with
      | none =>
          rw [commit_none sends] at committed
          obtain ⟨rfl, _⟩ := Prod.mk.inj committed
          exact answerable
      | some m =>
          rw [commit_some sends] at committed
          obtain ⟨rfl, _⟩ := Prod.mk.inj committed
          intro w due
          by_cases here : w = wsi
          · subst here
            simpa using attentive m.targetWsi (addressed m (by simp [sends]))
          · simpa [here] using answerable w (by simpa [here] using due)
  | writeable wsi =>
      obtain ⟨_, rfl, _⟩ := anyStep_writeable moved
      intro w due
      by_cases here : w = wsi
      · simp [Loop.flush, here] at due
      · simpa [Loop.flush, here] using answerable w (by simpa [Loop.flush, here] using due)

-- The callback clears the target of a message it has written, and leaves the message.
structure Spent (s : Loop Db) : Prop where
  null : s.isOpen Wsi.null = false
  cleared : ∀ wsi, s.isOpen wsi = true → s.requested wsi = false →
    (s.writeData wsi).data = CString.empty ∨ (s.writeData wsi).targetWsi = Wsi.null

theorem start_spent (db : Db) : Spent (Loop.start db) where
  null := rfl
  cleared := by simp [Loop.start]

theorem Spent.commit (spent : Spent s) : Spent (s.commit wsi served).1 := by
  cases sends : served.sent with
  | none =>
      rw [commit_none sends]
      exact ⟨spent.null, spent.cleared⟩
  | some m =>
      rw [commit_some sends]
      refine ⟨spent.null, fun w there idle => ?_⟩
      by_cases here : w = wsi
      · simp [here] at idle
      · simpa [here] using spent.cleared w there (by simpa [here] using idle)

theorem step_spent (spent : Spent s)
    (moved : anyStep (metadataServer J) s action = some (next, emitted)) : Spent next := by
  cases action with
  | established wsi =>
      obtain ⟨present, _, served, _, committed⟩ := anyStep_established moved
      have opened : Spent (s.opened wsi) := by
        refine ⟨by simp [Loop.opened, present.symm, spent.null], fun w there idle => ?_⟩
        by_cases here : w = wsi
        · simp [Loop.opened, here, WriteData.zero]
        · simpa [Loop.opened, here] using spent.cleared w (by simpa [Loop.opened, here] using there)
            (by simpa [Loop.opened, here] using idle)
      rw [← (Prod.mk.inj committed).1]
      exact opened.commit
  | closed wsi =>
      obtain ⟨_, rfl, _⟩ := anyStep_closed moved
      refine ⟨?_, fun w there idle => ?_⟩
      · by_cases here : Wsi.null = wsi <;> simp [Loop.drop, here, spent.null]
      · have elsewhere : w ≠ wsi := by
          rintro rfl
          simp [Loop.drop] at there
        exact spent.cleared w (by simpa [Loop.drop, elsewhere] using there)
          (by simpa [Loop.drop, elsewhere] using idle)
  | receive wsi input =>
      obtain ⟨_, served, _, committed⟩ := anyStep_receive moved
      rw [← (Prod.mk.inj committed).1]
      exact spent.commit
  | writeable wsi =>
      obtain ⟨_, rfl, _⟩ := anyStep_writeable moved
      refine ⟨spent.null, fun w there idle => ?_⟩
      by_cases here : w = wsi
      · simp [Loop.flush, here, metadataServer, callbackSdpWriteable]
      · simpa [Loop.flush, here] using spent.cleared w there (by simpa [Loop.flush, here] using idle)

theorem run_spent {actions : List (Action Received)}
    (run : Run (anyStep (metadataServer J)) (Loop.start db) actions s events) :
    Waiting s ∧ Spent s :=
  run.invariant (fun s _ => Waiting s ∧ Spent s) ⟨start_waiting db, start_spent db⟩
    fun _ _ _ _ _ before _ moved => ⟨anyStep_waiting before.1 moved, step_spent before.2 moved⟩

-- In any run, once a step is not attentive, it writes to a connection that is not open, or the next
-- event that was asked for does.
theorem inattentive_fails {actions : List (Action Received)}
    (run : Run (anyStep (metadataServer J)) (Loop.start db) actions s events)
    (inattentive : ¬ Attentive J s action)
    (moved : anyStep (metadataServer J) s action = some (next, emitted)) :
    ¬ WritesToOpen J s action ∨
      ∃ wsi, next.requested wsi = true ∧ ¬ WritesToOpen J next (.writeable wsi) := by
  obtain ⟨waiting, spent⟩ := run_spent run
  have after : Waiting next := anyStep_waiting waiting moved
  have fails : ∀ w, next.requested w = true → next.isOpen (next.writeData w).targetWsi = false →
      ∃ wsi, next.requested wsi = true ∧ ¬ WritesToOpen J next (.writeable wsi) := by
    intro w due gone
    refine ⟨w, due, ?_⟩
    rw [writesToOpen_writeable (after.isOpen w due) (after.nonempty w due), gone]
    decide
  cases action with
  | established wsi => exact absurd trivial inattentive
  | writeable wsi =>
      obtain ⟨idle, full⟩ := not_or.mp inattentive
      obtain ⟨there, _, _⟩ := anyStep_writeable moved
      have cleared := (spent.cleared wsi there (by simpa using idle)).resolve_left full
      refine .inl ?_
      rw [writesToOpen_writeable there full, cleared, spent.null]
      decide
  | closed wsi =>
      simp only [Attentive, not_forall, not_not] at inattentive
      obtain ⟨other, elsewhere, due, target⟩ := inattentive
      obtain ⟨_, rfl, _⟩ := anyStep_closed moved
      exact .inr (fails other (by simpa [Loop.drop, elsewhere] using due)
        (by simp [Loop.drop, target]))
  | receive wsi input =>
      simp only [Attentive, not_forall] at inattentive
      obtain ⟨target, asked, gone⟩ := inattentive
      obtain ⟨there, served, outcome, committed⟩ := anyStep_receive moved
      cases sends : served.sent with
      | none =>
          obtain rfl := silent_addressee outcome sends asked
          exact absurd there gone
      | some m =>
          have same := receive_addressee outcome m (by simp [sends])
          obtain rfl := Option.some.inj (asked.symm.trans same)
          rw [commit_some sends] at committed
          obtain ⟨rfl, _⟩ := Prod.mk.inj committed
          exact .inr (fails wsi (by simp) (by simpa using gone))

theorem writes_to_open {actions : List (Action Received)}
    (run : RunIf (Attentive J) (anyStep (metadataServer J)) (Loop.start db) actions s events) :
    RunIf (WritesToOpen J) (anyStep (metadataServer J)) (Loop.start db) actions s events :=
  run.imp (fun s _ => Waiting s ∧ Answerable s)
    ⟨start_waiting db, by simp [Answerable, Loop.start]⟩
    (fun _ _ _ _ _ before attentive moved =>
      ⟨anyStep_waiting before.1 moved, step_answerable before.2 attentive moved⟩)
    fun _ _ _ before attentive => attentive.writesToOpen before.1 before.2

def AttentiveOpen (J : Jansson) (s : Loop Db) : Action Received → Prop
  | .receive wsi input => (addresseeOf J s.store wsi input).all s.isOpen = true
  | .closed _ => False
  | .writeable wsi => s.requested wsi = true
  | .established _ => True

instance (J : Jansson) (s : Loop Db) :
    (action : Action Received) → Decidable (AttentiveOpen J s action)
  | .receive wsi input =>
      inferInstanceAs (Decidable ((addresseeOf J s.store wsi input).all s.isOpen = true))
  | .closed _ => .isFalse not_false
  | .writeable wsi => inferInstanceAs (Decidable (s.requested wsi = true))
  | .established _ => .isTrue trivial

theorem AttentiveOpen.attentive (action : Action Received) (attentive : AttentiveOpen J s action) :
    Attentive J s action := by
  cases action with
  | receive wsi input => simpa [AttentiveOpen, Attentive, Option.all_eq_true] using attentive
  | closed wsi => exact attentive.elim
  | writeable wsi => exact .inl attentive
  | established wsi => exact trivial

theorem two_inits_written :
    ∃ s events, RunIf (Attentive Jansson.canonical) (anyStep (metadataServer Jansson.canonical))
        (Loop.start (Db.empty .inOrder))
        (twoInits ++ [.receive 1 (initOk firstOid thirdOid), .writeable 1]) s events ∧
      targets (writtenOn 1 events) = [1, 2] ∧
      RunIf (WritesToOpen Jansson.canonical) (anyStep (metadataServer Jansson.canonical))
        (Loop.start (Db.empty .inOrder))
        (twoInits ++ [.receive 1 (initOk firstOid thirdOid), .writeable 1]) s events := by
  have moved : (execIf (AttentiveOpen Jansson.canonical)
      (anyStep (metadataServer Jansson.canonical)) (Loop.start (Db.empty .inOrder))
      (twoInits ++ [.receive 1 (initOk firstOid thirdOid), .writeable 1])).map
          (fun last => targets (writtenOn 1 last.2)) = some [1, 2] := by decide +kernel
  obtain ⟨⟨s, events⟩, taken, written⟩ := Option.map_eq_some_iff.mp moved
  have run := (execIf_runIf taken).weaken fun _ action => AttentiveOpen.attentive action
  exact ⟨s, events, run, written, writes_to_open run⟩

def OpenTargetLaw (J : Jansson) : Prop :=
  ∀ (db : Db) (actions : List (Action Received)) (s : Loop Db) (events : List Event),
    Run (anyStep (metadataServer J)) (Loop.start db) actions s events →
      RunIf (WritesToOpen J) (anyStep (metadataServer J)) (Loop.start db) actions s events

def closedClient : List (Action Received) :=
  twoInits ++ [.closed 2, .receive 1 (initOk firstOid thirdOid)]

theorem closed_client_written : ¬ ∀ J, OpenTargetLaw J := by
  intro law
  have moved : (exec (anyStep (metadataServer Jansson.canonical)) (Loop.start (Db.empty .inOrder))
      (closedClient ++ [.writeable 1])).map (fun last => targets (writtenOn 1 last.2)) =
        some [1, 2] := by decide +kernel
  obtain ⟨⟨s, events⟩, taken, _⟩ := Option.map_eq_some_iff.mp moved
  obtain ⟨before, earlier, run, writes⟩ :=
    (law Jansson.canonical _ _ _ _ (exec_run taken)).last
  have facts : (exec (anyStep (metadataServer Jansson.canonical)) (Loop.start (Db.empty .inOrder))
      closedClient).map (fun last => (targets (last.1.pendingOn 1), last.1.isOpen 2)) =
        some ([2], false) := by decide +kernel
  rw [run.exec, Option.map_some, Option.some.injEq, Prod.mk.injEq] at facts
  obtain ⟨pending, gone⟩ := facts
  have waiting : Waiting before :=
    run.invariant (fun s _ => Waiting s) (start_waiting _)
      fun _ _ _ _ _ before _ taken => anyStep_waiting before taken
  have due : before.requested 1 = true := by
    by_contra idle
    rw [pendingOn_idle (by simpa using idle)] at pending
    cases pending
  rw [pendingOn_due due, targets, List.map_singleton, List.singleton_inj] at pending
  rw [writesToOpen_writeable (waiting.isOpen 1 due) (waiting.nonempty 1 due), pending, gone]
    at writes
  cases writes

end Librtcdc.Metadata
