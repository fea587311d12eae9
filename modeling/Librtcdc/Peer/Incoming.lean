import Librtcdc.Peer.Sdp
import Librtcdc.Shared.Trace

set_option autoImplicit false

namespace Librtcdc.Incoming

open Systems

structure Record where
  payload : Bytes
  nonempty : payload ≠ []
  fits : payload.length ≤ bufferSize
  deriving DecidableEq

structure Datagram where
  records : List Record
  nonempty : records ≠ []
  deriving DecidableEq

structure Receiver where
  negotiationDone : Bool
  initFinished : Bool
  handshakeDone : Bool
  dtlsIncomingBio : List Record
  sctpIncomingBio : Bytes
  deriving DecidableEq

inductive Event where
  | received (record : Record)
  | conninput (buf : Bytes)
  deriving DecidableEq

-- Nothing to read is `nbytes <= 0`.
def sslRead (s : Receiver) : Bytes × Receiver :=
  match s.dtlsIncomingBio with
  | [] => ([], s)
  | record :: rest => (record.payload, { s with dtlsIncomingBio := rest })

-- `SSL_do_handshake` is a parameter: it may take records and finish the handshake.
def dataReceivedCb (sslDoHandshake : Receiver → Receiver) (s : Receiver) (datagram : Datagram) :
    Receiver × List Event :=
  if !s.negotiationDone then (s, [])
  else
    let s := { s with dtlsIncomingBio := s.dtlsIncomingBio ++ datagram.records }
    let s := if !s.handshakeDone && s.initFinished then { s with handshakeDone := true } else s
    if !s.handshakeDone then (sslDoHandshake s, [])
    else
      let (buf, s) := sslRead s
      if buf.length > 0 then
        let s := { s with sctpIncomingBio := s.sctpIncomingBio ++ buf }
        if s.sctpIncomingBio.length > 0 then
          let buf := s.sctpIncomingBio.take bufferSize
          let s := { s with sctpIncomingBio := s.sctpIncomingBio.drop bufferSize }
          (s, if buf.length > 0 then [.conninput buf] else [])
        else (s, [])
      else (s, [])

def step (sslDoHandshake : Receiver → Receiver) : Step Receiver Datagram Event
  | s, datagram =>
      let (next, emitted) := dataReceivedCb sslDoHandshake s datagram
      some (next, datagram.records.map .received ++ emitted)

def receivedOf : Event → Option Bytes
  | .received record => some record.payload
  | .conninput _ => none

def conninputOf : Event → Option Bytes
  | .conninput buf => some buf
  | .received _ => none

def received (events : List Event) : List Bytes :=
  events.filterMap receivedOf

def conninputs (events : List Event) : List Bytes :=
  events.filterMap conninputOf

-- Every record so far has become one `usrsctp_conninput`, in order.
def Drained (_ : Receiver) (events : List Event) : Prop :=
  conninputs events = received events

structure Established (s : Receiver) : Prop where
  negotiated : s.negotiationDone = true
  finished : s.initFinished = true

structure Ready (s : Receiver) : Prop extends Established s where
  dtlsIncomingBio : s.dtlsIncomingBio = []
  sctpIncomingBio : s.sctpIncomingBio = []

def OneRecord (_ : Receiver) (datagram : Datagram) : Prop :=
  datagram.records.length = 1

instance (s : Receiver) (datagram : Datagram) : Decidable (OneRecord s datagram) := by
  unfold OneRecord
  infer_instance

variable {handshake : Receiver → Receiver} {start s next : Receiver} {datagram : Datagram}
  {record : Record} {rest : List Record} {actions : List Datagram} {events emitted : List Event}

theorem dataReceivedCb_established (established : Established s)
    (drained : s.sctpIncomingBio = [])
    (pending : s.dtlsIncomingBio ++ datagram.records = record :: rest) :
    dataReceivedCb handshake s datagram =
      ({ s with handshakeDone := true, dtlsIncomingBio := rest }, [.conninput record.payload]) := by
  have some_payload : 0 < record.payload.length := List.length_pos_of_ne_nil record.nonempty
  have whole : record.payload.take bufferSize = record.payload :=
    List.take_of_length_le record.fits
  have none_left : record.payload.drop bufferSize = [] := List.drop_of_length_le record.fits
  unfold dataReceivedCb
  cases s.handshakeDone <;>
    simp [established.negotiated, established.finished, sslRead, drained, pending, some_payload,
      whole, none_left]

theorem step_cases (established : Established s) (drained : s.sctpIncomingBio = [])
    (taken : step handshake s datagram = some (next, emitted)) :
    ∃ record rest, s.dtlsIncomingBio ++ datagram.records = record :: rest ∧
      next = { s with handshakeDone := true, dtlsIncomingBio := rest } ∧
      emitted = datagram.records.map .received ++ [.conninput record.payload] := by
  obtain ⟨record, rest, pending⟩ : ∃ record rest,
      s.dtlsIncomingBio ++ datagram.records = record :: rest :=
    List.exists_cons_of_ne_nil fun empty => datagram.nonempty (List.append_eq_nil_iff.mp empty).2
  rw [step, dataReceivedCb_established established drained pending] at taken
  obtain ⟨rfl, rfl⟩ := Prod.mk.inj (Option.some.inj taken)
  exact ⟨record, rest, pending, rfl, rfl⟩

theorem received_append (first second : List Event) :
    received (first ++ second) = received first ++ received second :=
  List.filterMap_append ..

theorem conninputs_append (first second : List Event) :
    conninputs (first ++ second) = conninputs first ++ conninputs second :=
  List.filterMap_append ..

theorem received_callback (records : List Record) (buf : Bytes) :
    received (records.map .received ++ [.conninput buf]) = records.map Record.payload := by
  rw [received_append, received, List.filterMap_map, ← List.filterMap_eq_map]
  exact List.append_nil _

theorem conninputs_callback (records : List Record) (buf : Bytes) :
    conninputs (records.map .received ++ [.conninput buf]) = [buf] := by
  have none_passed : conninputs (records.map .received) = [] := by
    rw [conninputs, List.filterMap_map]
    exact List.filterMap_eq_nil_iff.mpr fun _ _ => rfl
  rw [conninputs_append, none_passed]
  rfl

structure Accounted (s : Receiver) (events : List Event) : Prop where
  established : Established s
  sctpIncomingBio : s.sctpIncomingBio = []
  balance : conninputs events ++ s.dtlsIncomingBio.map Record.payload = received events

theorem Accounted.drained (accounted : Accounted s events) :
    Drained s events ↔ s.dtlsIncomingBio = [] := by
  rw [Drained, ← accounted.balance]
  simp

theorem Ready.accounted (ready : Ready s) : Accounted s [] where
  established := ready.toEstablished
  sctpIncomingBio := ready.sctpIncomingBio
  balance := by
    rw [ready.dtlsIncomingBio]
    rfl

theorem step_accounted (accounted : Accounted s events)
    (taken : step handshake s datagram = some (next, emitted)) :
    Accounted next (events ++ emitted) := by
  obtain ⟨record, rest, pending, rfl, rfl⟩ :=
    step_cases accounted.established accounted.sctpIncomingBio taken
  refine ⟨⟨accounted.established.negotiated, accounted.established.finished⟩,
    accounted.sctpIncomingBio, ?_⟩
  calc conninputs (events ++ (datagram.records.map .received ++ [.conninput record.payload])) ++
        rest.map Record.payload
      = conninputs events ++ (record :: rest).map Record.payload := by
        rw [conninputs_append, conninputs_callback, List.append_assoc]
        rfl
    _ = conninputs events ++ s.dtlsIncomingBio.map Record.payload ++
          datagram.records.map Record.payload := by
        rw [← pending, List.map_append, List.append_assoc]
    _ = received (events ++ (datagram.records.map .received ++ [.conninput record.payload])) := by
        rw [accounted.balance, received_append, received_callback]

theorem run_accounted (ready : Ready start) (run : Run (step handshake) start actions s events) :
    Accounted s events ∧ (conninputs events).length = actions.length := by
  induction run with
  | refl => exact ⟨ready.accounted, rfl⟩
  | snoc _ _ taken ih =>
      obtain ⟨accounted, counted⟩ := ih
      refine ⟨step_accounted accounted taken, ?_⟩
      obtain ⟨record, rest, _, _, rfl⟩ :=
        step_cases accounted.established accounted.sctpIncomingBio taken
      rw [conninputs_append, conninputs_callback, List.length_append, List.length_append, counted]
      rfl

theorem run_backlog (ready : Ready start) (run : Run (step handshake) start actions s events) :
    s.dtlsIncomingBio.length + actions.length = (received events).length := by
  obtain ⟨accounted, counted⟩ := run_accounted ready run
  have balance := congrArg List.length accounted.balance
  rw [List.length_append, List.length_map, counted] at balance
  omega

theorem step_drained (accounted : Accounted s events) (empty : s.dtlsIncomingBio = [])
    (taken : step handshake s datagram = some (next, emitted)) :
    next.dtlsIncomingBio = [] ↔ OneRecord s datagram := by
  obtain ⟨record, rest, pending, rfl, _⟩ :=
    step_cases accounted.established accounted.sctpIncomingBio taken
  rw [empty, List.nil_append] at pending
  rw [OneRecord, pending]
  simp

/-- The records are drained after every callback exactly when no datagram holds two of them. -/
theorem drained_iff_oneRecord (ready : Ready start) :
    RunIf OneRecord (step handshake) start actions s events ↔
      Always Drained (step handshake) start actions s events := by
  refine runIf_iff_always (fun s events => Accounted s events ∧ s.dtlsIncomingBio = [])
    ⟨ready.accounted, ready.dtlsIncomingBio⟩ ?_ ?_ ?_
  · intro s events datagram next emitted ⟨accounted, empty⟩ single taken
    exact ⟨step_accounted accounted taken, (step_drained accounted empty taken).mpr single⟩
  · intro s events ⟨accounted, empty⟩
    exact accounted.drained.mpr empty
  · intro s events datagram next emitted ⟨accounted, empty⟩ taken drained
    have kept := step_accounted accounted taken
    exact (step_drained accounted empty taken).mp (kept.drained.mp drained)

def idle : Receiver where
  negotiationDone := true
  initFinished := true
  handshakeDone := true
  dtlsIncomingBio := []
  sctpIncomingBio := []

theorem idle_ready : Ready idle where
  negotiated := rfl
  finished := rfl
  dtlsIncomingBio := rfl
  sctpIncomingBio := rfl

def byteRecord (byte : UInt8) : Record :=
  ⟨[byte], by simp, by simp [bufferSize]⟩

theorem single_records_drained :
    ∃ last events, Always Drained (step id) idle
      [⟨[byteRecord 1], by decide⟩, ⟨[byteRecord 2], by decide⟩] last events ∧
        conninputs events = [[1], [2]] := by
  have moved : (execIf OneRecord (step id) idle
      [⟨[byteRecord 1], by decide⟩, ⟨[byteRecord 2], by decide⟩]).map
        (fun last => conninputs last.2) = some [[1], [2]] := by decide +kernel
  obtain ⟨⟨last, events⟩, taken, passed⟩ := Option.map_eq_some_iff.mp moved
  exact ⟨last, events, (drained_iff_oneRecord idle_ready).mp (execIf_runIf taken), passed⟩

def DrainLaw : Prop :=
  ∀ (handshake : Receiver → Receiver) (start s : Receiver) (actions : List Datagram)
    (events : List Event), Ready start → Run (step handshake) start actions s events →
      Drained s events

theorem second_record_waits : ¬ DrainLaw := by
  intro law
  have moved : (exec (step id) idle [⟨[byteRecord 1, byteRecord 2], by decide⟩]).map Prod.snd =
      some [.received (byteRecord 1), .received (byteRecord 2), .conninput [1]] := by
    decide +kernel
  obtain ⟨last, run⟩ := exec_events moved
  have drained := law _ _ _ _ _ idle_ready run
  exact absurd drained (by unfold Drained; decide)

end Librtcdc.Incoming
