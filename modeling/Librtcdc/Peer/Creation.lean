import Librtcdc.Shared.Trace
import Librtcdc.Peer.Allocation

set_option autoImplicit false

namespace Librtcdc.Creation

open Systems

structure CreateCall where
  label : Option CString
  protocol : Option CString
  callbacks : Callbacks
  env : CreateEnv
  deriving DecidableEq, Repr

def CreateCall.run (call : CreateCall) (peer : RtcdcPeerConnection) :
    Option (Option (Fin rtcdcMaxChannelNum) × RtcdcPeerConnection × List Effect) :=
  rtcdcCreateDataChannel peer call.label call.protocol call.callbacks call.env

def step : Step RtcdcPeerConnection CreateCall (Option (Fin rtcdcMaxChannelNum))
  | peer, call => (call.run peer).map fun (created, next, _) => (next, [created])

def streamCursor (peer : RtcdcPeerConnection) : Option Nat :=
  peer.transport.map fun transport => transport.sctp.streamCursor

structure Untouched (peer next : RtcdcPeerConnection) : Prop where
  channels : next.channels = peer.channels
  cursor : streamCursor next = streamCursor peer

def Traceless (peer : RtcdcPeerConnection) (call : CreateCall) : Prop :=
  ∀ next effects, call.run peer = some (none, next, effects) → Untouched peer next

def Refuses (sctp : SctpTransport) (err : Int) : Prop :=
  sctp.deferredMessages = none ∨ (sctp.handshakeDone = true ∧ err < 0)

structure SendFails (peer : RtcdcPeerConnection) (call : CreateCall) : Prop where
  callocChannel : call.env.callocChannel = true
  callocReq : call.env.callocReq = true
  free : peer.channels.firstFree ≠ none
  label : call.label ≠ none
  protocol : call.protocol ≠ none
  refused : ∃ transport, peer.transport = some transport ∧ Refuses transport.sctp call.env.sendv

variable {peer next : RtcdcPeerConnection} {call : CreateCall}
  {created : Option (Fin rtcdcMaxChannelNum)} {effects : List Effect} {base cursor : Nat}

theorem sendSctpMessage_refuses {sctp : SctpTransport} {message : SctpMessage} {err : Int} :
    (sendSctpMessage sctp message err).1 < 0 ↔ Refuses sctp err := by
  rw [Refuses, ← Option.isNone_iff_eq_none]
  unfold sendSctpMessage
  split_ifs <;> simp_all

theorem Untouched.refl (peer : RtcdcPeerConnection) : Untouched peer peer := ⟨rfl, rfl⟩

theorem Untouched.trans {between : RtcdcPeerConnection} (first : Untouched peer between)
    (second : Untouched between next) : Untouched peer next :=
  ⟨second.channels.trans first.channels, second.cursor.trans first.cursor⟩

theorem unallocated_untouched
    (failed : (call.env.callocChannel && call.env.callocReq) = false)
    (called : call.run peer = some (created, next, effects)) :
    created = none ∧ Untouched peer next := by
  rcases rtcdcCreateDataChannel_cases called with
    ⟨nothing, rfl, _⟩ | ⟨transport, i, label, protocol, _, _, _, stored, free, hlabel, hprotocol, _⟩
  · exact ⟨nothing, .refl _⟩
  · have empty := (Table.firstFree_some free).1
    rw [CreateCall.run, rtcdcCreateDataChannel, hlabel, hprotocol] at called
    simp only [stored, free, Table.put_none empty] at called
    cases channel : call.env.callocChannel with
    | false =>
        simp only [channel, Bool.not_false, if_true] at called
        cases called
        exact ⟨rfl, .refl _⟩
    | true =>
        have request : call.env.callocReq = false := by simpa [channel] using failed
        simp only [channel, request, Bool.not_true, Bool.not_false, Bool.false_eq_true, if_false,
          if_true] at called
        cases called
        exact ⟨rfl, rfl, by simp [streamCursor, stored]⟩

theorem run_cases (called : call.run peer = some (created, next, effects)) :
    (created = none ∧ Untouched peer next) ∨ SendFails peer call ∨
      ∃ i ch cursor, created = some i ∧ peer.channels.firstFree = some i ∧
        streamCursor peer = some cursor ∧ ch.sid = UInt16.ofNat cursor ∧
        next.channels = peer.channels.put i (some ch) ∧ streamCursor next = some (cursor + 2) := by
  cases allocated : call.env.callocChannel && call.env.callocReq with
  | false => exact .inl (unallocated_untouched allocated called)
  | true =>
      rw [Bool.and_eq_true] at allocated
      rcases rtcdcCreateDataChannel_cases called with
        ⟨nothing, rfl, _⟩ | ⟨transport, i, label, protocol, sctp, ch, message, stored, free, hlabel,
          hprotocol, rfl, rfl, _, _, ⟨refused, _, _⟩ | ⟨_, returned, moved⟩⟩
      · exact .inl ⟨nothing, .refl _⟩
      · refine .inr (.inl ⟨allocated.1, allocated.2, ?_, ?_, ?_, transport, stored, ?_⟩)
        · simp [free]
        · simp [hlabel]
        · simp [hprotocol]
        · exact sendSctpMessage_refuses.mp refused
      · subst moved
        exact .inr (.inr ⟨i, createdChannel label protocol
          (UInt16.ofNat transport.sctp.streamCursor) call.callbacks, transport.sctp.streamCursor,
          returned, free, by simp [streamCursor, stored], rfl, rfl, rfl⟩)

theorem SendFails.advances (fails : SendFails peer call) :
    ∃ next effects cursor, call.run peer = some (none, next, effects) ∧
      streamCursor peer = some cursor ∧ streamCursor next = some (cursor + 2) := by
  obtain ⟨callocChannel, callocReq, free, hlabel, hprotocol, transport, stored, refused⟩ := fails
  obtain ⟨i, free⟩ := Option.ne_none_iff_exists'.mp free
  obtain ⟨label, hlabel⟩ := Option.ne_none_iff_exists'.mp hlabel
  obtain ⟨protocol, hprotocol⟩ := Option.ne_none_iff_exists'.mp hprotocol
  have negative : ∀ message, (sendSctpMessage
      { transport.sctp with streamCursor := transport.sctp.streamCursor + 2 } message
        call.env.sendv).1 < 0 := fun _ => sendSctpMessage_refuses.mpr refused
  let sctp := { transport.sctp with streamCursor := transport.sctp.streamCursor + 2 }
  let message := openMessage label protocol (UInt16.ofNat transport.sctp.streamCursor)
  refine ⟨{ peer.withSctp transport sctp with channels := peer.channels.put i none },
    (sendSctpMessage sctp message call.env.sendv).2, transport.sctp.streamCursor, ?_,
    by simp [streamCursor, stored], by simp [streamCursor, RtcdcPeerConnection.withSctp, sctp]⟩
  rw [CreateCall.run, rtcdcCreateDataChannel, hlabel, hprotocol]
  simp only [stored, free, callocChannel, callocReq, Bool.not_true, Bool.false_eq_true, if_false,
    if_pos (negative _)]
  rfl

theorem traceless_iff : Traceless peer call ↔ ¬ SendFails peer call := by
  constructor
  · intro traceless fails
    obtain ⟨next, effects, cursor, called, before, after⟩ := fails.advances
    have same := (traceless next effects called).cursor
    rw [before, after, Option.some.injEq] at same
    omega
  · intro sends next effects called
    rcases run_cases called with ⟨_, untouched⟩ | fails | ⟨i, _, _, returned, _⟩
    · exact untouched
    · exact absurd fails sends
    · cases returned

def Accounted (base : Nat) (peer : RtcdcPeerConnection) : Prop :=
  ∃ cursor, streamCursor peer = some cursor ∧ Allocated base cursor peer.channels

-- A call that succeeds takes the next unused id, which is below the number of streams.
def UsesNext (base : Nat) (peer : RtcdcPeerConnection) : Prop :=
  ∀ (call : CreateCall) i next effects, call.run peer = some (some i, next, effects) →
    ∃ ch, next.channels i = some ch ∧
      ch.sid.toNat = base + 2 * (Table.slotsWhere (hasParity base) peer.channels).card ∧
      ch.sid.toNat < rtcdcMaxOutStream ∧
      ∀ j other, peer.channels j = some other → hasParity base other = true → other.sid ≠ ch.sid

theorem Accounted.keeps (accounted : Accounted base peer) (sends : ¬ SendFails peer call)
    (called : call.run peer = some (created, next, effects)) : Accounted base next := by
  obtain ⟨cursor, held, allocated⟩ := accounted
  rcases run_cases called with ⟨_, untouched⟩ | fails | ⟨i, ch, cursor', _, free, held', sid, table,
    after⟩
  · exact ⟨cursor, untouched.cursor.trans held, untouched.channels ▸ allocated⟩
  · exact absurd fails sends
  · obtain rfl : cursor = cursor' := by simpa [held] using held'
    refine ⟨cursor + 2, after, ?_⟩
    rw [table]
    exact allocated.create (Table.any_free (Table.firstFree_some free).1) sid

theorem Accounted.usesNext (accounted : Accounted base peer) : UsesNext base peer := by
  intro call i next effects called
  obtain ⟨cursor, held, allocated⟩ := accounted
  rcases run_cases called with ⟨returned, _⟩ | fails | ⟨i', ch, cursor', returned, free, held', sid,
    table, _⟩
  · cases returned
  · obtain ⟨next', _, _, refused, _⟩ := fails.advances
    simp [called] at refused
  · obtain rfl : i = i' := Option.some.inj returned
    obtain rfl : cursor = cursor' := by simpa [held] using held'
    have empty := (Table.firstFree_some free).1
    have exact : ch.sid.toNat = cursor := by rw [sid, allocated.next_sid (Table.any_free empty)]
    refine ⟨ch, by rw [table, Table.put_same], ?_, ?_, fun j other stored own => ?_⟩
    · rw [exact, ← allocated.count]
    · rw [exact]
      exact allocated.cursor_lt (Table.any_free empty)
    · rw [sid]
      exact allocated.fresh (Table.any_free empty) stored own

variable {start s : RtcdcPeerConnection} {calls : List CreateCall}
  {results : List (Option (Fin rtcdcMaxChannelNum))}

abbrev Sends (peer : RtcdcPeerConnection) (call : CreateCall) : Prop := ¬ SendFails peer call

theorem step_some {emitted : List (Option (Fin rtcdcMaxChannelNum))}
    (taken : step peer call = some (next, emitted)) :
    ∃ created effects, call.run peer = some (created, next, effects) ∧ emitted = [created] := by
  obtain ⟨⟨created, _, effects⟩, called, same⟩ := Option.map_eq_some_iff.mp taken
  obtain ⟨rfl, rfl⟩ := Prod.mk.inj same
  exact ⟨created, effects, called, rfl⟩

theorem failures_untouched (run : RunIf Sends step start calls s results)
    (failed : ∀ result ∈ results, result = none) : Untouched start s := by
  induction run with
  | refl => exact .refl _
  | snoc _ sends taken ih =>
      obtain ⟨created, effects, called, rfl⟩ := step_some taken
      rw [List.forall_mem_append, List.forall_mem_singleton] at failed
      obtain ⟨earlier, rfl⟩ := failed
      exact (ih earlier).trans (traceless_iff.mpr sends _ _ called)

def connectedPeer : RtcdcPeerConnection where
  exitThread := false
  transport := some
    { ice := { negotiationDone := true }
      dtls := { handshakeDone := true }
      sctp := { handshakeDone := true, deferredMessages := some [], streamCursor := 0 } }
  role := .client
  channels := fun _ => none
  onChannel := none
  onConnect := false

def createEmpty (callocReq : Bool) (sendv : Int) : CreateCall where
  label := some CString.empty
  protocol := some CString.empty
  callbacks := { onOpen := false, onMessage := false, onClose := false }
  env := { callocChannel := true, callocReq, sendv }

end Librtcdc.Creation
