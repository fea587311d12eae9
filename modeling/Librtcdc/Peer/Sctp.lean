import Librtcdc.Peer.Types

set_option autoImplicit false

namespace Librtcdc

open Systems

def SctpMessage.sendv (message : SctpMessage) : Sendv :=
  { data := message.data, sndSid := message.sid, sndPpid := htonl message.ppid }

-- `err` is what `usrsctp_sendv` returns if it is called.
def sendSctpMessage (sctp : SctpTransport) (message : SctpMessage) (err : Int) :
    Int × List Effect :=
  if sctp.deferredMessages.isNone then
    (-1, [.sendSctp message sctp.handshakeDone (-1)])
  else if sctp.handshakeDone then
    if err < 0 then
      (-1, [.sendv message.sendv err, .sendSctp message true (-1)])
    else
      (0, [.sendv message.sendv err, .sendSctp message true 0])
  else
    -- the push to deferred_messages is commented out; the call still succeeds
    (0, [.sendSctp message false 0])

theorem sendSctpMessage_ret {sctp : SctpTransport} {message : SctpMessage} {err : Int}
    (ok : 0 ≤ err) (queue : sctp.deferredMessages ≠ none) :
    (sendSctpMessage sctp message err).1 = 0 := by
  have present : sctp.deferredMessages.isNone = false := by
    simpa [Option.isNone_eq_false_iff, Option.isSome_iff_ne_none] using queue
  unfold sendSctpMessage
  rw [present]
  cases sctp.handshakeDone <;> simp [Int.not_lt.mpr ok]

theorem sendSctpMessage_accepted {sctp : SctpTransport} (message : SctpMessage) {err : Int}
    (queue : sctp.deferredMessages ≠ none) (open_ : sctp.handshakeDone = true) (ok : 0 ≤ err) :
    sendSctpMessage sctp message err =
      (0, [.sendv message.sendv err, .sendSctp message true 0]) := by
  have present : sctp.deferredMessages.isNone = false := by
    simpa [Option.isNone_eq_false_iff, Option.isSome_iff_ne_none] using queue
  simp [sendSctpMessage, present, open_, Int.not_lt.mpr ok]

theorem handed_sendSctpMessage (sctp : SctpTransport) (message : SctpMessage) (err : Int) :
    (handed (sendSctpMessage sctp message err).2).map Prod.fst = [] ∨
      (handed (sendSctpMessage sctp message err).2).map Prod.fst = [message.sendv] := by
  unfold sendSctpMessage
  split_ifs
  · exact .inl rfl
  · exact .inr rfl
  · exact .inr rfl
  · exact .inl rfl

end Librtcdc
