import Librtcdc.Peer.Pair

set_option autoImplicit false

namespace Librtcdc.Pair

open Systems

def openSendv (label protocol : CString) (sid : UInt16) : Sendv :=
  (openMessage label protocol sid).sendv

def ackSendv (sid : UInt16) : Sendv :=
  (dcepAckMessage sid).sendv

@[simp] theorem openSendv_sid (label protocol : CString) (sid : UInt16) :
    (openSendv label protocol sid).sndSid = sid := rfl

structure IsUser (message : Sendv) : Prop where
  nonempty : message.data ≠ []
  ppid : (datatypeOfPpid (ntohl message.sndPpid)).isSome

def Preamble (first : Sendv) : List Sendv → Prop
  | [] => True
  | message :: rest => (message = first ∨ IsUser message) ∧ ∀ m ∈ rest, IsUser m

structure SameTexts (a b : RtcdcDataChannel) : Prop where
  label : textOf a.label = textOf b.label
  protocol : textOf a.protocol = textOf b.protocol

structure HasTexts (a : RtcdcDataChannel) (label protocol : CString) : Prop where
  sameLabel : textOf a.label = label.val
  sameProtocol : textOf a.protocol = protocol.val
  shortLabel : label.val.length ≤ 65535
  shortProtocol : protocol.val.length ≤ 65535

-- The life of one stream id. `own` and `remote` are the channels on it at the side that hands it
-- out and at the other side, then come what each of the two has sent and what of that was handled.
inductive StreamOk (sid : UInt16) (own remote : Option RtcdcDataChannel)
    (sentOwn sentRemote gotOwn gotRemote : List Sendv) : Prop
  | idle (own_none : own = none) (remote_none : remote = none) (sentOwn_nil : sentOwn = [])
      (sentRemote_nil : sentRemote = []) (gotOwn_nil : gotOwn = []) (gotRemote_nil : gotRemote = [])
  -- the OPEN is on its way, or it was refused or dropped
  | opening {a : RtcdcDataChannel} {label protocol : CString} (own_some : own = some a)
      (remote_none : remote = none) (state : a.state = .connecting)
      (texts : HasTexts a label protocol) (opens : Preamble (openSendv label protocol sid) sentOwn)
      (sentRemote_nil : sentRemote = []) (gotRemote_nil : gotRemote = [])
  | opened {a b : RtcdcDataChannel} {label protocol : CString} (own_some : own = some a)
      (remote_some : remote = some b) (state : a.state ≠ .closed) (connected : b.state = .connected)
      (texts : SameTexts a b) (opens : Preamble (openSendv label protocol sid) sentOwn)
      (started : gotOwn ≠ []) (answers : Preamble (ackSendv sid) sentRemote)

variable {first message m : Sendv} {sent got later : List Sendv} {sid : UInt16}

theorem Preamble.snoc (preamble : Preamble first sent) (user : IsUser m) :
    Preamble first (sent ++ [m]) := by
  cases sent with
  | nil => exact ⟨.inr user, by simp⟩
  | cons head tail =>
      refine ⟨preamble.1, fun other member => ?_⟩
      rcases List.mem_append.mp member with earlier | last
      · exact preamble.2 other earlier
      · obtain rfl : other = m := by simpa using last
        exact user

theorem Preamble.next (preamble : Preamble first sent) (split : sent = got ++ m :: later) :
    (got = [] ∧ m = first) ∨ IsUser m := by
  subst split
  cases got with
  | nil => exact preamble.1.imp (fun same => ⟨rfl, same⟩) id
  | cons head tail => exact .inr (preamble.2 m (by simp))

theorem Preamble.user_after (preamble : Preamble first sent) (split : sent = got ++ m :: later)
    (started : got ≠ []) : IsUser m := by
  rcases preamble.next split with ⟨nothing, _⟩ | user
  · exact absurd nothing started
  · exact user

theorem preamble_optional {handed : List Sendv} (one : handed = [] ∨ handed = [first]) :
    Preamble first handed := by
  rcases one with rfl | rfl
  · trivial
  · exact ⟨.inl rfl, by simp⟩

def StreamAt (side : Side) (sid : UInt16) (mine theirs : Option RtcdcDataChannel)
    (sentMine sentTheirs gotMine gotTheirs : List Sendv) : Prop :=
  if owner sid = side then StreamOk sid mine theirs sentMine sentTheirs gotMine gotTheirs
  else StreamOk sid theirs mine sentTheirs sentMine gotTheirs gotMine

variable {side : Side} {mine theirs : Option RtcdcDataChannel} {a : RtcdcDataChannel}
  {sentMine sentTheirs gotMine gotTheirs : List Sendv}

theorem StreamAt.create {label protocol : CString} {handed : List Sendv}
    (stream : StreamAt side sid none theirs sentMine sentTheirs gotMine gotTheirs)
    (own : owner sid = side) (state : a.state = .connecting) (texts : HasTexts a label protocol)
    (one : handed = [] ∨ handed = [openSendv label protocol sid]) :
    gotTheirs = [] ∧
      StreamAt side sid (some a) theirs (sentMine ++ handed) sentTheirs gotMine gotTheirs := by
  rw [StreamAt, if_pos own] at stream ⊢
  cases stream with
  | idle _ remote_none sentOwn_nil sentRemote_nil gotOwn_nil gotRemote_nil =>
      subst sentOwn_nil
      exact ⟨gotRemote_nil, .opening rfl remote_none state texts
        (by simpa using preamble_optional one) sentRemote_nil gotRemote_nil⟩
  | opening own_some => cases own_some
  | opened own_some => cases own_some

theorem StreamAt.send {handed : List Sendv} (user : IsUser m) (one : handed = [] ∨ handed = [m])
    (stream : StreamAt side sid (some a) theirs sentMine sentTheirs gotMine gotTheirs) :
    StreamAt side sid (some a) theirs (sentMine ++ handed) sentTheirs gotMine gotTheirs := by
  rcases one with rfl | rfl
  · simpa using stream
  · unfold StreamAt at stream ⊢
    split_ifs at stream ⊢ with own
    · cases stream with
      | idle own_none => cases own_none
      | opening own_some remote_none state texts opens sentRemote_nil gotRemote_nil =>
          exact .opening own_some remote_none state texts (opens.snoc user) sentRemote_nil
            gotRemote_nil
      | opened own_some remote_some state connected texts opens started answers =>
          exact .opened own_some remote_some state connected texts (opens.snoc user) started answers
    · cases stream with
      | idle _ remote_none => cases remote_none
      | opening _ remote_none => cases remote_none
      | opened own_some remote_some state connected texts opens started answers =>
          exact .opened own_some remote_some state connected texts opens started
            (answers.snoc user)

theorem StreamAt.incoming
    (stream : StreamAt side sid mine theirs sentMine sentTheirs gotMine gotTheirs)
    (split : sentTheirs = gotTheirs ++ m :: later) :
    (∃ label protocol, m = openSendv label protocol sid ∧ label.val.length ≤ 65535 ∧
        protocol.val.length ≤ 65535 ∧ owner sid ≠ side ∧ mine = none ∧ theirs ≠ none ∧
        gotTheirs = [] ∧
        StreamAt side sid none theirs sentMine sentTheirs gotMine (gotTheirs ++ [m]) ∧
        ∀ b handed, b.state = .connected → HasTexts b label protocol →
          (handed = [] ∨ handed = [ackSendv sid]) →
          StreamAt side sid (some b) theirs (sentMine ++ handed) sentTheirs gotMine
            (gotTheirs ++ [m])) ∨
      (m = ackSendv sid ∧ ∃ a, mine = some a ∧
        StreamAt side sid (some { a with state := .connected }) theirs sentMine sentTheirs gotMine
          (gotTheirs ++ [m])) ∨
      (IsUser m ∧ (∀ a, mine = some a → a.state ≠ .closed) ∧
        StreamAt side sid mine theirs sentMine sentTheirs gotMine (gotTheirs ++ [m])) := by
  unfold StreamAt at stream ⊢
  split_ifs at stream ⊢ with own
  · right
    cases stream with
    | idle _ _ _ sentRemote_nil => simp [sentRemote_nil] at split
    | opening _ _ _ _ _ sentRemote_nil => simp [sentRemote_nil] at split
    | opened own_some remote_some state connected texts opens started answers =>
        rcases answers.next split with ⟨_, same⟩ | user
        · exact .inl ⟨same, _, own_some, .opened rfl remote_some (by simp) connected
            ⟨texts.label, texts.protocol⟩ opens started answers⟩
        · refine .inr ⟨user, fun a same => ?_, .opened own_some remote_some state connected texts
            opens started answers⟩
          rw [own_some] at same
          obtain rfl := Option.some.inj same
          exact state
  · cases stream with
    | idle _ _ sentOwn_nil => simp [sentOwn_nil] at split
    | opening own_some remote_none state texts opens sentRemote_nil gotRemote_nil =>
        rcases opens.next split with ⟨nothing, same⟩ | user
        · refine .inl ⟨_, _, same, texts.shortLabel, texts.shortProtocol, own, remote_none,
            by simp [own_some], nothing,
            .opening own_some rfl state texts opens sentRemote_nil gotRemote_nil, ?_⟩
          intro b handed connected accepted one
          have agree : SameTexts _ b :=
            ⟨texts.sameLabel.trans accepted.sameLabel.symm,
              texts.sameProtocol.trans accepted.sameProtocol.symm⟩
          rw [sentRemote_nil]
          exact .opened own_some rfl (by simp [state]) connected agree opens (by simp)
            (by simpa using preamble_optional one)
        · refine .inr (.inr ⟨user, ?_, .opening own_some remote_none state texts opens
            sentRemote_nil gotRemote_nil⟩)
          simp [remote_none]
    | opened own_some remote_some state connected texts opens started answers =>
        have user := opens.user_after split started
        refine .inr (.inr ⟨user, fun b same => ?_, .opened own_some remote_some state connected
          texts opens (by simp) answers⟩)
        rw [remote_some] at same
        obtain rfl := Option.some.inj same
        simp [connected]

end Librtcdc.Pair
