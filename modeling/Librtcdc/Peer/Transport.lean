import Librtcdc.Peer.Types

set_option autoImplicit false

namespace Librtcdc

open Systems

-- util.c

def randomInteger (rand min max : Nat) : Nat :=
  rand % (max + 1 - min) + min

theorem randomInteger_between (rand : Nat) {min max : Nat} (ordered : min < max) :
    min ≤ randomInteger rand min max ∧ randomInteger rand min max ≤ max := by
  have bound := Nat.mod_lt rand (show 0 < max + 1 - min by omega)
  unfold randomInteger
  omega

-- The contexts that a process has created are told apart by their numbers. The fingerprint is the
-- text of the digest of the certificate.
structure DtlsContext where
  number : Nat
  digest : Vector UInt8 32
  deriving DecidableEq, Repr

abbrev LocalPort := { port : Nat // 10000 ≤ port ∧ port ≤ 60000 }

-- The ports are those of the SDPs.
structure SctpEndpoint extends SctpTransport where
  localPort : LocalPort
  remotePort : Int
  deriving DecidableEq, Repr

structure Transport where
  ctx : DtlsContext
  ice : IceTransport
  dtls : DtlsTransport
  sctp : SctpEndpoint
  deriving DecidableEq, Repr

-- The part of a peer that is there before `rtcdc_loop`.
structure Connection where
  transport : Option Transport
  initialized : Bool
  role : PeerRole
  deriving DecidableEq, Repr

-- The static variables of a process, and how many contexts it has created.
structure Globals where
  dtlsContext : Option DtlsContext
  contextRef : Int
  sctpRef : Int
  created : Nat
  deriving DecidableEq, Repr

inductive LibraryCall where
  | createContext (ctx : DtlsContext)
  | destroyContext (ctx : DtlsContext)
  | usrsctpInit
  | usrsctpSocket
  | usrsctpFinish (succeeds : Bool)
  deriving DecidableEq, Repr

-- sctp.c

-- The outcomes of the calls in one run of `create_sctp_transport`.
structure SctpEnv where
  calloc : Bool
  rand : Nat
  socket : Bool
  incomingBio : Bool
  outgoingBio : Bool
  finish : Bool
  deriving DecidableEq, Repr

def initCalls (g : Globals) : List LibraryCall :=
  if g.sctpRef = 0 then [.usrsctpInit] else []

-- `attached` tells whether the peer has a transport to put the result into.
def createSctpTransport (g : Globals) (attached : Bool) (env : SctpEnv) :
    Option SctpEndpoint × Globals × List LibraryCall :=
  if !attached || !env.calloc then (none, g, [])
  else
    let init := initCalls g
    let g := { g with sctpRef := g.sctpRef + 1 }
    if env.socket && env.incomingBio && env.outgoingBio then
      let sctp : SctpEndpoint :=
        { handshakeDone := false
          deferredMessages := some []
          streamCursor := 0
          localPort := ⟨randomInteger env.rand 10000 60000,
            randomInteger_between env.rand (by decide)⟩
          remotePort := 0 }
      (some sctp, g, init ++ [.usrsctpSocket])
    else
      -- trans_err: the reference taken above is not given back
      (none, g, init ++ [.usrsctpSocket, .usrsctpFinish env.finish])

theorem createSctpTransport_cases (g : Globals) (attached : Bool) (env : SctpEnv) :
    ((attached && env.calloc) = false ∧ createSctpTransport g attached env = (none, g, [])) ∨
      (attached && env.calloc) = true ∧
        (((env.socket && env.incomingBio && env.outgoingBio) = true ∧
            ∃ sctp, createSctpTransport g attached env =
              (some sctp, { g with sctpRef := g.sctpRef + 1 }, initCalls g ++ [.usrsctpSocket])) ∨
          ((env.socket && env.incomingBio && env.outgoingBio) = false ∧
            createSctpTransport g attached env =
              (none, { g with sctpRef := g.sctpRef + 1 },
                initCalls g ++ [.usrsctpSocket, .usrsctpFinish env.finish]))) := by
  unfold createSctpTransport
  rw [← Bool.not_and]
  cases attached && env.calloc with
  | false => exact .inl ⟨rfl, rfl⟩
  | true =>
      cases env.socket && env.incomingBio && env.outgoingBio with
      | false => exact .inr ⟨rfl, .inr ⟨rfl, rfl⟩⟩
      | true => exact .inr ⟨rfl, .inl ⟨rfl, _, rfl⟩⟩

def finishLoop (finish : Nat → Bool) : Nat → Nat → List LibraryCall
  | 0, _ => []
  | n + 1, i =>
      if finish i then [.usrsctpFinish true]
      else .usrsctpFinish false :: finishLoop finish n (i + 1)

def destroySctpTransport (g : Globals) (sctp : Option SctpEndpoint) (finish : Nat → Bool) :
    Globals × List LibraryCall :=
  match sctp with
  | none => (g, [])
  | some _ =>
      let g := { g with sctpRef := g.sctpRef - 1 }
      (g, if g.sctpRef = 0 then finishLoop finish 300 0 else [])

-- rtcdc.c

structure TransportEnv where
  calloc : Bool
  -- the digest of a new certificate, `none` when `create_dtls_context` fails
  context : Option (Vector UInt8 32)
  dtls : Bool
  sctp : SctpEnv
  ice : Bool
  finish : Nat → Bool

def acquireContext (g : Globals) (made : Option (Vector UInt8 32)) :
    Option (DtlsContext × Globals × List LibraryCall) :=
  match g.dtlsContext with
  | some ctx => some (ctx, g, [])
  | none =>
      made.map fun digest =>
        let ctx : DtlsContext := { number := g.created, digest := digest }
        (ctx, { g with dtlsContext := some ctx, created := g.created + 1 }, [.createContext ctx])

def releaseContext (g : Globals) : Globals × List LibraryCall :=
  if g.contextRef - 1 ≤ 0 then
    ({ g with dtlsContext := none, contextRef := 0 },
      g.dtlsContext.toList.map LibraryCall.destroyContext)
  else
    ({ g with contextRef := g.contextRef - 1 }, [])

-- The part of the unwinding from `dtls_null_err` on.
def dtlsNullErr (g : Globals) (peer : Connection) (calls : List LibraryCall) :
    Int × Globals × Connection × List LibraryCall :=
  let (g, released) := releaseContext g
  (-1, g, { peer with transport := none }, calls ++ released)

def createRtcdcTransport (g : Globals) (peer : Connection) (role : PeerRole) (env : TransportEnv) :
    Int × Globals × Connection × List LibraryCall :=
  if !env.calloc then (-1, g, peer, [])
  else
    let peer := { peer with role := role }
    match acquireContext g env.context with
    | none => (-1, g, { peer with transport := none }, [])
    | some (ctx, g, contextCalls) =>
        let g := { g with contextRef := g.contextRef + 1 }
        if !env.dtls then dtlsNullErr g peer contextCalls
        else
          match createSctpTransport g true env.sctp with
          | (none, g, sctpCalls) => dtlsNullErr g peer (contextCalls ++ sctpCalls)
          | (some sctp, g, sctpCalls) =>
              if !env.ice then
                let (g, finishCalls) := destroySctpTransport g (some sctp) env.finish
                dtlsNullErr g peer (contextCalls ++ sctpCalls ++ finishCalls)
              else
                let transport : Transport :=
                  { ctx := ctx
                    ice := { negotiationDone := false }
                    dtls := { handshakeDone := false }
                    sctp := sctp }
                (0, g, { peer with transport := some transport, initialized := true },
                  contextCalls ++ sctpCalls)

-- A NULL transport is not destroyed, and a live one has all its layers.
def destroyRtcdcTransport (g : Globals) (transport : Option Transport) (finish : Nat → Bool) :
    Globals × List LibraryCall :=
  match transport with
  | none => (g, [])
  | some transport =>
      let (g, finishCalls) := destroySctpTransport g (some transport.sctp) finish
      let (g, released) := releaseContext g
      (g, finishCalls ++ released)

end Librtcdc
