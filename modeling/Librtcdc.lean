import Librtcdc.Shared.Trace
import Librtcdc.Peer.RoundTrip
import Librtcdc.Peer.Handover
import Librtcdc.Peer.Allocation
import Librtcdc.Peer.Streams
import Librtcdc.Metadata.Closing
import Librtcdc.Metadata.Routing
import Librtcdc.Peer.Agreement
import Librtcdc.Peer.Calls
import Librtcdc.Peer.Conversation
import Librtcdc.Peer.Outgoing
import Librtcdc.Sync.Transfer
import Librtcdc.Metadata.Answers
import Librtcdc.Metadata.Calls
import Librtcdc.Metadata.Convergence
import Librtcdc.Metadata.Checksum
import Librtcdc.Peer.SctpStack
import Librtcdc.Peer.Contexts
import Librtcdc.Peer.Roles
import Librtcdc.Peer.Slots
import Librtcdc.Peer.Exposed
import Librtcdc.Peer.Racing
import Librtcdc.Sync.Uploads
import Librtcdc.Peer.Layers
import Librtcdc.Metadata.Repositories
import Librtcdc.Sync.Candidates
import Librtcdc.Peer.Creation
import Librtcdc.Peer.Incoming
import Librtcdc.Peer.OpenFormat
import Librtcdc.Peer.OpenBounds
import Librtcdc.Peer.OfferAnswer
import Librtcdc.Metadata.Classification
import Librtcdc.Peer.Fingerprint
import Librtcdc.Sync.Receiving
import Librtcdc.Metadata.Pointers
import Librtcdc.Peer.Resignalling
import Librtcdc.Metadata.Joining
import Librtcdc.Metadata.Diffs
import Librtcdc.Metadata.Requests
import Librtcdc.Metadata.Capacity
import Librtcdc.Shared.Component
import Librtcdc.Peer.Provenance
import Librtcdc.Sync.Channels
import Librtcdc.Peer.OneWay
import Librtcdc.Sync.Pointers
import Librtcdc.Peer.Liveness
import Librtcdc.Sync.Termination
import Librtcdc.Metadata.Main
import Librtcdc.Peer.Established
import Librtcdc.Metadata.Isolation
import Librtcdc.Metadata.Registry
import Librtcdc.Metadata.Sharing
import Librtcdc.Sync.RemoteCandidates
import Librtcdc.Peer.Shutdown
import Librtcdc.Peer.Phases
import Librtcdc.Sync.Meeting
