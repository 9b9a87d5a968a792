import GaleraStateTransfer.Bytes
import GaleraStateTransfer.Request.Codec
import GaleraStateTransfer.Request.Descriptor
import GaleraStateTransfer.Request.Reads
import GaleraStateTransfer.Joiner.State
import GaleraStateTransfer.Joiner.Request
import GaleraStateTransfer.Joiner.Transfer
import GaleraStateTransfer.Joiner.Loops
import GaleraStateTransfer.Joiner.Marker
import GaleraStateTransfer.Donor.Serve
import GaleraStateTransfer.Donor.Outcome
import GaleraStateTransfer.Handshake
import GaleraStateTransfer.Joiner.Receiver
import GaleraStateTransfer.SstSignal
import GaleraStateTransfer.SstInstall
import GaleraStateTransfer.GcommRecv
import GaleraStateTransfer.GcommView
import GaleraStateTransfer.GcommConn
import GaleraStateTransfer.GcommConn.Lifecycle
import GaleraStateTransfer.GcommConn.Joins
import GaleraStateTransfer.GcommConn.Receive
import GaleraStateTransfer.GarbDaemon
