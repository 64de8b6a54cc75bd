import TvGate.Runtime
import TvGate.Stream.Rtp
import TvGate.Stream.RtpPacket
import TvGate.Stream.RingBuffer
import TvGate.Stream.Net
import TvGate.Stream.Hub
import TvGate.Stream.System
import TvGate.Stream.Queues
import TvGate.Stream.History
import TvGate.Stream.Registry
import TvGate.Stream.Sockets
import TvGate.Stream.Steps
import TvGate.Stream.Transfer
import TvGate.Stream.Counters
import TvGate.Stream.FullQueue
import TvGate.Stream.Sound
