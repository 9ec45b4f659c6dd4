import SrRouter.Lib.ByteBuffer
import SrRouter.Lib.OnesComplement
import SrRouter.Lib.Interactive
import SrRouter.Lib.CString
import SrRouter.Protocol
import SrRouter.Interfaces
import SrRouter.ArpCache
import SrRouter.Router
import SrRouter.Instance
import SrRouter.Queue
import SrRouter.Frames
import SrRouter.Checksum
import SrRouter.Transitions
import SrRouter.Paths
import SrRouter.Lib.SavedNext
import SrRouter.Walk
import SrRouter.Sweep
import SrRouter.Invariants
import SrRouter.Routes
import SrRouter.LongestPrefix
import SrRouter.Forwarding
import SrRouter.Quotes
import SrRouter.EchoService
import SrRouter.Emission
import SrRouter.Conservation
import SrRouter.Retry
import SrRouter.Lib.BoundedMap
import SrRouter.CacheMap
import SrRouter.Learning
import SrRouter.ArpService
import SrRouter.Lib.Checked
import SrRouter.CheckedRouter
import SrRouter.MemoryBounds
import SrRouter.Threads
import SrRouter.Consistency
import SrRouter.References
import SrRouter.Reports
import SrRouter.Quiescence
import SrRouter.Echoes
import SrRouter.Comm
import SrRouter.MessageSafety
import SrRouter.Dispatch
import SrRouter.Assertions
import SrRouter.Lib.ShortReads
import SrRouter.Framing
import SrRouter.Closing
import SrRouter.PacketMessages
import SrRouter.Lib.Batches
import SrRouter.Ordering
import SrRouter.Lib.TextInput
import SrRouter.RouteFile
import SrRouter.HwInfo
import SrRouter.Resolvable
import SrRouter.Sha1
import SrRouter.SecureHash
import SrRouter.Authentication
import SrRouter.OpenMessages
import SrRouter.Handshake
import SrRouter.Startup
import SrRouter.RoutePrint
import SrRouter.Capture
import SrRouter.LinkedRuns
