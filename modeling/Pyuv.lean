import Pyuv.Lib.Runs
import Pyuv.Lib.ByteOrder
import Pyuv.Lib.Tickets
import Pyuv.PyObjects
import Pyuv.AddrTuples
import Pyuv.AddrContract
import Pyuv.WriteBuffers
import Pyuv.WriteResources
import Pyuv.WriteBytes
import Pyuv.SharedMethods
import Pyuv.FsRequests
import Pyuv.Handle
import Pyuv.Watchers
import Pyuv.LoopLifetimes
import Pyuv.HandleLife
import Pyuv.ActiveHandles
import Pyuv.SignalChecker
import Pyuv.StreamRequests
import Pyuv.RequestCallbacks
import Pyuv.RequestCancels
import Pyuv.ReadSlab
import Pyuv.ProcessLife
import Pyuv.AssertionRuns
import Pyuv.DefaultLoop
import Pyuv.PipeConnect
import Pyuv.Trampolines
import Pyuv.MethodGuards
import Pyuv.UdpRecv
import Pyuv.Periods
import Pyuv.FsEvents
import Pyuv.FsNames
import Pyuv.Lib.CVectors
import Pyuv.Spawn
import Pyuv.SpawnStrings
import Pyuv.SpawnRuns
import Pyuv.SpawnMemory
import Pyuv.SpawnOptions
import Pyuv.SpawnDefaults
import Pyuv.StdioObjects
import Pyuv.UvSpawn
import Pyuv.SpawnStdio
import Pyuv.Lib.CInts
import Pyuv.Integers
import Pyuv.PassedIntegers
import Pyuv.Dns
import Pyuv.DnsResources
import Pyuv.NameinfoResources
import Pyuv.FsCalls
import Pyuv.FsForms
import Pyuv.FsSubmissions
import Pyuv.Excepthook
import Pyuv.DnsResults
import Pyuv.HandleTypes
import Pyuv.OsStrings
import Pyuv.Callables
import Pyuv.MethodStatus
import Pyuv.Lib.ArrayHeaps
import Pyuv.TimerHeap
import Pyuv.TimerHeapSets
import Pyuv.EventLoop
import Pyuv.LoopInvariant
import Pyuv.LoopSteps
import Pyuv.LoopLog
import Pyuv.LoopRuns
import Pyuv.LoopWatchers
import Pyuv.LoopClosing
import Pyuv.LoopPrograms
import Pyuv.LoopStates
import Pyuv.LoopTimeouts
import Pyuv.LoopTimers
import Pyuv.Lib.Numerals
import Pyuv.Lib.Blocks
import Pyuv.Inet
import Pyuv.InetQuads
import Pyuv.InetTexts
import Pyuv.Lib.LongestRuns
import Pyuv.Lib.Floats
import Pyuv.InetNames
import Pyuv.InetPeers
