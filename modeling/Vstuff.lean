import Vstuff.Lib.Machine
import Vstuff.Lib.Window
import Vstuff.Lib.GoBackN
import Vstuff.Lib.Peek
import Vstuff.Lib.Chunks
import Vstuff.Lib.Pairs
import Vstuff.Lapd.TxQueue
import Vstuff.Lapd.Timers
import Vstuff.Lapd.Reestablish
import Vstuff.Lapd.Poll
import Vstuff.Lapd.TeiGuard
import Vstuff.Lapd.Delivery
import Vstuff.Lapd.TeiUnique
import Vstuff.Lapd.TeiAssignment
import Vstuff.Lapd.CheckResponse
import Vstuff.Lapd.SapOptions
import Vstuff.Lapd.WaitingFrames
import Vstuff.Lapd.Dispatch
import Vstuff.Q931.Bounds
import Vstuff.Q931.RoundTrip
import Vstuff.Q931.Codings
import Vstuff.Q931.Compatibility
import Vstuff.Q931.Occurrences
import Vstuff.Q931.Chanset
import Vstuff.Q931.Callref
import Vstuff.Q931.TimerRun
import Vstuff.Q931.Locality
import Vstuff.Q931.Targets
import Vstuff.Q931.Mandatory
import Vstuff.Q931.Restart
import Vstuff.Q931.Clearing
import Vstuff.Q931.Repetition
import Vstuff.Q931.Interface
import Vstuff.Q931.Aborts
import Vstuff.Q931.LifetimeRun
import Vstuff.Vgsm.Requests
import Vstuff.Vgsm.PinAttempts
import Vstuff.Vgsm.Boundaries
import Vstuff.Kstreamer.LifeCycle
import Vstuff.Kstreamer.Neighbours
import Vstuff.Kstreamer.Attributes
import Vstuff.Kstreamer.Requests
import Vstuff.Kstreamer.Containment
import Vstuff.Kstreamer.Retry
import Vstuff.Libkstreamer.Completion
import Vstuff.Libkstreamer.Multicast
import Vstuff.Libkstreamer.Answers
import Vstuff.Libkstreamer.Features
import Vstuff.Libkstreamer.Router
import Vstuff.Libkstreamer.Tables
import Vstuff.Libkstreamer.Balance
import Vstuff.Libkstreamer.PdReading
import Vstuff.Libkstreamer.PdRejection
import Vstuff.Libkstreamer.SendRequests
import Vstuff.Vgsm.SimResources
import Vstuff.Vgsm.Supervision
import Vstuff.Vgsm.Attempts
import Vstuff.Vgsm.SmsPrepare
import Vstuff.Vgsm.PduBounds
import Vstuff.Vgsm.Semioctets
import Vstuff.Vgsm.ServiceTime
import Vstuff.Vgsm.SimFile
import Vstuff.Vgsm.TimerSet
import Vstuff.Vgsm.CallTable
import Vstuff.Q931.ChannelSelection
import Vstuff.Hfc.FifoInline
import Vstuff.Libskb.SkBuff
import Vstuff.HuntGroup
import Vstuff.Vgsm.Atr
import Vstuff.Vgsm.ImplStream
import Vstuff.Vgsm.LocalRelay
import Vstuff.Vgsm2.AudioRing
import Vstuff.Vgsm1.DmaRing
import Vstuff.Lib.RingBuffer
import Vstuff.Userport.Port
import Vstuff.Hfc.PciMemory
import Vstuff.Hfc.PciQueue
import Vstuff.Hfc.PciFrames
import Vstuff.Lib.Slots
import Vstuff.Q931.IeLists
import Vstuff.Lapd.TeiBus
import Vstuff.Hfc.UsbFifo
import Vstuff.Vgsm.TransferEncoding
