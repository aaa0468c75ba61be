import DiagRouter.Lib.Memory
import DiagRouter.Lib.Runs
import DiagRouter.Lib.Words
import DiagRouter.Lib.Ring
import DiagRouter.Lib.Stuffing
import DiagRouter.Lib.Tally
import DiagRouter.Lib.CString
import DiagRouter.Lib.FirstSeen
import DiagRouter.Lib.Crc
import DiagRouter.Lib.Packets
import DiagRouter.Lib.LinkedList
import DiagRouter.Lib.Replay
import DiagRouter.Lib.Queue
import DiagRouter.Masks
import DiagRouter.MsgMaskTable
import DiagRouter.MsgMaskBuffers
import DiagRouter.CircRead
import DiagRouter.Hdlc
import DiagRouter.HdlcStream
import DiagRouter.HdlcBounds
import DiagRouter.HdlcTrace
import DiagRouter.Resync
import DiagRouter.FrameCheck
import DiagRouter.DmStream
import DiagRouter.Dispatch
import DiagRouter.Routing
import DiagRouter.DispatchOnce
import DiagRouter.Clients
import DiagRouter.Peripherals
import DiagRouter.LogMaskTable
import DiagRouter.Handlers
import DiagRouter.NhdlcStream
import DiagRouter.Cntl
import DiagRouter.DiagIdTable
import DiagRouter.DiagIdNames
import DiagRouter.MsgMaskReadBack
import DiagRouter.RequestBytes
import DiagRouter.MaskRuns
import DiagRouter.MaskBroadcast
import DiagRouter.EventMaskStore
import DiagRouter.LogMaskStore
import DiagRouter.Disconnects
import DiagRouter.Responses
import DiagRouter.ErrorAnswers
import DiagRouter.Watch
import DiagRouter.Endpoints
import DiagRouter.AioBookkeeping
import DiagRouter.FlowControl
import DiagRouter.SsidOwnership
import DiagRouter.CntlLocality
import DiagRouter.CntlParse
import DiagRouter.CntlPackets
import DiagRouter.NhdlcDatagram
import DiagRouter.QueryFrames
import DiagRouter.WriteStream
import DiagRouter.WatchCallbacks
import DiagRouter.MaskViews
import DiagRouter.LateJoiner
import DiagRouter.LogMaskAnswers
import DiagRouter.MsgMaskFill
import DiagRouter.InterFrame
import DiagRouter.RingFifo
import DiagRouter.UsbTransfer
import DiagRouter.CmdRecv
import DiagRouter.NhdlcCheck
import DiagRouter.DataRecv
import DiagRouter.SetAllBroadcast
import DiagRouter.SetMaskResponse
import DiagRouter.SetAcceptance
import DiagRouter.BuildMask
import DiagRouter.DiagIdQuery
import DiagRouter.HdlcRecovery
import DiagRouter.Lib.Records
import DiagRouter.HdlcEncode
import DiagRouter.IntrusiveList
import DiagRouter.Lib.Selection
import DiagRouter.Timers
import DiagRouter.Rpmsg
import DiagRouter.MainLoop
import DiagRouter.ResponseHeaders
import DiagRouter.SendData
import DiagRouter.Relay
import DiagRouter.Channels
import DiagRouter.UsbEnable
import DiagRouter.Listening
import DiagRouter.NhdlcFallback
import DiagRouter.Lib.Heap
import DiagRouter.MasksMemory
import DiagRouter.Isolation
