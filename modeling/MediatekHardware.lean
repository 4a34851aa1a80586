import MediatekHardware.Lib.StepMachine
import MediatekHardware.Lib.Fifo
import MediatekHardware.Lib.RingBuffer
import MediatekHardware.Muxd.Frame
import MediatekHardware.Muxd.FrameBuffer
import MediatekHardware.Muxd.AdvancedDecoder
import MediatekHardware.Muxd.AdvancedStream
import MediatekHardware.Muxd.AdvancedCalls
import MediatekHardware.Muxd.AdvancedCuts
import MediatekHardware.Muxd.WriteFrame
import MediatekHardware.Muxd.AdvancedRoundTrip
import MediatekHardware.Muxd.BaseDecoder
import MediatekHardware.Muxd.BaseStream
import MediatekHardware.Muxd.BaseCalls
import MediatekHardware.Muxd.BaseCuts
import MediatekHardware.Muxd.BaseRoundTrip
import MediatekHardware.Muxd.Transmit
import MediatekHardware.Muxd.TransmitIntegrity
import MediatekHardware.Lib.CircularList
import MediatekHardware.Lib.Transition
import MediatekHardware.Muxd.FlowControl
import MediatekHardware.Muxd.FlowControlPhases
import MediatekHardware.Muxd.FlowControlMessages
import MediatekHardware.Muxd.ChannelTable
import MediatekHardware.Muxd.Dispatch
import MediatekHardware.Muxd.ChannelHistory
import MediatekHardware.Muxd.ReceiveSafety
import MediatekHardware.Muxd.ReceivePath
import MediatekHardware.Muxd.ChannelIndex
import MediatekHardware.Muxd.SerialThreads
import MediatekHardware.Muxd.SharedBuffer
import MediatekHardware.Muxd.HandOff
import MediatekHardware.Muxd.BaseResync
import MediatekHardware.Muxd.AdvancedResync
import MediatekHardware.Muxd.FrameStore
import MediatekHardware.Muxd.ListOwnership
import MediatekHardware.Muxd.ReopenRequests
import MediatekHardware.Muxd.TransmitFlowControl
import MediatekHardware.Muxd.ChannelSetup
import MediatekHardware.Muxd.SetupCompletion
import MediatekHardware.Muxd.Sessions
import MediatekHardware.Lib.Lines
import MediatekHardware.Gps.NmeaReader
import MediatekHardware.Muxd.FullBuffer
import MediatekHardware.Muxd.UiRoundTrip
import MediatekHardware.Muxd.LinkControl
import MediatekHardware.Muxd.FrameListAccounting
import MediatekHardware.Lib.Mutex
import MediatekHardware.Muxd.Watchdog
import MediatekHardware.Muxd.WatchdogLock
import MediatekHardware.Muxd.Supervision
import MediatekHardware.Lib.Cursor
import MediatekHardware.Gps.MessageBuffer
import MediatekHardware.Gps.FrameworkMessages
import MediatekHardware.Gps.MnldMessages
import MediatekHardware.Lib.Assembly
import MediatekHardware.Gps.EpoTime
import MediatekHardware.Gps.EpoFileUpdate
import MediatekHardware.Gps.EpoDownload
import MediatekHardware.Lib.Repetition
import MediatekHardware.Gps.StatusCallbacks
import MediatekHardware.Lib.FirstMatch
import MediatekHardware.Wifi.CommandTables
import MediatekHardware.Wifi.HandlerOwnership
import MediatekHardware.Wifi.FailedStart
import MediatekHardware.Wifi.RttRequests
import MediatekHardware.Muxd.PendingFrames
import MediatekHardware.Muxd.Segmentation
import MediatekHardware.Muxd.ControlCommand
import MediatekHardware.Muxd.ModemStatus
import MediatekHardware.Atv.CtrlService
import MediatekHardware.Lib.Netlink
import MediatekHardware.Wifi.VendorData
import MediatekHardware.Wifi.VendorDataBounds
import MediatekHardware.Gps.MessageRoundTrip
import MediatekHardware.Gps.Constellation
import MediatekHardware.Gps.NiText
import MediatekHardware.Lib.Matcher
import MediatekHardware.Muxd.AdvFrameRoom
import MediatekHardware.Muxd.AtDialogue
import MediatekHardware.Muxd.ChannelAllocation
import MediatekHardware.Muxd.CloseDown
import MediatekHardware.Atv.ServiceMemory
import MediatekHardware.Gps.CalendarTime
import MediatekHardware.Gps.EpoControl
import MediatekHardware.Gps.EpoExpiry
import MediatekHardware.Gps.Measurements
import MediatekHardware.Lib.ArrayTable
import MediatekHardware.Lights.Leds
import MediatekHardware.Wifi.CachedScans
import MediatekHardware.Wifi.RttElements
import MediatekHardware.Wifi.ScanRetrieval
import MediatekHardware.Wifi.TableMemory
import MediatekHardware.Gps.NumberConversion
import MediatekHardware.Lib.BoundedPrint
import MediatekHardware.Lib.ReflectedCrc
import MediatekHardware.Lib.Scanf
import MediatekHardware.Memtrack.Graphic
import MediatekHardware.Memtrack.GraphicReport
import MediatekHardware.Muxd.FrameCheck
import MediatekHardware.Muxd.SubstringSearch
import MediatekHardware.Supplicant.CommandBounds
import MediatekHardware.Lib.CriticalSection
import MediatekHardware.Muxd.SharedLine
import MediatekHardware.Muxd.ReceivedFrames
import MediatekHardware.Muxd.ChannelStreams
import MediatekHardware.Lib.NetlinkMessage
import MediatekHardware.Wifi.VendorRequests
import MediatekHardware.Muxd.FrameOrigin
import MediatekHardware.Lib.Windows
import MediatekHardware.Gps.LocationReports
import MediatekHardware.Wifi.Shutdown
