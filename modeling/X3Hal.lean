import X3Hal.Transition.Core
import X3Hal.Transition.Justified
import X3Hal.Pattern.Cycle
import X3Hal.Stream.Lines
import X3Hal.Stream.Parts
import X3Hal.Sync.RwLock
import X3Hal.Gps.Session
import X3Hal.Gps.SessionStatus
import X3Hal.Gps.StartSync
import X3Hal.Gps.Time
import X3Hal.Gps.Epo
import X3Hal.Gps.EpoMerge
import X3Hal.Gps.Number
import X3Hal.Gps.Tokenizer
import X3Hal.Gps.Reader
import X3Hal.Gps.Parse
import X3Hal.Gps.HalThread
import X3Hal.Gps.ParseFrame
import X3Hal.Gps.Framing
import X3Hal.Gps.Thinning
import X3Hal.Gps.SvBound
import X3Hal.Gps.NmeaText
import X3Hal.Gps.Sentences
import X3Hal.Gps.SvReport
import X3Hal.Memory.Block
import X3Hal.Memory.Ring
import X3Hal.Gps.Codec
import X3Hal.Gps.Agps
import X3Hal.Gps.DaemonMessage
import X3Hal.Transition.Ledger
import X3Hal.Ril.Commands
import X3Hal.Ril.Unsol
import X3Hal.Ril.Service
import X3Hal.Ril.Register
import X3Hal.Ril.Pending
import X3Hal.Queue.SingleFlight
import X3Hal.Ril.Channel
import X3Hal.Ril.DataCall
import X3Hal.Ril.EventTimers
import X3Hal.Ril.TimerRuns
import X3Hal.Ril.WatchTable
import X3Hal.Ril.WakeLock
import X3Hal.Queue.Relay
import X3Hal.Ril.EarlyCache
import X3Hal.Memory.Heap
import X3Hal.Ril.SapSocket
import X3Hal.Memory.Cells
import X3Hal.Ril.QueuedBuffer
import X3Hal.Ril.BufferTransfer
import X3Hal.Ril.QueuedRequest
import X3Hal.Registry.Entries
import X3Hal.Wifi.Commands
import X3Hal.Wifi.Tables
import X3Hal.Transition.Loops
import X3Hal.Memory.Numbers
import X3Hal.Memory.Strings
import X3Hal.Registry.KeyedVector
import X3Hal.Ril.NitzTime
import X3Hal.Ril.DeviceIdentity
import X3Hal.Ril.Reregistration
import X3Hal.Wifi.Attributes
import X3Hal.Wifi.VendorEvents
import X3Hal.Wifi.EventBounds
import X3Hal.Wifi.AttributeBounds
import X3Hal.Wifi.VendorSafety
import X3Hal.Wpa.Tokenize
import X3Hal.Wpa.DriverCall
import X3Hal.Wpa.DriverCmd
import X3Hal.Wpa.CommandBounds
import X3Hal.Wpa.CommandSafety
import X3Hal.Bwc.Profile
import X3Hal.Gui.DumpTunnels
import X3Hal.Gui.Pool
import X3Hal.Gui.PoolLifetime
import X3Hal.Gui.BufferSlots
import X3Hal.Bluetooth.InitThread
import X3Hal.Bluetooth.InitAttempts
import X3Hal.Bluetooth.Address
import X3Hal.Bluetooth.AddressAttempts
import X3Hal.Calendar.Gregorian
import X3Hal.Calendar.LocalTime
import X3Hal.Gps.CivilTime
import X3Hal.Gps.SentenceFields
import X3Hal.Gps.Decimal
import X3Hal.Gps.Coordinates
import X3Hal.Gps.LibcClock
import X3Hal.Gps.UtcClock
import X3Hal.Gps.FixTime
import X3Hal.Gps.ReportTimes
import X3Hal.Gps.MonotoneTime
import X3Hal.Gps.Constellation
import X3Hal.Gps.EpoExpiry
import X3Hal.Ygps.JavaText
import X3Hal.Ygps.NmeaParser
import X3Hal.Ygps.Sentences
import X3Hal.Ygps.SatelliteView
import X3Hal.Registry.NamedMap
import X3Hal.Storage.KeyNames
import X3Hal.Storage.PersistentStorage
import X3Hal.Storage.MapRefinement
import X3Hal.Registry.Recency
import X3Hal.Ril.ThreadTable
import X3Hal.Memory.Faults
import X3Hal.Ril.ModemPayload
import X3Hal.Ril.OperatorNames
import X3Hal.Ril.CellIdentity
import X3Hal.Ril.RegistrationState
import X3Hal.Ril.CellInfoList
import X3Hal.Ril.CdmaSms
import X3Hal.Ril.SmsPdu
import X3Hal.Ril.CdmaInfo
import X3Hal.Ril.InitialAttach
import X3Hal.Stream.Pieces
import X3Hal.Gps.EpoConfig
import X3Hal.Bwc.CameraMode
import X3Hal.Memory.CyclicStore
import X3Hal.Gui.BackupRing
import X3Hal.Gui.SecureBuffer
import X3Hal.Gui.DisplayConfig
import X3Hal.Wifi.Requests
import X3Hal.Wifi.Teardown
import X3Hal.Wifi.Roaming
import X3Hal.Gui.ShadowSlots
import X3Hal.Wifi.RttReports
import X3Hal.Wifi.CachedScans
import X3Hal.Memory.Copies
import X3Hal.Gui.DownSample
import X3Hal.Gps.EpoArithmetic
import X3Hal.Ygps.JavaNumbers
import X3Hal.Ygps.NumericFields
import X3Hal.Wpa.SinkChannel
import X3Hal.Wpa.PacketFilter
import X3Hal.Lights.Indicator
import X3Hal.Memory.Words
import X3Hal.Ril.Startup
import X3Hal.Ccci.KernelConfig
import X3Hal.Ygps.ClientSocket
import X3Hal.Mdctrl.ChildLog
import X3Hal.Ygps.LocationRecords
import X3Hal.Ygps.Attribution
import X3Hal.Gps.GsvArithmetic
import X3Hal.Gui.WatchDog
import X3Hal.Gui.WatchDogCallbacks
import X3Hal.Gui.WatchDogPass
import X3Hal.Gui.FpsCounter
import X3Hal.Stream.Frames
import X3Hal.Bluetooth.HciPackets
import X3Hal.Wifi.EventLoop
import X3Hal.Wifi.DumpBuffers
import X3Hal.Memory.Fills
import X3Hal.Gui.DrawLine
import X3Hal.Remote.Parcels
import X3Hal.Remote.Calls
import X3Hal.Gui.RemoteService
import X3Hal.Bwc.Service
import X3Hal.Ril.Settings
import X3Hal.Program.Triples
import X3Hal.Program.Monitors
import X3Hal.Memory.Owned
import X3Hal.Gps.TestMode
import X3Hal.Gps.TestMemory
import X3Hal.Gps.TestTally
import X3Hal.Gps.TestReports
