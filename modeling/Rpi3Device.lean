import Rpi3Device.ByteMemory
import Rpi3Device.BoundedLoop
import Rpi3Device.CircularMemory
import Rpi3Device.TransitionSystem
import Rpi3Device.FutexMonitor
import Rpi3Device.TagLengthValue
import Rpi3Device.BumpAllocator
import Rpi3Device.RingBuffer
import Rpi3Device.LockPrograms
import Rpi3Device.ResourceLedger
import Rpi3Device.KeyedTable
import Rpi3Device.PlaneScan
import Rpi3Device.OnesComplement
import Rpi3Device.ChunkedInput
import Rpi3Device.BinaryFloat
import Rpi3Device.DecimalText
import Rpi3Device.LineFramer
import Rpi3Device.HeaderFraming
import Rpi3Device.HexText
import Rpi3Device.IntArithmetic
import Rpi3Device.Calendar
import Rpi3Device.Dhcp.Message
import Rpi3Device.Dhcp.MessageFormat
import Rpi3Device.Dhcp.Server
import Rpi3Device.Dhcp.ServerLeases
import Rpi3Device.Dhcp.ServerReplies
import Rpi3Device.Dhcp.Host
import Rpi3Device.Dhcp.Client
import Rpi3Device.Dhcp.ClientSteps
import Rpi3Device.Dhcp.ClientBackoff
import Rpi3Device.Dhcp.ClientExchange
import Rpi3Device.Dhcp.ClientInterface
import Rpi3Device.Dhcp.ClientRenewal
import Rpi3Device.Dhcp.ClientOptions
import Rpi3Device.Dhcp.Network
import Rpi3Device.Dhcp.RawUdp
import Rpi3Device.Dhcp.ReceivedBytes
import Rpi3Device.Dhcp.OptionPadding
import Rpi3Device.Dhcp.LeaseTimers
import Rpi3Device.Dhcp.ConfigureFailure
import Rpi3Device.Dhcp.LeaseObtained
import Rpi3Device.Audio.OutputStreams
import Rpi3Device.Audio.PresentationPosition
import Rpi3Device.Gatekeeper.FastVerify
import Rpi3Device.Camera.Definition
import Rpi3Device.Camera.Configuration
import Rpi3Device.Camera1.Converters
import Rpi3Device.Camera1.FakeDevice
import Rpi3Device.Camera1.FrameLayout
import Rpi3Device.Camera1.Parameters
import Rpi3Device.Camera1.ConvertedImages
import Rpi3Device.Camera1.PreviewControl
import Rpi3Device.Camera1.DrawBounds
import Rpi3Device.Camera1.PreviewWindow
import Rpi3Device.Camera1.RecordingBuffers
import Rpi3Device.Camera1.Thumbnail
import Rpi3Device.Camera1.CompressorChunks
import Rpi3Device.Camera2.ControlThread
import Rpi3Device.Camera2.ControlAutoFocus
import Rpi3Device.Camera2.ControlAeLock
import Rpi3Device.Camera2.RequestPipeline
import Rpi3Device.Camera2.RequestNotification
import Rpi3Device.Camera2.InFlightRing
import Rpi3Device.Camera2.BufferReturn
import Rpi3Device.Camera2.LockOrder
import Rpi3Device.Camera2.StreamTable
import Rpi3Device.Camera2.SizeTables
import Rpi3Device.Camera2.RequestDecoding
import Rpi3Device.Camera3.StreamTable
import Rpi3Device.Camera3.CaptureRequest
import Rpi3Device.Camera3.Pipeline
import Rpi3Device.Camera3.PipelineSteps
import Rpi3Device.Camera3.FrameOrder
import Rpi3Device.Camera3.Shutter
import Rpi3Device.Camera3.LockWait
import Rpi3Device.Camera3.JpegReservation
import Rpi3Device.Camera3.CameraClose
import Rpi3Device.Camera3.BufferOwnership
import Rpi3Device.Camera3.Process3A
import Rpi3Device.Camera3.RequestAtomicity
import Rpi3Device.Camera3.AutoFocus
import Rpi3Device.Camera3.JpegTargets
import Rpi3Device.Camera3.SensorCapture
import Rpi3Device.Camera3.SensorOutput
import Rpi3Device.Camera3.Nv21Layout
import Rpi3Device.Camera3.SceneReadout
import Rpi3Device.Gps.NmeaReader
import Rpi3Device.Gps.FixFreshness
import Rpi3Device.Gps.LineFraming
import Rpi3Device.Gps.SentenceFields
import Rpi3Device.Gps.DateTimeChecks
import Rpi3Device.Gps.ZoneOffset
import Rpi3Device.Bluetooth.HciEvents
import Rpi3Device.Bluetooth.Firmware
import Rpi3Device.Bluetooth.LocalName
import Rpi3Device.Bluetooth.PatchSearch
import Rpi3Device.Bluetooth.Address
import Rpi3Device.Bluetooth.HciPacketizer
import Rpi3Device.Vsoc.CircularQueue
import Rpi3Device.Vsoc.SignalTable
import Rpi3Device.Vsoc.QueueThreads
import Rpi3Device.Vsoc.WaitingLock
import Rpi3Device.Vsoc.SocketForward
import Rpi3Device.Vsoc.SocketForwardEnds
import Rpi3Device.Vsoc.SocketForwardPairs
import Rpi3Device.Vsoc.SocketForwardWaiting
import Rpi3Device.Vsoc.SocketForwardStream
import Rpi3Device.Vsoc.SocketForwardLocks
