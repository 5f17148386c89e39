import NetanaDriver.StepRuns
import NetanaDriver.ToggleHandshake
import NetanaDriver.DriverState
import NetanaDriver.DsrThread
import NetanaDriver.IsrDsrBuffers
import NetanaDriver.SnapshotOrder
import NetanaDriver.CachedFlags
import NetanaDriver.CaptureRing
import NetanaDriver.CaptureIndications
import NetanaDriver.CaptureFirmware
import NetanaDriver.CaptureRun
import NetanaDriver.DeviceRemoval
import NetanaDriver.NotifySessions
import NetanaDriver.NotifyCapture
import NetanaDriver.NotifyDelivery
import NetanaDriver.FirmwareCrc
import NetanaDriver.DownloadRun
import NetanaDriver.CaptureFiles
import NetanaDriver.GreedyPacking
import NetanaDriver.RotatingSlots
import NetanaDriver.CaptureFileRun
import NetanaDriver.CallTimeout
import NetanaDriver.DsrStop
import NetanaDriver.FormattedText
import NetanaDriver.TextProtocol
import NetanaDriver.CaptureToolkit
import NetanaDriver.CardRegistry
import NetanaDriver.CardRegistryRun
import NetanaDriver.DeviceInfoFile
import NetanaDriver.HandleTable
import NetanaDriver.ToolkitHandles
import NetanaDriver.ToolkitHandlesRun
import NetanaDriver.DeviceSession
import NetanaDriver.EventThread
import NetanaDriver.SysfsResources
import NetanaDriver.SysfsRegistration
import NetanaDriver.HandshakeThreads
import NetanaDriver.PhyAccess
import NetanaDriver.PhyAccessRun
import NetanaDriver.PhyAccessCalls
import NetanaDriver.CallNumbers
import NetanaDriver.Mailbox
import NetanaDriver.SendMailboxRun
import NetanaDriver.MailboxRun
import NetanaDriver.MailboxCalls
import NetanaDriver.BitStateWait
import NetanaDriver.MillisecCounter
import NetanaDriver.MailboxAccess
import NetanaDriver.MailboxBounds
import NetanaDriver.DownloadErrors
import NetanaDriver.CaptureFileHandles
import NetanaDriver.CaptureSignals
import NetanaDriver.PacketTransfer
import NetanaDriver.CaptureFileErrors
import NetanaDriver.ByteMemory
import NetanaDriver.DeviceAdd
import NetanaDriver.DpmFilters
import NetanaDriver.GpioConfig
import NetanaDriver.ByteScans
import NetanaDriver.CopyOut
import NetanaDriver.DeviceNames
import NetanaDriver.DmaParameters
import NetanaDriver.IdentFileName
import NetanaDriver.IdentRecord
import NetanaDriver.CaptureFileNames
import NetanaDriver.TaskMaps
import NetanaDriver.MemoryCopy
import NetanaDriver.PrivMutex
import NetanaDriver.InevitableRuns
import NetanaDriver.DataPass
import NetanaDriver.FilterNodes
import NetanaDriver.DeviceAddFlags
import NetanaDriver.CaptureFileInfo
import NetanaDriver.TailQueue
import NetanaDriver.CardQueue
import NetanaDriver.ProcessFilters
import NetanaDriver.AttributeCalls
import NetanaDriver.AttributeCallsRun
import NetanaDriver.ResourceLedger
import NetanaDriver.ModuleLife
import NetanaDriver.ModuleLifeEnds
import NetanaDriver.ModuleLifeRun
import NetanaDriver.FirmwareFiles
import NetanaDriver.FirmwareFilesRun
import NetanaDriver.Ownership
import NetanaDriver.OpenFiles
import NetanaDriver.LibHandles
import NetanaDriver.LibHandlesInv
import NetanaDriver.LibHandlesSteps
import NetanaDriver.LibHandlesRun
