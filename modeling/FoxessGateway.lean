import FoxessGateway.Library.Streaming
import FoxessGateway.Library.Splicing
import FoxessGateway.Library.ByteOrder
import FoxessGateway.Library.Effectful
import FoxessGateway.Library.Runs
import FoxessGateway.Library.Exchanges
import FoxessGateway.Library.Dialogues
import FoxessGateway.Library.ShiftRegister
import FoxessGateway.Library.Utf8
import FoxessGateway.Library.Patterns
import FoxessGateway.Library.Json.Value
import FoxessGateway.Library.Json.Reader
import FoxessGateway.Library.Json.RoundTrip
import FoxessGateway.Library.Json.Documents
import FoxessGateway.Library.Json.Decimals
import FoxessGateway.Library.Sha256
import FoxessGateway.Python
import FoxessGateway.IntLiteral
import FoxessGateway.PurePath
import FoxessGateway.Protocol.Frame
import FoxessGateway.Protocol.Extraction
import FoxessGateway.Protocol.NormalForm
import FoxessGateway.Protocol.ReadBoundary
import FoxessGateway.Protocol.RoundTrip
import FoxessGateway.Protocol.BurstErrors
import FoxessGateway.Protocol.Classify
import FoxessGateway.Protocol.Bootstrap
import FoxessGateway.Protocol.Telemetry
import FoxessGateway.Protocol.FaultCodes
import FoxessGateway.Firmware.Image
import FoxessGateway.Firmware.Capture
import FoxessGateway.Firmware.CaptureSteps
import FoxessGateway.Firmware.CaptureIntegrity
import FoxessGateway.Firmware.MetadataCodec
import FoxessGateway.Firmware.MetadataLayout
import FoxessGateway.Firmware.CapturePaths
import FoxessGateway.Firmware.Uploader
import FoxessGateway.Firmware.StopAndWait
import FoxessGateway.Firmware.FlashProgress
import FoxessGateway.Firmware.TransferAgreement
import FoxessGateway.Firmware.FirstChunk
import FoxessGateway.Firmware.SaveRetry
import FoxessGateway.Firmware.ChunkNumbers
import FoxessGateway.Firmware.Control
import FoxessGateway.Firmware.UpgradeTool
import FoxessGateway.Firmware.UpgradeRequest
import FoxessGateway.Firmware.CaptureManifest
import FoxessGateway.Firmware.UploadSession
import FoxessGateway.Firmware.CheckedUploads
import FoxessGateway.Mqtt.Messages
import FoxessGateway.Mqtt.Commands
import FoxessGateway.Mqtt.Publisher
import FoxessGateway.Mqtt.Broker
import FoxessGateway.Mqtt.Announced
import FoxessGateway.Mqtt.Connections
import FoxessGateway.Mqtt.Discovery
import FoxessGateway.Mqtt.Topics
import FoxessGateway.Mqtt.Retained
import FoxessGateway.Mqtt.StatePayload
import FoxessGateway.Mqtt.EntityConfig
import FoxessGateway.Mqtt.EntityTexts
import FoxessGateway.Server.LocalControl
import FoxessGateway.Server.ModbusEnvelope
import FoxessGateway.Server.Session
import FoxessGateway.Server.FirmwareGate
import FoxessGateway.Server.Handlers
import FoxessGateway.Server.Stages
import FoxessGateway.Server.Reachable
import FoxessGateway.Server.Handshake
import FoxessGateway.Server.Relay
import FoxessGateway.Server.Excision
import FoxessGateway.Server.UploadTraffic
import FoxessGateway.Server.UploadSimulation
import FoxessGateway.Server.Inertness
import FoxessGateway.Server.Withholding
import FoxessGateway.Server.Setpoints
import FoxessGateway.Server.SetpointInvariant
import FoxessGateway.Server.InForce
import FoxessGateway.Server.SetpointLedger
import FoxessGateway.Server.ControlView
import FoxessGateway.Server.FaultTracking
import FoxessGateway.Server.Injection
import FoxessGateway.Server.Daemon
import FoxessGateway.Server.Registry
import FoxessGateway.Server.Wiring
import FoxessGateway.Server.Routing
import FoxessGateway.Server.CommandMessages
import FoxessGateway.Server.RequestedSetpoints
import FoxessGateway.Server.Slider
import FoxessGateway.Server.RetainedSlider
import FoxessGateway.Server.InjectionGate
import FoxessGateway.Server.SettleTask
import FoxessGateway.Server.Freshness
import FoxessGateway.Server.Availability
import FoxessGateway.Server.Transparency
import FoxessGateway.Server.WriteOutcome
import FoxessGateway.Server.ReadAnswers
import FoxessGateway.Server.Readback
import FoxessGateway.Server.CloudRequests
import FoxessGateway.Server.TransactionIds
import FoxessGateway.Provisioning.ScanResponse
import FoxessGateway.Provisioning.Commands
import FoxessGateway.Provisioning.Session
import FoxessGateway.Provisioning.Conversation
import FoxessGateway.Provisioning.Completion
