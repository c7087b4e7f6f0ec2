import Thermometer.Lib.Execution
import Thermometer.Lib.Wrapping
import Thermometer.Lib.Ring
import Thermometer.Lib.CyclicCode
import Thermometer.Firmware.HistoryBuffer
import Thermometer.Firmware.State
import Thermometer.Firmware.FrozenHistory
import Thermometer.Firmware.HistoryQueue
import Thermometer.Firmware.RealDisplay
import Thermometer.Firmware.DisplayTasks
import Thermometer.Firmware.SampleLog
import Thermometer.Firmware.SamplingClock
import Thermometer.Firmware.Hysteresis
import Thermometer.Lib.Memory
import Thermometer.Lib.Struct
import Thermometer.Wire
import Thermometer.Firmware.ApplicationAuth
import Thermometer.Firmware.Protocol
import Thermometer.Firmware.BleServer
import Thermometer.Firmware.RequestEffects
import Thermometer.Firmware.Authentication
import Thermometer.Firmware.Responses
import Thermometer.Firmware.ResponseBuffer
import Thermometer.Firmware.Lockout
import Thermometer.Firmware.RequestFrame
import Thermometer.Firmware.BondReset
import Thermometer.Firmware.RealTemperatureSensors
import Thermometer.Firmware.FakeTemperatureSensors
import Thermometer.Lib.Debounce
import Thermometer.Firmware.LocalControls
import Thermometer.Lib.OrderedMap
import Thermometer.Client.HistorySync
import Thermometer.Client.HistoryCompleteness
import Thermometer.Lib.Outcome
import Thermometer.Client.Protocol
import Thermometer.Client.DecoderErrors
import Thermometer.Client.ThermometerClient
import Thermometer.Link.RequestHandling
import Thermometer.Link.RoundTrip
import Thermometer.Link.HistoryForms
import Thermometer.Link.ChunkSize
import Thermometer.Link.DeviceSession
import Thermometer.Link.HistoryTransfer
import Thermometer.Link.PromptTransfer
import Thermometer.Link.SampleTimes
import Thermometer.Link.Handshake
import Thermometer.Client.Consistency
import Thermometer.Client.ConnectedSoundness
import Thermometer.Client.RegistrySoundness
import Thermometer.Client.CredentialIsolation
import Thermometer.Client.LinkLoss
import Thermometer.Client.RejectedCredential
import Thermometer.Client.OpenClients
import Thermometer.Client.OperationOutcomes
import Thermometer.Client.StateTransitions
import Thermometer.Client.ControllerTransitions
import Thermometer.Client.Operations
import Thermometer.Client.OperationLifecycle
import Thermometer.Client.OperationRuns
import Thermometer.Client.StopOperations
import Thermometer.Client.Shutdown
import Thermometer.Client.BleScheduler
import Thermometer.Lib.Decimal
import Thermometer.Client.Samples
import Thermometer.Client.MysqlAdapter
import Thermometer.Client.HistoryMerge
import Thermometer.Client.ReconcileIntervals
import Thermometer.Client.SampleWrites
import Thermometer.Client.HistoryBatch
import Thermometer.Client.Persistence
import Thermometer.Client.PersistenceQueue
import Thermometer.Client.WorkerSurvival
import Thermometer.Client.PollCurrent
import Thermometer.Client.DisplayCache
import Thermometer.Lib.Csv
import Thermometer.Client.MacAddress
import Thermometer.Client.CredentialRegistry
import Thermometer.Lib.Json
import Thermometer.SharedConfig.LoadAndValidate
import Thermometer.SharedConfig.ThermometerProtocol
import Thermometer.SharedConfig.GenerateHeader
import Thermometer.SharedConfig.LayoutStruct
import Thermometer.Lib.Texts
import Thermometer.SharedConfig.MacroNames
import Thermometer.SharedConfig.BufferSafety
import Thermometer.SharedConfig.SimulatedSensors
import Thermometer.Verification.Coverage
import Thermometer.Verification.RunOutputs
import Thermometer.Verification.RunLoop
import Thermometer.Verification.EditHistory
import Thermometer.Client.HistoryProgress
import Thermometer.Client.HistorySource
import Thermometer.Client.HistoryDelivery
import Thermometer.Frontend.AlertRoundTrip
import Thermometer.Frontend.NotifyOnce
import Thermometer.Frontend.PythonBleSource
import Thermometer.Frontend.PageRequests
import Thermometer.Frontend.ConfirmedDisplays
import Thermometer.Frontend.PlottedFrames
import Thermometer.Frontend.ChartRecorder
import Thermometer.Frontend.AlertDelivery
import Thermometer.Client.PairingReset
import Thermometer.Frontend.AlertEpisodes
import Thermometer.Lib.Numerals
import Thermometer.Verification.ManualRun
import Thermometer.Verification.ManualLimits
import Thermometer.Verification.DeferredEvidence
import Thermometer.Lib.JsonText
import Thermometer.Verification.Resume
import Thermometer.Client.SampleOrigin
import Thermometer.Frontend.SampleStore
import Thermometer.Frontend.ShownSamples
import Thermometer.Link.SampleSource
