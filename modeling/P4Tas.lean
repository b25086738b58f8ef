import P4Tas.Lib.BigEndian
import P4Tas.Lib.Fallible
import P4Tas.Lib.HeaderCodec
import P4Tas.Lib.History
import P4Tas.Lib.IntervalChain
import P4Tas.Lib.KeyedList
import P4Tas.Lib.Machine
import P4Tas.Lib.MinimalCover
import P4Tas.Lib.Noninterference
import P4Tas.Lib.OnesComplement
import P4Tas.Lib.Patch
import P4Tas.Lib.TernaryCover
import P4Tas.Lib.Transition
import P4Tas.Rust
import P4Tas.Slice
import P4Tas.Request
import P4Tas.Controller.Types
import P4Tas.Controller.ConstDefinitions
import P4Tas.Controller.Afc
import P4Tas.Controller.RangeToTernary
import P4Tas.Controller.Configuration
import P4Tas.Controller.Prepare
import P4Tas.Controller.GuardBands
import P4Tas.Controller.Tas
import P4Tas.Controller.EvaluateTernaryEntries
import P4Tas.Controller.TasEntries
import P4Tas.Controller.RangeCover
import P4Tas.Controller.RangeMinimal
import P4Tas.Controller.OriginalEntries
import P4Tas.Controller.EvaluatorAgreement
import P4Tas.Controller.StreamGateSchedule
import P4Tas.Controller.GateSchedules
import P4Tas.Controller.GateAmbiguity
import P4Tas.Controller.DeltaAdjustment
import P4Tas.Controller.StreamRequests
import P4Tas.Controller.GuardedSchedule
import P4Tas.Controller.GuardClosing
import P4Tas.Controller.PacketGenerator
import P4Tas.Controller.Hyperperiods
import P4Tas.Controller.MatchKeys
import P4Tas.Controller.AdjacentSlices
import P4Tas.Controller.StartupBatch
import P4Tas.Controller.Startup
import P4Tas.Controller.Document
import P4Tas.Controller.PolicingParameters
import P4Tas.Controller.AfcFields
import P4Tas.DataPlane.Packet
import P4Tas.DataPlane.Table
import P4Tas.DataPlane.Register
import P4Tas.DataPlane.StreamIdentification
import P4Tas.DataPlane.DeltaAdjustment
import P4Tas.DataPlane.StreamGate
import P4Tas.DataPlane.FlowMeter
import P4Tas.DataPlane.Tsn
import P4Tas.DataPlane.HyperperiodPosition
import P4Tas.DataPlane.Blocking
import P4Tas.DataPlane.StreamMatching
import P4Tas.DataPlane.GateDecision
import P4Tas.DataPlane.Agreement
import P4Tas.DataPlane.Isolation
import P4Tas.DataPlane.Parser
import P4Tas.DataPlane.OctetPolicing
import P4Tas.DataPlane.Tas
import P4Tas.DataPlane.QueueOpening
import P4Tas.Ptp.Header
import P4Tas.Ptp.PopulatePtpTable
import P4Tas.Ptp.SyncTimes
import P4Tas.Ptp.TimestampUnwrap
import P4Tas.Ptp.DelayReq
import P4Tas.Ptp.Monitor
import P4Tas.Ptp.Bounds
import P4Tas.Ptp.EgressCapture
import P4Tas.Ptp.Provenance
import P4Tas.Ptp.DelayReqPacket
import P4Tas.Ptp.DelayPairing
import P4Tas.Ptp.SyncPairing
import P4Tas.Ptp.ClockWrap
import P4Tas.Ptp.Servo
import P4Tas.Ptp.ServoRuns
import P4Tas.Ptp.OffsetEstimate
import P4Tas.Ptp.ServoExact
import P4Tas.Ptp.Activation
import P4Tas.Ptp.ActivationTime
import P4Tas.Ptp.ActivationDeadline
import P4Tas.Measurement.Ingress
import P4Tas.Measurement.BuildTimeseries
import P4Tas.Measurement.SeriesAlignment
import P4Tas.Frame.Headers
import P4Tas.Frame.Parser
import P4Tas.Frame.Pipeline
import P4Tas.Frame.PtpFrame
import P4Tas.Frame.CorrectionField
import P4Tas.Frame.IngressTimestamp
import P4Tas.Frame.Transparency
import P4Tas.Frame.VlanTranslation
import P4Tas.DataPlane.PeriodRegisters
import P4Tas.Controller.PeriodReadings
import P4Tas.DataPlane.InstalledBatch
import P4Tas.DataPlane.ScheduledQueues
import P4Tas.DataPlane.Admission
import P4Tas.DataPlane.ScheduledStreams
import P4Tas.Controller.SwitchState
import P4Tas.DataPlane.Restart
import P4Tas.Frame.GeneratedPackets
import P4Tas.Frame.TaggedFrames
import P4Tas.Frame.StreamRuns
import P4Tas.Controller.OpeningReadings
import P4Tas.Controller.GateEvaluation
import P4Tas.DataPlane.GateIsolation
