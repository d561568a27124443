import RingContinuity.Ccm
import RingContinuity.CcmInterval
import RingContinuity.CfmHeader
import RingContinuity.CommandLine.Reader
import RingContinuity.CommandLine.Setting
import RingContinuity.CommandLine.Writer
import RingContinuity.Config
import RingContinuity.Config.Field
import RingContinuity.Config.Reader
import RingContinuity.Config.Writer
import RingContinuity.Daemon
import RingContinuity.Engine
import RingContinuity.Error
import RingContinuity.Frame
import RingContinuity.Frame.Fields
import RingContinuity.Frame.Overwrite
import RingContinuity.Json.Number
import RingContinuity.Json.Skip
import RingContinuity.Json.Text
import RingContinuity.Json.Value
import RingContinuity.Json.Writer
import RingContinuity.Limits
import RingContinuity.Link.Ethernet
import RingContinuity.Link.MemoryPair
import RingContinuity.Link.PacketSocket
import RingContinuity.Link.Tap
import RingContinuity.Linktrace
import RingContinuity.Loopback
import RingContinuity.MacAddress
import RingContinuity.MacAddress.Reader
import RingContinuity.Maid
import RingContinuity.Main
import RingContinuity.Node
import RingContinuity.Octets
import RingContinuity.Opcode
import RingContinuity.Outstanding
import RingContinuity.Padding
import RingContinuity.Proofs.AddressTexts
import RingContinuity.Proofs.CcmGrammar
import RingContinuity.Proofs.CcmReception
import RingContinuity.Proofs.CommandLines
import RingContinuity.Proofs.ConfigTexts
import RingContinuity.Proofs.EngineSteps
import RingContinuity.Proofs.FailedLinktrace
import RingContinuity.Proofs.FalseAlarms
import RingContinuity.Proofs.FieldOverwrites
import RingContinuity.Proofs.FirstSeen
import RingContinuity.Proofs.FrameAccessors
import RingContinuity.Proofs.FrameAppends
import RingContinuity.Proofs.FrameBuilding
import RingContinuity.Proofs.FrameLayout
import RingContinuity.Proofs.HarmlessOctets
import RingContinuity.Proofs.JsonTexts
import RingContinuity.Proofs.Line
import RingContinuity.Proofs.LinktraceExchange
import RingContinuity.Proofs.LinktraceFiling
import RingContinuity.Proofs.LoopbackAnswers
import RingContinuity.Proofs.LoopbackExchange
import RingContinuity.Proofs.LoopbackReplies
import RingContinuity.Proofs.MemoryChannels
import RingContinuity.Proofs.MepHistory
import RingContinuity.Proofs.MepTable
import RingContinuity.Proofs.NameFields
import RingContinuity.Proofs.Network
import RingContinuity.Proofs.NodeRun
import RingContinuity.Proofs.OutstandingRequests
import RingContinuity.Proofs.PaddedFrames
import RingContinuity.Proofs.ReceivePipeline
import RingContinuity.Proofs.ReceivedFrames
import RingContinuity.Proofs.RecordWalk
import RingContinuity.Proofs.Records
import RingContinuity.Proofs.RefusedFrames
import RingContinuity.Proofs.ReplyStorms
import RingContinuity.Proofs.RingMessages
import RingContinuity.Proofs.SignalFail
import RingContinuity.Proofs.SilentDrops
import RingContinuity.Proofs.SlotCadence
import RingContinuity.Proofs.SlotTiming
import RingContinuity.Proofs.Slots
import RingContinuity.Proofs.SocketReception
import RingContinuity.Proofs.TaggedFrames
import RingContinuity.Proofs.Transmissions
import RingContinuity.Proofs.TransparentChanges
import RingContinuity.Proofs.UncheckedMessages
import RingContinuity.Proofs.UncheckedReads
import RingContinuity.Proofs.UnicastReplies
import RingContinuity.Proofs.ValidConfigurations
import RingContinuity.RemoteMep
import RingContinuity.RingAps
import RingContinuity.Station
import RingContinuity.SystemError
import RingContinuity.Text.Blank
import RingContinuity.Text.Hex
import RingContinuity.Text.Numeral
import RingContinuity.Text.Utf8
import RingContinuity.Tlv
import RingContinuity.Version
import RingContinuity.VlanTag
import RingContinuity.Wire
