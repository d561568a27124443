import RingContinuity.Limits
import RingContinuity.MacAddress
import RingContinuity.SystemError
import RingContinuity.Text.Utf8

/-!
# Errors

Every way in which reading a frame, matching it, configuring a station or using its link can fail.
An error is a cause; `Error.message` is the one place where causes are put into words.
-/

namespace RingContinuity

/-- The fields whose absence makes a frame too short. -/
inductive FrameField
  | destination | source | word16 | word32 | header | opcode | flags | payload | transactionId
  | firstTlv
  deriving DecidableEq

/-- The parts of a TLV that can run past the end of a frame. -/
inductive TlvPart
  | type | length | value
  deriving DecidableEq

/-- Why octets are not a well-formed frame. -/
inductive Malformed
  | macLength (got : Nat)
  | tooShort (length : Nat) (field : FrameField)
  | truncatedHeader
  | unknownOpcode (code : UInt8)
  | tlvOverrun (part : TlvPart) (offset : Nat)
  | unknownPortStatus (code : UInt8)
  | unknownInterfaceStatus (code : UInt8)
  | unknownRelayAction (code : UInt8)
  | unknownRingRequest (code : UInt8)
  | truncatedMaid
  | domainNameLength (length : Nat)
  | domainNameOverflow (length : Nat)
  | emptyAssociationName
  | truncatedCcm
  | mepIdRange (id : UInt16)
  | truncatedLtm
  | truncatedLtr
  | words (text : String)
  deriving DecidableEq

/-- Why a well-formed frame is not for this station. -/
inductive Mismatch
  | notCfm
  | notCcm (opcode : UInt8)
  | vlan (got ours : UInt16)
  | ownMepId (id : UInt16)
  | level (mep : UInt16) (got ours : UInt8)
  | domainName (got : Octets) (expected : String)
  | associationName (got : Octets) (expected : String)
  | lbmFromGroup (source : MacAddress)
  | lbmAddressee (destination ours : MacAddress)
  | notLbm
  | lbrAddressee (destination ours : MacAddress)
  | lbrSource (source expected : MacAddress)
  | notLbr
  | loopbackId (ours received : UInt32)
  | notLtm
  | ltrAddressee (destination ours : MacAddress)
  | notLtr
  | linktraceId (received expected : UInt32)
  | notRaps
  | words (text : String)
  deriving DecidableEq

/-- Why a station cannot be configured as asked. -/
inductive Misconfiguration
  | macText (text : String)
  | interval (millis : Nat)
  | level (got : UInt8)
  | vlan (got : UInt16)
  | mepId (got : UInt16)
  | domainNameLength (got : Nat)
  | namesTooLong
  | groupTarget (target : MacAddress)
  | vlanId (got : UInt16)
  | mepIdRequired
  | targetRequired
  | unusableAddress (address : MacAddress)
  | words (text : String)
  deriving DecidableEq

/-- Why an interface name cannot be resolved. -/
inductive LookupFailure
  | noSuchDevice | invalidName
  deriving DecidableEq

/-- Why the link cannot be opened or used. -/
inductive TransportFault
  | notPrivileged
  | unknownInterface (name : String) (cause : LookupFailure)
  | openSocket (cause : SystemError)
  | bind (index : Nat) (cause : SystemError)
  | allMulticast (cause : SystemError)
  | readFile (path : String) (cause : SystemError)
  | shortWrite (interface : String) (written length : Nat)
  | peerDropped
  | words (text : String)
  deriving DecidableEq

/-- The three concurrent activities of a running engine. -/
inductive Activity
  | receive | dispatch | scheduler
  deriving DecidableEq

/-- Why a running engine stopped by itself. -/
inductive TaskFault
  | crashed (activity : Activity)
  | words (text : String)
  deriving DecidableEq

/-- Everything that can go wrong. -/
inductive Error
  | io (cause : SystemError)
  | malformed (cause : Malformed)
  | mismatch (cause : Mismatch)
  | config (cause : Misconfiguration)
  | transport (cause : TransportFault)
  | frameTooLarge (length limit : Nat)
  | task (cause : TaskFault)
  deriving DecidableEq

def FrameField.message : FrameField → String
  | .destination => "destination MAC"
  | .source => "source MAC"
  | .word16 => "16-bit field"
  | .word32 => "32-bit field"
  | .header => "CFM header"
  | .opcode => "CFM opcode"
  | .flags => "CFM flags"
  | .payload => "CFM payload"
  | .transactionId => "transaction id"
  | .firstTlv => "first TLV"

instance : ToString FrameField := ⟨FrameField.message⟩

def TlvPart.message : TlvPart → String
  | .type => "type"
  | .length => "length"
  | .value => "value"

instance : ToString TlvPart := ⟨TlvPart.message⟩

def Malformed.message : Malformed → String
  | .macLength got => s!"MAC address needs 6 octets, got {got}"
  | .tooShort length field => s!"frame of {length} octets too short for {field}"
  | .truncatedHeader => "truncated CFM header"
  | .unknownOpcode code => s!"unknown CFM opcode {code}"
  | .tlvOverrun part offset => s!"TLV {part} runs past end of frame at offset {offset}"
  | .unknownPortStatus code => s!"unknown port status {code}"
  | .unknownInterfaceStatus code => s!"unknown interface status {code}"
  | .unknownRelayAction code => s!"unknown relay action {code}"
  | .unknownRingRequest code =>
    let bits := String.ofList (Numeral.padded 2 4 code.toNat)
    s!"unknown R-APS request 0b{bits}"
  | .truncatedMaid => "truncated MAID"
  | .domainNameLength length => s!"illegal MD name length {length}"
  | .domainNameOverflow length => s!"MD name length {length} overflows MAID"
  | .emptyAssociationName => "illegal short MA name length 0"
  | .truncatedCcm => "truncated CCM payload"
  | .mepIdRange id => s!"MEP ID {id} out of range"
  | .truncatedLtm => "truncated LTM payload"
  | .truncatedLtr => "truncated LTR payload"
  | .words text => text

def Mismatch.message : Mismatch → String
  | .notCfm => "not a CFM frame"
  | .notCcm opcode => s!"opcode {opcode} is not CCM"
  | .vlan got ours => s!"CCM received with vlan {got} (ours {ours})"
  | .ownMepId id => s!"CCM received with our MEP ID {id}"
  | .level mep got ours => s!"CCM from MEP {mep} at level {got} (ours {ours})"
  | .domainName got expected =>
    let name := Utf8.decodeLossy got
    s!"MD \"{name}\" (expected \"{expected}\")"
  | .associationName got expected =>
    let name := Utf8.decodeLossy got
    s!"MA \"{name}\" (expected \"{expected}\")"
  | .lbmFromGroup source => s!"LBM received from multicast address {source}"
  | .lbmAddressee destination ours => s!"LBM addressed to {destination} (ours {ours})"
  | .notLbm => "not an LBM"
  | .lbrAddressee destination ours => s!"LBR addressed to {destination} (ours {ours})"
  | .lbrSource source expected => s!"LBR from {source} (expected {expected})"
  | .notLbr => "not an LBR"
  | .loopbackId ours received => s!"TID mismatched: mine is {ours} while received {received}"
  | .notLtm => "not an LTM"
  | .ltrAddressee destination ours => s!"LTR addressed to {destination} (ours {ours})"
  | .notLtr => "not an LTR"
  | .linktraceId received expected => s!"LTR transaction id {received} (expected {expected})"
  | .notRaps => "not an R-APS PDU"
  | .words text => text

def Misconfiguration.message : Misconfiguration → String
  | .macText text => s!"invalid MAC address '{text}'"
  | .interval millis =>
    s!"unsupported CCM interval {millis} ms (use 100, 1000, 10000, 60000 or 600000)"
  | .level got => s!"MD level should be in range 0-{maxLevel}, got {got}"
  | .vlan got => s!"VLAN id should be in range 0-{maxVlanId}, got {got}"
  | .mepId got => s!"MEP ID should be in range 1-{maxMepId}, got {got}"
  | .domainNameLength got => s!"MD name must be 1-{maxDomainNameLength} octets, got {got}"
  | .namesTooLong =>
    let limit := maidLength - 4
    s!"MD and MA names must fit in {limit} octets together"
  | .groupTarget target => s!"loopback target {target} is a group address"
  | .vlanId got => s!"allowed VID range is 1-{maxVlanId}, got {got}"
  | .mepIdRequired => "a MEP ID is required to send CCMs"
  | .targetRequired => "a remote MAC is required to send LBMs"
  | .unusableAddress address => s!"{address} is not a usable local MAC address"
  | .words text => text

def LookupFailure.message : LookupFailure → String
  | .noSuchDevice => "ENODEV: No such device"
  | .invalidName => "EINVAL: Invalid argument"

instance : ToString LookupFailure := ⟨LookupFailure.message⟩

def TransportFault.message : TransportFault → String
  | .notPrivileged => "Execution requires superuser privilege"
  | .unknownInterface name cause => s!"Unknown interface {name}: {cause}"
  | .openSocket cause => s!"Failed to open raw socket: {cause}"
  | .bind index cause => s!"Failed to bind to ifindex {index}: {cause}"
  | .allMulticast cause => s!"Failed to enable all-multicast: {cause}"
  | .readFile path cause => s!"Failed to read {path}: {cause}"
  | .shortWrite interface written length =>
    s!"short write on {interface}: {written} of {length} octets"
  | .peerDropped => "peer endpoint dropped"
  | .words text => text

def Activity.message : Activity → String
  | .receive => "receive"
  | .dispatch => "dispatch"
  | .scheduler => "scheduler"

instance : ToString Activity := ⟨Activity.message⟩

def TaskFault.message : TaskFault → String
  | .crashed activity => s!"{activity} task"
  | .words text => text

namespace Error

def message : Error → String
  | .io cause => "IO error: " ++ cause.message
  | .malformed cause => "Malformed frame: " ++ cause.message
  | .mismatch cause => "Filter mismatch: " ++ cause.message
  | .config cause => "Configuration error: " ++ cause.message
  | .transport cause => "Transport error: " ++ cause.message
  | .frameTooLarge length limit => s!"Frame too large: {length} octets (max {limit})"
  | .task cause => "Task error: " ++ cause.message

/-- Malformed and mismatched frames are dropped in silence; every other error is worth a report. -/
def isDrop : Error → Bool
  | .malformed _ => true
  | .mismatch _ => true
  | _ => false

end Error
end RingContinuity
