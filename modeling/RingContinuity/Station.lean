import RingContinuity.Loopback
import RingContinuity.Outstanding
import RingContinuity.RemoteMep
import RingContinuity.RingAps

/-!
# Stations

A station answers the frames that it receives: it follows the continuity checks of others, replies
to loopback and linktrace messages and matches the replies to its own. What it offers to its link
is part of the answer, and whether the link takes it never changes the station.
-/

namespace RingContinuity

/-- A station: what it was told, its own address and what its activities share. -/
structure Station where
  config : Config
  own : MacAddress
  meps : MepTable
  outstanding : Outstanding := {}
  ids : IdSource

/-- What a frame was taken for. -/
inductive Dispatched
  | ccm (accepted : CcmAccepted)
  | loopbackReplied (id : UInt32)
  | loopbackMatched (id : UInt32)
  | linktraceReplied (id : UInt32)
  | linktraceMatched (id : UInt32) (reply : Linktrace.Reply)
  | raps (message : RingAps)
  /-- A reply that nothing waits for, or a linktrace message for another station. -/
  | ignored
  deriving DecidableEq

/-- What a station does about a frame. -/
inductive Reaction
  | refused (cause : Error)
  /-- The frame was dealt with, and nothing is sent. -/
  | done (what : Dispatched)
  | reply (frame : Frame) (what : Dispatched)

namespace Reaction

def offered? : Reaction → Option Frame
  | reply frame _ => some frame
  | _ => none

/-- The outcome, given what the link says to the frame that is offered to it. -/
def outcome (r : Reaction) (verdict : Except Error Unit) : Except Error Dispatched :=
  match r with
  | refused cause => .error cause
  | done what => .ok what
  | reply _ what => verdict.map fun _ => what

end Reaction

namespace Station

def create (config : Config) (own : MacAddress) (ids : IdSource) : Station :=
  { config, own, ids, meps := .empty config.interval }

def dispatchCcm (s : Station) (f : Frame) (now : Nat) : Station × Reaction :=
  let (meps, result) := s.meps.apply f s.config now
  ({ s with meps }, match result with
    | .ok accepted => .done (.ccm accepted)
    | .error cause => .refused cause)

/-- A loopback message is turned into the reply to it. -/
def dispatchLbm (s : Station) (f : Frame) : Reaction :=
  match f.transactionId with
  | .error cause => .refused cause
  | .ok id => match f.edited (Loopback.answer s.own) with
    | .error cause => .refused cause
    | .ok reply => .reply reply (.loopbackReplied id)

/-- A loopback reply is counted if it answers the last loopback message. -/
def dispatchLbr (s : Station) (f : Frame) : Station × Reaction :=
  match s.outstanding.loopback with
  | none => (s, .done .ignored)
  | some id => match Loopback.matchReply f id s.own s.config.remoteMac with
    | .error cause => (s, .refused cause)
    | .ok () =>
      ({ s with outstanding := s.outstanding.countLoopbackReply }, .done (.loopbackMatched id))

/-- A linktrace message is answered by its target while it has hops left. -/
def dispatchLtm (s : Station) (f : Frame) : Reaction :=
  match Linktrace.parseRequest f with
  | .error cause => .refused cause
  | .ok r =>
    if r.target ≠ s.own ∨ r.ttl = 0 then .done .ignored
    else match Linktrace.buildReply r s.own f.vlan? .hit with
      | .error cause => .refused cause
      | .ok reply => .reply reply (.linktraceReplied r.id)

/-- A frame that is a reply to the linktrace message `id` is filed under it. -/
def recordLtr (s : Station) (f : Frame) (id : UInt32) : Station × Reaction :=
  match Linktrace.matchReply f s.own id with
  | .error cause => (s, .refused cause)
  | .ok reply =>
    ({ s with outstanding := s.outstanding.recordLinktraceReply id reply },
      .done (.linktraceMatched id reply))

/-- A linktrace reply is filed if it answers the last linktrace message. The id of that message is
read first and the reply recorded afterwards, so that a new message may come in between. -/
def dispatchLtr (s : Station) (f : Frame) : Station × Reaction :=
  match s.outstanding.linktraceId? with
  | none => (s, .done .ignored)
  | some id => s.recordLtr f id

def dispatchRaps (f : Frame) : Reaction :=
  match RingAps.parse f with
  | .error cause => .refused cause
  | .ok message => .done (.raps message)

def dispatch (s : Station) (f : Frame) (now : Nat) : Station × Reaction :=
  if !f.isCfm then (s, .refused (.mismatch .notCfm))
  else match f.opcode with
    | .error cause => (s, .refused cause)
    | .ok .ccm => s.dispatchCcm f now
    | .ok .lbm => (s, s.dispatchLbm f)
    | .ok .lbr => s.dispatchLbr f
    | .ok .ltm => (s, s.dispatchLtm f)
    | .ok .ltr => s.dispatchLtr f
    | .ok .raps => (s, dispatchRaps f)

def drawId (s : Station) : UInt32 × Station := (s.ids.draw.1, { s with ids := s.ids.draw.2 })

/-- Asks for the path to a target. The message waits for replies as soon as it is built, whether or
not the link takes it. -/
def linktrace (s : Station) (target : MacAddress) (ttl : Option UInt8) :
    Station × Except Error (UInt32 × Frame) :=
  let (id, s) := s.drawId
  match Linktrace.buildRequest s.config s.own target id (ttl.getD Linktrace.defaultTtl) with
  | .error cause => (s, .error cause)
  | .ok frame =>
    ({ s with outstanding := s.outstanding.startLinktrace id target }, .ok (id, frame))

end Station
end RingContinuity
