import RingContinuity.Linktrace

/-!
# Outstanding requests

The transaction ids that a station draws, the requests that it has sent and the replies that it has
collected for them.
-/

namespace RingContinuity

/-- A source of transaction ids: an endless sequence, of which some were drawn. -/
structure IdSource where
  value : Nat → UInt32
  drawn : Nat := 0

namespace IdSource

def draw (s : IdSource) : UInt32 × IdSource := (s.value s.drawn, { s with drawn := s.drawn + 1 })

end IdSource

/-- A linktrace message that was sent and the replies to it so far, oldest first. -/
structure PendingLinktrace where
  id : UInt32
  target : MacAddress
  replies : List Linktrace.Reply
  deriving DecidableEq

/-- A count is shown as the number that it stands for. -/
instance coeCount : Coe UInt64 Nat := ⟨UInt64.toNat⟩

/-- What a station waits for. -/
structure Outstanding where
  loopback : Option UInt32 := none
  /-- How many loopback replies have matched, counted in 64 bits. -/
  loopbackReplies : UInt64 := 0
  linktrace : Option PendingLinktrace := none
  deriving DecidableEq

namespace Outstanding

/-- The loopback message `id` was sent; no reply to an earlier one matches any more. -/
def awaitLoopback (o : Outstanding) (id : UInt32) : Outstanding := { o with loopback := some id }

def countLoopbackReply (o : Outstanding) : Outstanding :=
  { o with loopbackReplies := o.loopbackReplies + 1 }

/-- The linktrace message `id` was sent; it replaces an earlier one and its replies. -/
def startLinktrace (o : Outstanding) (id : UInt32) (target : MacAddress) : Outstanding :=
  { o with linktrace := some ⟨id, target, []⟩ }

def linktraceId? (o : Outstanding) : Option UInt32 := o.linktrace.map (·.id)

/-- A reply to the linktrace message `id` matched. It is filed unless another message has replaced
that one in the meantime. -/
def recordLinktraceReply (o : Outstanding) (id : UInt32) (reply : Linktrace.Reply) : Outstanding :=
  { o with
    linktrace := o.linktrace.map fun p =>
      if p.id = id then { p with replies := p.replies ++ [reply] } else p }

end Outstanding
end RingContinuity
