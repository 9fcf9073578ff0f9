import PmacFabric.Forwarding.Policy

/-!
# What hosts say to each other

Between hosts there are three kinds of frames: data, answers and questions. A **letter** is what such
a frame says, apart from the hardware addresses under which it travels; `Letter.frame` writes it
under given ones. Switches rewrite addresses only, so `inbound_frame` and `outbound_frame` say that a
letter stays the same letter on its whole way.
-/

namespace PmacFabric

inductive Letter where
  | data (dst : Ipv4Address) (bytes : Bytes)
  /-- The answer to a question of `dst`. -/
  | answer (dst : Ipv4Address)
  /-- The question for the hardware address of `dst`. -/
  | question (dst : Ipv4Address)
deriving DecidableEq, Repr

namespace Letter

/-- The IP address that a letter is for. -/
def dst : Letter → Ipv4Address
  | .data dst _ => dst
  | .answer dst => dst
  | .question dst => dst

/-- A letter of the host with address `srcIp`, under two hardware addresses. -/
def payload (letter : Letter) (src : MacAddress) (srcIp : Ipv4Address) (dst : MacAddress) : Payload :=
  match letter with
  | .data dstIp bytes => .ipv4 ⟨srcIp, dstIp, bytes⟩
  | .answer dstIp => .arp (.reply src srcIp dst dstIp)
  | .question dstIp => .arp (.request src srcIp dstIp)

def frame (letter : Letter) (src : MacAddress) (srcIp : Ipv4Address) (dst : MacAddress) : Frame :=
  ⟨src, dst, letter.payload src srcIp dst⟩

variable (letter : Letter) (src : MacAddress) (srcIp : Ipv4Address) (dst : MacAddress)

theorem dst_frame : (letter.frame src srcIp dst).dst = dst := rfl

theorem src_frame : (letter.frame src srcIp dst).src = src := rfl

/-- What an edge switch reads from a letter. -/
theorem ips_frame : (letter.frame src srcIp dst).headers.ips = some (srcIp, letter.dst) := by
  cases letter <;> rfl

/-- A letter that enters the fabric goes on under PMACs. -/
theorem inbound_frame (srcPmac : Pmac) (dst' : MacAddress) :
    Edge.inbound (letter.frame src srcIp dst) srcPmac dst' = letter.frame srcPmac.mac srcIp dst' := by
  cases letter <;> rfl

/-- A letter that leaves the fabric goes on under the address of its host. -/
theorem outbound_frame (amac : MacAddress) :
    Edge.outbound (letter.frame src srcIp dst) amac = letter.frame src srcIp amac := by
  cases letter <;> rfl

end Letter

end PmacFabric
