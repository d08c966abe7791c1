import Waker.SlotMap
import Waker.WireGuardProfile

namespace Waker

/-!
# The userspace network stack

The stack belongs to another crate and is a parameter: its interface, its
sockets and the outside world are arbitrary types, and every poll of the
interface may change them in any way that `SmolStack.Lawful` allows.
-/

namespace Ipv4Addr

/-- The dotted quad of an address. -/
def display (address : Ipv4Addr) : String :=
  s!"{address.a}.{address.b}.{address.c}.{address.d}"

/-- The limited broadcast address. -/
def isBroadcast (address : Ipv4Addr) : Bool :=
  address = ⟨255, 255, 255, 255⟩

/-- The addresses of `224.0.0.0/4`. -/
def isMulticast (address : Ipv4Addr) : Bool :=
  224 ≤ address.a ∧ address.a < 240

/-- The address of no host. -/
def isUnspecified (address : Ipv4Addr) : Bool :=
  address = ⟨0, 0, 0, 0⟩

/-- An address of one host. -/
def isUnicast (address : Ipv4Addr) : Bool :=
  !(address.isBroadcast || address.isMulticast || address.isUnspecified)

end Ipv4Addr

/-- An IPv4 address and a port. -/
structure SocketAddrV4 where
  ip : Ipv4Addr
  port : UInt16
  deriving Repr, DecidableEq

namespace SocketAddrV4

/-- The text of a socket address. -/
def display (address : SocketAddrV4) : String :=
  s!"{address.ip.display}:{address.port}"

end SocketAddrV4

/-- An IP address of either family. -/
inductive IpAddress where
  | ipv4 (address : Ipv4Addr)
  | ipv6 (segments : Vector UInt16 8)
  deriving Repr, DecidableEq

/-- The ways in which building the interface panics. -/
inductive EnginePanic where
  | prefixTooLong
  | addressListFull
  | notUnicast
  | routeTableFull
  deriving Repr, DecidableEq

/-- What the crate provides for interfaces and sets of sockets. -/
class Smoltcp where
  IpCidr : Type
  Interface : Type
  SocketSet : Type → Type
  [socketSet : SlotMaps SocketSet]
  /-- `IpCidr::new`. -/
  ipCidr (address : Ipv4Addr) (prefixLen : Nat) : Except EnginePanic IpCidr
  /-- `Interface::new`. -/
  interface : Interface
  /-- `update_ip_addrs` pushing one address. -/
  pushIpAddr : Interface → IpCidr → Except EnginePanic Interface
  /-- `add_default_ipv4_route`. -/
  addDefaultIpv4Route : Interface → Ipv4Addr → Except EnginePanic Interface

attribute [reducible, instance] Smoltcp.socketSet

/--
What the crate promises: a prefix of at most 32 bits is accepted, an interface
without addresses takes one exactly if it is unicast or unspecified, and then
a default route.
-/
class LawfulSmoltcp [Smoltcp] : Prop where
  [socketSet : LawfulSlotMaps Smoltcp.SocketSet]
  ipCidr_ok
    (address : Ipv4Addr)
    {prefixLen : Nat}
    (fits : prefixLen ≤ 32) :
    ∃ cidr, Smoltcp.ipCidr address prefixLen = .ok cidr
  pushIpAddr_ok_iff
    {address : Ipv4Addr}
    {prefixLen : Nat}
    {cidr : Smoltcp.IpCidr}
    (accepted : Smoltcp.ipCidr address prefixLen = .ok cidr) :
    (∃ iface, Smoltcp.pushIpAddr Smoltcp.interface cidr = .ok iface) ↔
      (address.isUnicast || address.isUnspecified) = true
  addDefaultIpv4Route_ok
    {cidr : Smoltcp.IpCidr}
    {iface : Smoltcp.Interface}
    (pushed : Smoltcp.pushIpAddr Smoltcp.interface cidr = .ok iface)
    (gateway : Ipv4Addr) :
    ∃ routed, Smoltcp.addDefaultIpv4Route iface gateway = .ok routed

attribute [instance] LawfulSmoltcp.socketSet

/-- The states of a TCP connection. -/
inductive TcpState where
  | closed
  | listen
  | synSent
  | synReceived
  | established
  | finWait1
  | finWait2
  | closeWait
  | closing
  | lastAck
  | timeWait
  deriving Repr, DecidableEq

/-- The contents of an ICMPv4 packet that the engine tells apart. -/
inductive Icmpv4Repr where
  | echoRequest (ident seqNo : UInt16) (data : List UInt8)
  | echoReply (ident seqNo : UInt16) (data : List UInt8)
  | other
  deriving Repr, DecidableEq

/-- The kinds of sockets. -/
inductive SocketKind where
  | tcp
  | icmp
  deriving Repr, DecidableEq

/-- A socket of either kind. -/
inductive Socket (Tcp Icmp : Type) where
  | tcp (socket : Tcp)
  | icmp (socket : Icmp)

/-- The kind of a socket. -/
def Socket.kind
    {Tcp Icmp : Type} : Socket Tcp Icmp → SocketKind
  | .tcp _ => .tcp
  | .icmp _ => .icmp

variable [Smoltcp]

/-- The configuration of an interface. -/
abbrev Interface : Type :=
  Smoltcp.Interface

/-- A set of what is stored of sockets. -/
abbrev SocketSet : Type → Type :=
  Smoltcp.SocketSet

namespace SocketSet

variable {Tcp Icmp : Type}

/-- The TCP socket at a handle; there is none where `get_mut` panics. -/
def getTcp?
    (sockets : SocketSet (Socket Tcp Icmp))
    (handle : Nat) : Option Tcp :=
  match SlotMaps.get? sockets handle with
  | some (.tcp socket) => some socket
  | _ => none

/-- The ICMP socket at a handle; there is none where `get_mut` panics. -/
def getIcmp?
    (sockets : SocketSet (Socket Tcp Icmp))
    (handle : Nat) : Option Icmp :=
  match SlotMaps.get? sockets handle with
  | some (.icmp socket) => some socket
  | _ => none

end SocketSet

/-- The operations of the stack and of the clock used by the engine. -/
structure SmolStack (World Tcp Icmp : Type) where
  now : World → Instant
  sleep : Duration → World → World
  poll :
    Interface → World → SocketSet (Socket Tcp Icmp) →
    World × SocketSet (Socket Tcp Icmp)
  tcpNew : (rxBuffer txBuffer : Nat) → Tcp
  connect :
    Interface → World → Tcp → SocketAddrV4 → UInt16 →
    World × Except String Tcp
  state : Tcp → TcpState
  maySend : Tcp → Bool
  mayRecv : Tcp → Bool
  canRecv : Tcp → Bool
  txFree : Tcp → Nat
  sendSlice : Tcp → List UInt8 → Except String (Nat × Tcp)
  recv : Tcp → Except String (List UInt8 × Tcp)
  close : Tcp → Tcp
  abort : Tcp → Tcp
  icmpNew : (rxPackets rxBuffer txPackets txBuffer : Nat) → Icmp
  icmpBind : Icmp → UInt16 → Except String Icmp
  icmpSend : Icmp → List UInt8 → IpAddress → Except String Icmp
  icmpCanRecv : Icmp → Bool
  icmpRecv : Icmp → Except String ((List UInt8 × IpAddress) × Icmp)
  icmpEmit : Icmpv4Repr → List UInt8
  icmpNewChecked : List UInt8 → Bool
  icmpParse : List UInt8 → Option Icmpv4Repr

/--
What the engine relies on: polls keep the sockets in place, the transmit
buffer only fills by sending, and the transfers succeed when the socket has
said so.
-/
structure SmolStack.Lawful
    {World Tcp Icmp : Type}
    (stack : SmolStack World Tcp Icmp) : Prop where
  poll_kind :
    ∀ iface world sockets handle,
      (SlotMaps.get? (stack.poll iface world sockets).2 handle).map
          Socket.kind =
        (SlotMaps.get? sockets handle).map Socket.kind
  txFree_new : ∀ rxBuffer txBuffer,
    stack.txFree (stack.tcpNew rxBuffer txBuffer) = txBuffer
  txFree_connect : ∀ iface world socket remote port connected,
    (stack.connect iface world socket remote port).2 = .ok connected →
    stack.txFree socket ≤ stack.txFree connected
  txFree_poll : ∀ iface world sockets handle socket polled,
    sockets.getTcp? handle = some socket →
    (stack.poll iface world sockets).2.getTcp? handle = some polled →
    stack.txFree socket ≤ stack.txFree polled
  txFree_recv : ∀ socket bytes received,
    stack.recv socket = .ok (bytes, received) →
    stack.txFree socket ≤ stack.txFree received
  sendSlice_ok : ∀ socket data,
    stack.maySend socket →
    ∃ sent,
      stack.sendSlice socket data =
        .ok (min data.length (stack.txFree socket), sent)
  recv_ok : ∀ socket,
    stack.canRecv socket →
    ∃ bytes received, stack.recv socket = .ok (bytes, received)
  icmpRecv_ok : ∀ socket,
    stack.icmpCanRecv socket →
    ∃ packet received, stack.icmpRecv socket = .ok (packet, received)

/-- Polling does not turn time back, and a pause lasts as long as asked. -/
structure SmolStack.TimePasses
    {World Tcp Icmp : Type}
    (stack : SmolStack World Tcp Icmp) : Prop where
  poll : ∀ iface world sockets,
    stack.now world ≤ stack.now (stack.poll iface world sockets).1
  sleep : ∀ pause world,
    stack.now world + pause ≤ stack.now (stack.sleep pause world)

end Waker
