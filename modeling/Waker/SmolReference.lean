import Waker.SmolStack

namespace Waker

/-!
# An interface of bounded capacity

The configuration of an interface with as many addresses and routes as it has
room for.  Together with a table of sockets it is what the engine relies on.
-/

/-- An interface address with its prefix length. -/
structure InterfaceAddress where
  address : Ipv4Addr
  prefixLen : Nat
  deriving Repr, DecidableEq

/-- Pair an address with a prefix of at most 32 bits. -/
def InterfaceAddress.new
    (address : Ipv4Addr)
    (prefixLen : Nat) : Except EnginePanic InterfaceAddress :=
  if prefixLen ≤ 32 then
    .ok ⟨address, prefixLen⟩
  else
    .error .prefixTooLong

/-- The fixed capacities of an interface. -/
structure InterfaceCapacity where
  addresses : Nat
  routes : Nat
  someAddress : 1 ≤ addresses
  someRoute : 1 ≤ routes

/-- The configuration of an interface. -/
structure BoundedInterface where
  ipAddrs : List InterfaceAddress
  defaultIpv4Routes : List Ipv4Addr
  deriving Repr, DecidableEq

namespace BoundedInterface

/--
Push an address, which fails when the list is full, or when an address is
neither unicast nor unspecified.
-/
def pushIpAddr
    (capacity : InterfaceCapacity)
    (iface : BoundedInterface)
    (cidr : InterfaceAddress) : Except EnginePanic BoundedInterface :=
  if iface.ipAddrs.length < capacity.addresses then
    let ipAddrs := iface.ipAddrs ++ [cidr]
    if ipAddrs.all fun cidr =>
        cidr.address.isUnicast || cidr.address.isUnspecified then
      .ok { iface with ipAddrs := ipAddrs }
    else
      .error .notUnicast
  else
    .error .addressListFull

/-- Add a default route, which fails when the table is full. -/
def addDefaultIpv4Route
    (capacity : InterfaceCapacity)
    (iface : BoundedInterface)
    (gateway : Ipv4Addr) : Except EnginePanic BoundedInterface :=
  if iface.defaultIpv4Routes.length < capacity.routes then
    .ok { iface with
      defaultIpv4Routes := iface.defaultIpv4Routes ++ [gateway] }
  else
    .error .routeTableFull

/-- An interface without addresses takes one that names a single host. -/
theorem exists_pushIpAddr_iff
    {capacity : InterfaceCapacity}
    {address : Ipv4Addr}
    {prefixLen : Nat}
    {cidr : InterfaceAddress}
    (accepted : InterfaceAddress.new address prefixLen = .ok cidr) :
    (∃ iface, pushIpAddr capacity ⟨[], []⟩ cidr = .ok iface) ↔
      (address.isUnicast || address.isUnspecified) = true := by
  have room : 0 < capacity.addresses := capacity.someAddress
  have same : cidr.address = address := by
    unfold InterfaceAddress.new at accepted
    split at accepted <;> cases accepted
    rfl
  subst same
  cases accepts :
      (cidr.address.isUnicast || cidr.address.isUnspecified) <;>
    simp [pushIpAddr, room, accepts]

/-- An interface with its first address takes a default route. -/
theorem exists_addDefaultIpv4Route
    {capacity : InterfaceCapacity}
    {cidr : InterfaceAddress}
    {iface : BoundedInterface}
    (pushed : pushIpAddr capacity ⟨[], []⟩ cidr = .ok iface)
    (gateway : Ipv4Addr) :
    ∃ routed, addDefaultIpv4Route capacity iface gateway = .ok routed := by
  have room : 0 < capacity.routes := capacity.someRoute
  have none : iface.defaultIpv4Routes = [] := by
    simp only [pushIpAddr] at pushed
    split at pushed
    · split at pushed <;> cases pushed
      rfl
    · cases pushed
  exact ⟨{ iface with defaultIpv4Routes := [gateway] }, by
    simp [addDefaultIpv4Route, none, room]⟩

end BoundedInterface

namespace Smoltcp

/-- An interface of some capacity and a table of sockets. -/
@[reducible] def bounded (capacity : InterfaceCapacity) : Smoltcp where
  IpCidr := InterfaceAddress
  Interface := BoundedInterface
  SocketSet := SlotTable
  ipCidr := InterfaceAddress.new
  interface := ⟨[], []⟩
  pushIpAddr := BoundedInterface.pushIpAddr capacity
  addDefaultIpv4Route := BoundedInterface.addDefaultIpv4Route capacity

/-- Room for one address and one route is all that is needed. -/
theorem lawful_bounded (capacity : InterfaceCapacity) :
    @LawfulSmoltcp (bounded capacity) :=
  @LawfulSmoltcp.mk (bounded capacity)
    (inferInstanceAs (LawfulSlotMaps SlotTable))
    (fun address prefixLen fits => ⟨⟨address, prefixLen⟩, if_pos fits⟩)
    BoundedInterface.exists_pushIpAddr_iff
    BoundedInterface.exists_addDefaultIpv4Route

end Smoltcp

/-- An interface with room for two addresses and two routes. -/
instance : Smoltcp :=
  .bounded ⟨2, 2, by decide, by decide⟩

instance : LawfulSmoltcp :=
  Smoltcp.lawful_bounded ⟨2, 2, by decide, by decide⟩

end Waker
