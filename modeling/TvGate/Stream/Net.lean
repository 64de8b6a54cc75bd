import TvGate.Runtime

/-!
# Addresses and listening sockets

`isMulticast`, `listenMulticast`, and the loops by which `NewStreamHub` and
`UpdateInterfaces` open one socket per address. What the operating system answers
(address resolution, interface lookup, the bind calls) is a `Net`, which the environment
chooses anew for every call into the package.
-/

namespace TvGate.Stream

/-- A `*net.UDPAddr`: the IP's bytes (empty for a nil IP) and the port. -/
structure UDPAddr where
  ip : List UInt8
  port : Nat
  deriving DecidableEq, Repr

/-- `ip.To4()`: the 4-byte form of an IPv4 address, plain or IPv4-mapped. -/
def to4 (ip : List UInt8) : Option (List UInt8) :=
  if ip.length = 4 then some ip
  else if ip.length = 16 ∧ ip.take 10 = List.replicate 10 0 ∧ (ip.drop 10).take 2 = [0xff, 0xff] then
    some (ip.drop 12)
  else none

/-- `isMulticast`: an IPv4 address with first octet in `[224, 239]`. -/
def isMulticast (ip : List UInt8) : Bool :=
  match to4 ip with
  | some (b :: _) => 224 ≤ b && b ≤ 239
  | _ => false

/-- What `IP.String()` prints, up to spelling: an IPv4 address in either form prints as its
four bytes, any other address as its bytes. The receive loop only compares two such
texts. -/
def ipText (ip : List UInt8) : List UInt8 := (to4 ip).getD ip

/-- The operating system's answers. Interfaces are named by their names. -/
structure Net where
  resolveUDPAddr : String → Except String UDPAddr
  interfaceByName : String → Except String String
  listenMulticastUDP : Option String → UDPAddr → Except String Unit
  listenUDP : UDPAddr → Except String Unit

/-- The errors the hub's constructors return. -/
inductive StreamError where
  /-- `至少一个 UDP 地址` -/
  | noAddress
  /-- `仅支持多播地址: %v` -/
  | notMulticast (addr : UDPAddr)
  /-- `默认接口监听失败: %w` -/
  | defaultListen (err : String)
  /-- `所有网卡监听失败且单播监听失败: %v (last=%v)` -/
  | unicastFallback (err : String) (last : Option String)
  /-- An error of `ResolveUDPAddr` or `InterfaceByName`, passed on as it is. -/
  | os (err : String)
  /-- `所有网卡监听失败: %v` -/
  | allInterfaces (last : Option StreamError)
  /-- `所有网卡更新失败: %v` -/
  | allUpdates (last : Option StreamError)

/-- The multicast attempts of `listenMulticast` over its interfaces: success at the first
that binds, else the last error. -/
def listenEach (net : Net) (addr : UDPAddr) (lastErr : Option String) :
    List String → Except (Option String) Unit
  | [] => .error lastErr
  | i :: rest =>
    match net.listenMulticastUDP (some i) addr with
    | .ok () => .ok ()
    | .error e => listenEach net addr (some e) rest

/-- `listenMulticast(addr, ifaces)`: join the group on the first of `ifaces` that binds (on
the default interface when there are none), falling back to a unicast bind. Addresses
that are not IPv4 multicast are refused before any bind. -/
def listenMulticast (net : Net) (addr : UDPAddr) (ifaces : List String) : Except StreamError Unit :=
  if !isMulticast addr.ip then .error (.notMulticast addr) else
  match ifaces with
  | [] =>
    match net.listenMulticastUDP none addr with
    | .ok () => .ok ()
    | .error _ =>
      match net.listenUDP addr with
      | .ok () => .ok ()
      | .error e => .error (.defaultListen e)
  | _ =>
    match listenEach net addr none ifaces with
    | .ok () => .ok ()
    | .error lastErr =>
      match net.listenUDP addr with
      | .ok () => .ok ()
      | .error e => .error (.unicastFallback e lastErr)

/-- The loop over interface names shared by `NewStreamHub` and `UpdateInterfaces`: look the
name up, and bind on it; stop at the first bind that succeeds. -/
def bindOnInterfaces (net : Net) (udpAddr : UDPAddr) :
    List String → Option StreamError → Bool × Option StreamError
  | [], lastErr => (false, lastErr)
  | name :: rest, lastErr =>
    match net.interfaceByName name with
    | .error e => bindOnInterfaces net udpAddr rest (some (.os e))
    | .ok iface =>
      match listenMulticast net udpAddr [iface] with
      | .ok () => (true, lastErr)
      | .error e => bindOnInterfaces net udpAddr rest (some e)

/-- The socket loop of `NewStreamHub(addrs, ifaces)`: the addresses a socket was opened
for, in order, with what each resolved to, and the last error. -/
def newStreamHubConns (net : Net) (ifaces : List String) :
    List String → Option StreamError → List (String × UDPAddr) × Option StreamError
  | [], lastErr => ([], lastErr)
  | addr :: rest, lastErr =>
    match net.resolveUDPAddr addr with
    | .error e => newStreamHubConns net ifaces rest (some (.os e))
    | .ok udpAddr =>
      if ifaces.isEmpty then
        match listenMulticast net udpAddr [] with
        | .error e => newStreamHubConns net ifaces rest (some e)
        | .ok () =>
          let r := newStreamHubConns net ifaces rest lastErr
          ((addr, udpAddr) :: r.1, r.2)
      else
        match bindOnInterfaces net udpAddr ifaces lastErr with
        | (true, lastErr) =>
          let r := newStreamHubConns net ifaces rest lastErr
          ((addr, udpAddr) :: r.1, r.2)
        | (false, lastErr) => newStreamHubConns net ifaces rest lastErr

/-- The socket loop of `UpdateInterfaces(ifaces)` over the hub's addresses: as in
`NewStreamHub`, but an address no interface binds is tried on the default interface. -/
def updateInterfacesConns (net : Net) (ifaces : List String) :
    List String → Option StreamError → List (String × UDPAddr) × Option StreamError
  | [], lastErr => ([], lastErr)
  | addr :: rest, lastErr =>
    match net.resolveUDPAddr addr with
    | .error e => updateInterfacesConns net ifaces rest (some (.os e))
    | .ok udpAddr =>
      match bindOnInterfaces net udpAddr ifaces lastErr with
      | (true, lastErr) =>
        let r := updateInterfacesConns net ifaces rest lastErr
        ((addr, udpAddr) :: r.1, r.2)
      | (false, lastErr) =>
        match listenMulticast net udpAddr [] with
        | .error e => updateInterfacesConns net ifaces rest (some e)
        | .ok () =>
          let r := updateInterfacesConns net ifaces rest lastErr
          ((addr, udpAddr) :: r.1, r.2)

/-! ## What a bind needs

`listenMulticast` refuses an address that is not IPv4 multicast before any bind, its unicast
fallbacks included; so each socket the two loops open is for one of the addresses they were
given, on a multicast group. -/

theorem listenMulticast_isMulticast {net : Net} {addr : UDPAddr} {ifaces : List String}
    (h : listenMulticast net addr ifaces = .ok ()) : isMulticast addr.ip = true := by
  unfold listenMulticast at h
  split at h
  · cases h
  · rename_i hm
    simpa using hm

theorem bindOnInterfaces_isMulticast {net : Net} {udpAddr : UDPAddr} :
    ∀ {names : List String} {lastErr lastErr' : Option StreamError},
      bindOnInterfaces net udpAddr names lastErr = (true, lastErr') → isMulticast udpAddr.ip = true
  | [], _, _, h => by cases h
  | _ :: _, _, _, h => by
    unfold bindOnInterfaces at h
    split at h
    · exact bindOnInterfaces_isMulticast h
    · split at h
      · exact listenMulticast_isMulticast ‹_›
      · exact bindOnInterfaces_isMulticast h

theorem newStreamHubConns_mem {net : Net} {ifaces : List String} :
    ∀ {addrs : List String} {lastErr : Option StreamError} {c : String × UDPAddr},
      c ∈ (newStreamHubConns net ifaces addrs lastErr).1 → c.1 ∈ addrs ∧ isMulticast c.2.ip = true
  | [], _, _, h => by cases h
  | _ :: _, _, _, h => by
    unfold newStreamHubConns at h
    split at h
    · exact (newStreamHubConns_mem h).imp_left (List.mem_cons_of_mem _)
    split at h
    · split at h
      · exact (newStreamHubConns_mem h).imp_left (List.mem_cons_of_mem _)
      · rcases List.mem_cons.mp h with rfl | h
        · exact ⟨List.mem_cons_self _ _, listenMulticast_isMulticast ‹_›⟩
        · exact (newStreamHubConns_mem h).imp_left (List.mem_cons_of_mem _)
    · split at h
      · rcases List.mem_cons.mp h with rfl | h
        · exact ⟨List.mem_cons_self _ _, bindOnInterfaces_isMulticast ‹_›⟩
        · exact (newStreamHubConns_mem h).imp_left (List.mem_cons_of_mem _)
      · exact (newStreamHubConns_mem h).imp_left (List.mem_cons_of_mem _)

theorem updateInterfacesConns_mem {net : Net} {ifaces : List String} :
    ∀ {addrs : List String} {lastErr : Option StreamError} {c : String × UDPAddr},
      c ∈ (updateInterfacesConns net ifaces addrs lastErr).1 → c.1 ∈ addrs ∧ isMulticast c.2.ip = true
  | [], _, _, h => by cases h
  | _ :: _, _, _, h => by
    unfold updateInterfacesConns at h
    split at h
    · exact (updateInterfacesConns_mem h).imp_left (List.mem_cons_of_mem _)
    split at h
    · rcases List.mem_cons.mp h with rfl | h
      · exact ⟨List.mem_cons_self _ _, bindOnInterfaces_isMulticast ‹_›⟩
      · exact (updateInterfacesConns_mem h).imp_left (List.mem_cons_of_mem _)
    · split at h
      · exact (updateInterfacesConns_mem h).imp_left (List.mem_cons_of_mem _)
      · rcases List.mem_cons.mp h with rfl | h
        · exact ⟨List.mem_cons_self _ _, listenMulticast_isMulticast ‹_›⟩
        · exact (updateInterfacesConns_mem h).imp_left (List.mem_cons_of_mem _)

end TvGate.Stream
