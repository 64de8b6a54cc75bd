import TvGate.Stream.Rtp
import TvGate.Stream.RingBuffer
import TvGate.Stream.Net

/-!
# Hubs, their clients, and the registry

The data of `stream/udp_rtp.go`: a `StreamHub` per channel, its clients, the process-wide
`MultiChannelHub`, and the goroutines that run against them. A `World` holds all of it,
with the heap objects the hubs share (client channels, sockets) in tables of their own
so that one channel can sit in several places at once, as Go pointers do.

Each function here is one critical section of the source: what a goroutine does between
taking `h.Mu` and releasing it, which no other goroutine that takes the lock can
interleave with. A section that panics returns the panic; `System` turns the sections
into the steps of the goroutines.

Not modelled: the logger, `BufPool` (scratch buffers whose contents are copied out before
use), `stateCond` (it only wakes `WaitForPlaying`'s wait loop, see `StreamHub.waitForPlaying`),
and the `RingBuffer`'s mutex.
-/

namespace TvGate.Stream

open Go

/-- A `[]byte` as the hub passes it around: `nil`, or an allocation. `alloc` numbers the
allocation, so that two frames with the same bytes are still told apart. -/
inductive Frame where
  | nil
  | mk (alloc : Nat) (bytes : List UInt8)
  deriving DecidableEq, Repr, Inhabited

/-- `len(f)`. -/
def Frame.len : Frame → Nat
  | .nil => 0
  | .mk _ b => b.length

/-- The bytes of a frame. -/
def Frame.bytes : Frame → List UInt8
  | .nil => []
  | .mk _ b => b

/-- Modelled from the spec: `StateStopped`, declared outside `stream/udp_rtp.go`; the
comment on the `state` field gives it as 0. -/
def stateStopped : Int := 0

/-- Modelled from the spec: `StatePlaying`; 1 by the comment on the `state` field. -/
def statePlaying : Int := 1

/-- Modelled from the spec: `StateError`; 2 by the comment on the `state` field. -/
def stateError : Int := 2

/-- `hubClient`: a client's queue, by its index among the world's channels, and its
connection id. -/
structure HubClient where
  ch : Nat
  connID : String
  deriving DecidableEq, Repr

/-- `StreamHub`. `closed` says that the `Closed` channel has been closed; `mu` that `Mu` is
held by a goroutine between two of its steps (only `broadcast`'s resync does that). -/
structure StreamHub where
  clients : GoMap String HubClient
  addCh : List HubClient
  removeCh : List String
  udpConns : List Nat
  closed : Bool
  lastFrame : Frame
  cacheBuffer : Option (RingBuffer Frame)
  addrList : List String
  packetCount : UInt64
  dropCount : UInt64
  state : Int
  /-- `OnEmpty`: `GetOrCreateHub`'s callback, by the interfaces it captured. -/
  onEmpty : Option (List String)
  mu : Bool

instance : Inhabited StreamHub :=
  ⟨⟨none, [], [], [], false, .nil, none, [], 0, 0, 0, none, false⟩⟩

/-- The capacity of `AddCh` and `RemoveCh`. -/
def hubChanCap : Nat := 1024

/-- The capacity of a client's queue, made by `ServeHTTP`. -/
def clientChanCap : Nat := 4096

/-- The capacity of a new hub's ring. -/
def cacheFrames : Int := 8192

/-- `readLoop`'s datagram buffer: `BufPool` hands out `64*1024` bytes. -/
def readBufSize : Nat := 64 * 1024

/-- `maxBufferSize` of `ServeHTTP`: flush once this many bytes are written. -/
def maxBufferSize : Nat := 128 * 1024

/-- The receive loop's check under `h.Mu.RLock()`: the hub is stopped or its ring is gone. -/
def StreamHub.stopped (h : StreamHub) : Bool := h.state == stateStopped || h.cacheBuffer.isNone

/-- `WaitForPlaying` up to its wait loop, which `stateCond` would drive: `some b` when it
returns `b` at once, `none` when it enters the loop. -/
def StreamHub.waitForPlaying (h : StreamHub) : Option Bool :=
  if h.closed || h.state == stateError then some false
  else if h.state == statePlaying then some true
  else if h.state == stateStopped then none
  else some false

/-- `h.CacheBuffer` dereferenced: a method call on a nil `*RingBuffer` panics. -/
def StreamHub.ring (h : StreamHub) : Go (RingBuffer Frame) :=
  match h.cacheBuffer with
  | some r => pure r
  | none => .error .nilDereference

/-- The ring `TransferClientsTo` fills: `newHub.CacheBuffer`, or
`NewRingBuffer(h.CacheBuffer.size)` when it is nil. -/
def StreamHub.ringOr (dst src : StreamHub) : Go (RingBuffer Frame) :=
  match dst.cacheBuffer with
  | some r => pure r
  | none => do newRingBuffer (← src.ring).size

theorem StreamHub.noCloseOfClosed_ring (h : StreamHub) : NoCloseOfClosed h.ring := by
  unfold ring; split <;> exact nofun

theorem StreamHub.noCloseOfClosed_ringOr (dst src : StreamHub) : NoCloseOfClosed (dst.ringOr src) := by
  unfold ringOr
  split
  · exact noCloseOfClosed_ok _
  · exact src.noCloseOfClosed_ring.bind fun _ _ => noCloseOfClosed_newRingBuffer _

/-! ## The registry -/

/-- The string `HubKey` hashes: the address, then `@` and the interfaces joined by `,`. -/
def hubKeyString (udpAddr : String) (ifaces : List String) : String :=
  if ifaces.isEmpty then udpAddr else udpAddr ++ "@" ++ String.intercalate "," ifaces

/-- `(*MultiChannelHub).HubKey`. `md5Hex` is `md5.Sum` followed by `hex.EncodeToString`,
from Go's standard library. -/
def hubKey (md5Hex : String → String) (udpAddr : String) (ifaces : List String) : String :=
  md5Hex (hubKeyString udpAddr ifaces)

/-- `MultiChannelHub.Hubs`, a map keyed by the digests `HubKey` returns, kept as the writes
made to it, newest first: `(key, some hub)` for `m.Hubs[key] = hub` and `(key, none)` for
`delete(m.Hubs, key)`. A read sees the newest write to its digest. Each write keeps the
string its digest was computed from; two strings name the same entry exactly when their
digests are equal (`Registry.same_iff`). -/
structure Registry where
  writes : List (String × Option Nat)

namespace Registry

variable (md5Hex : String → String)

/-- Whether the keys computed from `a` and `b` are equal. -/
def same (a b : String) : Bool := decide (a = b ∨ md5Hex a = md5Hex b)

theorem same_iff (a b : String) : same md5Hex a b = true ↔ md5Hex a = md5Hex b := by
  simp only [same, decide_eq_true_eq]
  exact ⟨fun h => h.elim (congrArg md5Hex) id, Or.inr⟩

/-- `m.Hubs[key]`: the newest write to `key`'s digest. -/
def lookup (r : Registry) (k : String) : Option Nat :=
  (r.writes.find? fun e => same md5Hex e.1 k).bind Prod.snd

/-- `m.Hubs[key] = hub`. -/
def insert (r : Registry) (k : String) (hub : Nat) : Registry := ⟨(k, some hub) :: r.writes⟩

/-- `delete(m.Hubs, key)`. -/
def erase (r : Registry) (k : String) : Registry := ⟨(k, none) :: r.writes⟩

end Registry

/-! ## Goroutines -/

/-- Where `run`, a hub's control loop, is. -/
inductive RunPc where
  /-- waiting in its `select` -/
  | select
  /-- the table is empty: about to call `h.Close()` -/
  | reap
  /-- about to call `h.OnEmpty(h)` -/
  | onEmpty
  /-- `RemoveHubEx` took `hub` out of the registry: about to call `hub.Close()` -/
  | closeRemoved (hub : Nat)
  deriving DecidableEq, Repr

/-- Where a receive loop is. `dst` is the text of the group address it filters on. -/
inductive ReadPc where
  /-- resolving its address -/
  | start
  /-- at the top of the loop: checking `h.Closed` -/
  | loop (dst : List UInt8)
  /-- in `ReadFrom` -/
  | read (dst : List UInt8)
  /-- with a datagram copied out: the check under `RLock` -/
  | check (dst : List UInt8) (data : Frame)
  /-- in `broadcast`, about to take `h.Mu` -/
  | broadcast (dst : List UInt8) (data : Frame)
  /-- in `broadcast`'s fan-out, with the clients of its copy still to serve -/
  | fanout (dst : List UInt8) (data : Frame) (clients : List HubClient)
  /-- the send to `c` found its queue full: about to take `h.Mu` -/
  | dropped (dst : List UInt8) (data : Frame) (rest : List HubClient) (c : HubClient)
  /-- every 100th drop, holding `h.Mu`: about to drain one frame of `c`'s queue -/
  | drain (dst : List UInt8) (data : Frame) (rest : List HubClient) (c : HubClient)
  /-- holding `h.Mu`: about to re-send `LastFrame` to `c` -/
  | resend (dst : List UInt8) (data : Frame) (rest : List HubClient) (c : HubClient)
  deriving DecidableEq, Repr

/-- Where the priming goroutine of `sendInitial` is. -/
inductive PrimePc where
  /-- about to take `h.Mu` and snapshot the ring -/
  | snapshot
  /-- at the top of its loop, over the frames still to send: checking `h.Closed` -/
  | check (frames : List Frame)
  /-- about to send the first of `frames` -/
  | send (frames : List Frame)
  deriving DecidableEq, Repr

/-- Where a `ServeHTTP` call is. -/
inductive ServePc where
  /-- about to send its client on `AddCh` -/
  | attach
  /-- setting headers and checking the writer -/
  | headers
  /-- in `WaitForPlaying` -/
  | waiting
  /-- in `WaitForPlaying`'s wait loop -/
  | waitLoop
  /-- in the serve loop, with `buffered` bytes written since the last flush -/
  | serving (buffered : Nat)
  /-- returned: its deferred send on `RemoveCh` -/
  | detach
  /-- done -/
  | done
  deriving DecidableEq, Repr

/-- A `ServeHTTP` call that got past the closed check, with what it wrote so far. -/
structure Session where
  hub : Nat
  connID : String
  ch : Nat
  userAgent : String
  contentType : String
  pc : ServePc
  header : List (String × String)
  status : Nat
  body : List Frame
  flushed : Nat
  deriving Repr

/-- Where a `GetOrCreateHub` call is, after its lookup. -/
inductive CallPc where
  /-- the lookup found `hub`: `hub.IsClosed()` -/
  | checkClosed (hub : Nat)
  /-- `NewStreamHub` -/
  | create
  /-- about to take the write lock and insert `hub` -/
  | insert (hub : Nat)
  /-- returned -/
  | returned (r : Except StreamError Nat)

/-- A goroutine. -/
inductive Task where
  /-- no goroutine, or one that has returned -/
  | exited
  /-- `h.run()` -/
  | run (hub : Nat) (pc : RunPc)
  /-- `h.readLoop(conn, hubAddr)` -/
  | readLoop (hub sock : Nat) (hubAddr : String) (pc : ReadPc)
  /-- `h.sendInitial(ch)` and the goroutine it starts -/
  | prime (hub ch : Nat) (pc : PrimePc)
  /-- `h.ServeHTTP(...)` -/
  | serve (s : Session)
  /-- `h.ServeHTTP(...)` on a closed hub: answered `503 Stream hub closed` -/
  | refused (hub : Nat)
  /-- `m.GetOrCreateHub(udpAddr, ifaces)` -/
  | call (udpAddr : String) (ifaces : List String) (pc : CallPc)
  /-- `RemoveHubEx` after its unlock: `hub.Close()` -/
  | closeRemoved (hub : Nat)

instance : Inhabited Task := ⟨.exited⟩

/-! ## The world -/

/-- A socket: the address of `AddrList` it was opened for, what that resolved to, and
whether it has been closed. -/
structure Sock where
  addr : String
  udpAddr : UDPAddr
  closed : Bool

instance : Inhabited Sock := ⟨⟨"", ⟨[], 0⟩, true⟩⟩

/-- Everything the package's goroutines share. Hubs, channels, sockets and goroutines are
kept in the order they were made, and named by their position; `published` says which
hubs a caller outside the package holds. `panic` is set when a goroutine panics, which
ends the process. -/
structure World where
  hubs : List StreamHub
  published : Nat → Bool
  registry : Registry
  chans : List (Chan Frame)
  socks : List Sock
  tasks : List Task
  nextAlloc : Nat
  panic : Option Panic

theorem getD_set_ne {α : Type} (l : List α) {i j : Nat} (h : i ≠ j) (v d : α) :
    (l.set i v).getD j d = l.getD j d := by
  simp [List.getElem?_set_ne h]

/-- The process at start: `GlobalMultiChannelHub = NewMultiChannelHub()`, nothing else. -/
def World.init : World := ⟨[], fun _ => false, ⟨[]⟩, [], [], [], 0, none⟩

namespace World

variable (w : World)

/-- Hub `i`. -/
def hub (i : Nat) : StreamHub := w.hubs.getD i default

/-- Channel `i`. -/
def chan (i : Nat) : Chan Frame := w.chans.getD i default

/-- Socket `i`. -/
def sock (i : Nat) : Sock := w.socks.getD i default

/-- Goroutine `i`. -/
def task (i : Nat) : Task := w.tasks.getD i .exited

/-- Replace hub `i`. -/
def setHub (i : Nat) (h : StreamHub) : World := { w with hubs := w.hubs.set i h }

/-- Replace channel `i`. -/
def setChan (i : Nat) (c : Chan Frame) : World := { w with chans := w.chans.set i c }

/-- Replace goroutine `i`. -/
def setTask (i : Nat) (t : Task) : World := { w with tasks := w.tasks.set i t }

/-- Start a goroutine. -/
def spawn (t : Task) : World := { w with tasks := w.tasks ++ [t] }

/-- Stop the process with a panic. -/
def fail (p : Panic) : World := { w with panic := some p }

/-- The world after a section: its result, or the panic it raised. -/
def commit : Go World → World
  | .ok w' => w'
  | .error p => w.fail p

@[simp] theorem setHub_hubs (i : Nat) (h : StreamHub) : (w.setHub i h).hubs = w.hubs.set i h := rfl
@[simp] theorem setHub_chans (i : Nat) (h : StreamHub) : (w.setHub i h).chans = w.chans := rfl
@[simp] theorem setHub_tasks (i : Nat) (h : StreamHub) : (w.setHub i h).tasks = w.tasks := rfl
@[simp] theorem setHub_panic (i : Nat) (h : StreamHub) : (w.setHub i h).panic = w.panic := rfl
@[simp] theorem setChan_hubs (i : Nat) (c : Chan Frame) : (w.setChan i c).hubs = w.hubs := rfl
@[simp] theorem setChan_chans (i : Nat) (c : Chan Frame) :
    (w.setChan i c).chans = w.chans.set i c := rfl
@[simp] theorem setChan_tasks (i : Nat) (c : Chan Frame) : (w.setChan i c).tasks = w.tasks := rfl
@[simp] theorem setChan_panic (i : Nat) (c : Chan Frame) : (w.setChan i c).panic = w.panic := rfl
@[simp] theorem setTask_hubs (i : Nat) (t : Task) : (w.setTask i t).hubs = w.hubs := rfl
@[simp] theorem setTask_chans (i : Nat) (t : Task) : (w.setTask i t).chans = w.chans := rfl
@[simp] theorem setTask_tasks (i : Nat) (t : Task) : (w.setTask i t).tasks = w.tasks.set i t := rfl
@[simp] theorem setTask_panic (i : Nat) (t : Task) : (w.setTask i t).panic = w.panic := rfl
@[simp] theorem spawn_hubs (t : Task) : (w.spawn t).hubs = w.hubs := rfl
@[simp] theorem spawn_chans (t : Task) : (w.spawn t).chans = w.chans := rfl
@[simp] theorem spawn_tasks (t : Task) : (w.spawn t).tasks = w.tasks ++ [t] := rfl
@[simp] theorem spawn_panic (t : Task) : (w.spawn t).panic = w.panic := rfl
@[simp] theorem fail_hubs (p : Panic) : (w.fail p).hubs = w.hubs := rfl
@[simp] theorem fail_chans (p : Panic) : (w.fail p).chans = w.chans := rfl
@[simp] theorem fail_tasks (p : Panic) : (w.fail p).tasks = w.tasks := rfl
@[simp] theorem fail_panic (p : Panic) : (w.fail p).panic = some p := rfl

theorem hub_setHub_ne {i j : Nat} (h : i ≠ j) (hub : StreamHub) : (w.setHub i hub).hub j = w.hub j :=
  getD_set_ne _ h _ _

theorem hub_setHub_self {i : Nat} (hi : i < w.hubs.length) (hub : StreamHub) :
    (w.setHub i hub).hub i = hub := by
  simp [World.hub, setHub, hi]

theorem chan_setChan_ne {i j : Nat} (h : i ≠ j) (c : Chan Frame) : (w.setChan i c).chan j = w.chan j :=
  getD_set_ne _ h _ _

theorem chan_setChan_self {i : Nat} (hi : i < w.chans.length) (c : Chan Frame) :
    (w.setChan i c).chan i = c := by
  simp [chan, setChan, hi]

end World

/-! ## Channel operations on the world's table -/

/-- `close(c)` for each channel of `cs`, in order. -/
def closeChans (chans : List (Chan Frame)) : List Nat → Go (List (Chan Frame))
  | [] => pure chans
  | c :: cs => do
    let ch ← (chans.getD c default).close
    closeChans (chans.set c ch) cs

/-- `select { case c <- f: default: }` on channel `c` of the table. -/
def trySendTo (chans : List (Chan Frame)) (c : Nat) (f : Frame) : Go (List (Chan Frame)) := do
  match ← (chans.getD c default).trySend f with
  | some ch => pure (chans.set c ch)
  | none => pure chans

/-- The non-blocking sends of `frames`, in order, to channel `c`. -/
def sendFrames (chans : List (Chan Frame)) (c : Nat) : List Frame → Go (List (Chan Frame))
  | [] => pure chans
  | f :: fs => do
    let chans ← trySendTo chans c f
    sendFrames chans c fs

/-- Open a socket for each address: the new sockets' numbers, in order. -/
def World.openSocks (w : World) : List (String × UDPAddr) → World × List Nat
  | [] => (w, [])
  | (addr, udpAddr) :: rest =>
    let r := World.openSocks { w with socks := w.socks ++ [⟨addr, udpAddr, false⟩] } rest
    (r.1, w.socks.length :: r.2)

/-- Opening sockets changes the socket table only. -/
theorem World.openSocks_fst : ∀ (w : World) (conns : List (String × UDPAddr)),
    (w.openSocks conns).1 = { w with socks := (w.openSocks conns).1.socks }
  | _, [] => rfl
  | w, (addr, udpAddr) :: conns => by
    show (World.openSocks { w with socks := w.socks ++ [⟨addr, udpAddr, false⟩] } conns).1 = _
    rw [openSocks_fst]; rfl

/-- The loop of `startReadLoops` from position `idx` of `UdpConns` on: one receive loop per
socket, on `AddrList[idx % len(AddrList)]`. -/
def World.spawnReadLoops (w : World) (h : Nat) (addrs : List String) : Nat → List Nat → Go World
  | _, [] => pure w
  | idx, conn :: rest => do
    let j ← mod idx addrs.length
    let hubAddr ← index addrs j
    World.spawnReadLoops (w.spawn (.readLoop h conn hubAddr .start)) h addrs (idx + 1) rest

/-! ## Critical sections -/

namespace World

variable (w : World)

/-- Close the sockets `ids`: `conn.Close()`. -/
def closeSocks (ids : List Nat) : World :=
  { w with socks := ids.foldl (fun s i => s.set i { s.getD i default with closed := true }) w.socks }

/-- `h.startReadLoops()`. -/
def startReadLoops (h : Nat) : Go World :=
  w.spawnReadLoops h (w.hub h).addrList 0 (w.hub h).udpConns

/-- `(*StreamHub).Close`: the whole method runs under `h.Mu`. -/
def close (h : Nat) : Go World :=
  let hub := w.hub h
  if hub.closed then pure w else do
  let chans ← closeChans w.chans (hub.clients.values.map (·.ch))
  let _ ← index hub.addrList 0
  pure { w.closeSocks hub.udpConns with
    chans
    hubs := w.hubs.set h { hub with
      closed := true, udpConns := [], clients := none, cacheBuffer := none, lastFrame := .nil,
      state := stateStopped } }

/-- The part of `broadcast` under `h.Mu`: the nil guard, the counter, `LastFrame`, the ring,
the state, and the copy of the clients to send to. `none` when the guard returns. -/
def broadcastLocked (h : Nat) (data : Frame) : Go (Option (World × List HubClient)) :=
  let hub := w.hub h
  match hub.cacheBuffer, hub.clients with
  | some ring, some _ => do
    let ring ← ring.push data
    pure (some (w.setHub h { hub with
      packetCount := hub.packetCount + 1, lastFrame := data, cacheBuffer := some ring,
      state := statePlaying }, hub.clients.values))
  | _, _ => pure none

/-- `run`'s add branch under `h.Mu`: `h.Clients[client.connID] = client`. -/
def runAdd (h : Nat) (c : HubClient) : Go World := do
  let clients ← (w.hub h).clients.set c.connID c
  pure (w.setHub h { w.hub h with clients })

/-- `run`'s remove branch under `h.Mu`: delete the client and close its queue, if it is
there; and whether the table is now empty. -/
def runRemove (h : Nat) (connID : String) : Go (World × Bool) := do
  let hub := w.hub h
  match hub.clients.get connID with
  | some c =>
    let ch ← (w.chan c.ch).close
    let clients := hub.clients.delete connID
    pure ((w.setHub h { hub with clients }).setChan c.ch ch, clients.len == 0)
  | none => pure (w, hub.clients.len == 0)

/-- `run`'s `Closed` branch under `h.Mu`: close every client's queue, then nil the table. -/
def runClosed (h : Nat) : Go World := do
  let hub := w.hub h
  let chans ← closeChans w.chans (hub.clients.values.map (·.ch))
  pure { w.setHub h { hub with clients := none } with chans }

/-- `sendInitial`'s snapshot under `h.Mu`: `h.CacheBuffer.GetAll()`. -/
def snapshot (h : Nat) : Go (List Frame) := do
  let r ← (w.hub h).ring
  r.getAll

/-- The loop of `TransferClientsTo` over the old hub's clients: insert each into the new
table and send it the old ring, then `LastFrame`. Go visits the clients in an unspecified
order; the order here is the table's. -/
def transferEach (src : StreamHub) (ring : RingBuffer Frame) :
    List (Sigma fun _ : String => HubClient) → GoMap String HubClient → List (Chan Frame) →
      Go (GoMap String HubClient × List (Chan Frame))
  | [], m, chans => pure (m, chans)
  | e :: rest, m, chans => do
    let m ← m.set e.1 e.2
    let frames ← ring.getAll
    let chans ← sendFrames chans e.2.ch frames
    let chans ← if src.lastFrame.len > 0 then trySendTo chans e.2.ch src.lastFrame else pure chans
    transferEach src ring rest m chans

/-- `h.TransferClientsTo(newHub)`, under both hubs' locks. -/
def transferClientsTo (h n : Nat) : Go World := do
  let src := w.hub h
  let dst := w.hub n
  let dstClients := if dst.clients.isNone then GoMap.empty else dst.clients
  let dstRing ← dst.ringOr src
  let srcRing ← src.ring
  let frames ← srcRing.getAll
  let dstRing ← frames.foldlM (fun r f => r.push f) dstRing
  let (dstClients, chans) ← transferEach src srcRing src.clients.entries dstClients w.chans
  pure { w with
    chans
    hubs := (w.hubs.set n { dst with clients := dstClients, cacheBuffer := some dstRing }).set h
      { src with clients := GoMap.empty } }

/-- `h.UpdateInterfaces(ifaces)`, under `h.Mu`: open a socket per address, and if any
opened, close the old sockets, swap in the new ones and start their receive loops. -/
def updateInterfaces (h : Nat) (ifaces : List String) (net : Net) :
    Go (World × Except StreamError Unit) :=
  let hub := w.hub h
  match updateInterfacesConns net ifaces hub.addrList none with
  | ([], lastErr) => pure (w, .error (.allUpdates lastErr))
  | (conns, _) => do
    let (w', ids) := (w.closeSocks hub.udpConns).openSocks conns
    let w' ← (w'.setHub h { hub with udpConns := ids }).startReadLoops h
    pure (w', .ok ())

/-- `NewStreamHub(addrs, ifaces)`: open a socket per address, make the hub, and start its
control loop and receive loops. -/
def newStreamHub (addrs ifaces : List String) (net : Net) : Go (Except StreamError (World × Nat)) :=
  if addrs.isEmpty then pure (.error .noAddress) else
  match newStreamHubConns net ifaces addrs none with
  | ([], lastErr) => pure (.error (.allInterfaces lastErr))
  | (conns, _) => do
    let ring ← newRingBuffer cacheFrames
    let (w', ids) := w.openSocks conns
    let i := w'.hubs.length
    let hub : StreamHub :=
      ⟨GoMap.empty, [], [], ids, false, .nil, some ring, addrs, 0, 0, statePlaying, none, false⟩
    let w' ← ({ w' with hubs := w'.hubs ++ [hub] }.spawn (.run i .select)).startReadLoops i
    pure (.ok (w', i))

/-- `RemoveHubEx(udpAddr, ifaces)` under the registry's lock: look the key up and delete it;
the hub to close next, if there was one. -/
def removeHubLocked (md5Hex : String → String) (udpAddr : String) (ifaces : List String) :
    World × Option Nat :=
  let k := hubKeyString udpAddr ifaces
  match w.registry.lookup md5Hex k with
  | some hub => ({ w with registry := w.registry.erase k }, some hub)
  | none => (w, none)

/-- `RemoveHubEx`'s section changes the registry only. -/
theorem removeHubLocked_fst (md5Hex : String → String) (udpAddr : String) (ifaces : List String) :
    (w.removeHubLocked md5Hex udpAddr ifaces).1 =
      { w with registry := (w.removeHubLocked md5Hex udpAddr ifaces).1.registry } := by
  unfold removeHubLocked
  dsimp only
  split <;> rfl

end World

/-! ## Panics

Only `Close` and the two branches of `run` that close queues can raise `closeOfClosed`;
every other section raises other panics or none. -/

theorem noCloseOfClosed_trySendTo (chans : List (Chan Frame)) (c : Nat) (f : Frame) :
    NoCloseOfClosed (trySendTo chans c f) :=
  (Chan.noCloseOfClosed_trySend _ _).bind fun r _ => by cases r <;> exact noCloseOfClosed_ok _

theorem noCloseOfClosed_sendFrames (c : Nat) :
    ∀ (chans : List (Chan Frame)) (frames : List Frame), NoCloseOfClosed (sendFrames chans c frames)
  | chans, [] => noCloseOfClosed_ok chans
  | chans, _ :: frames => (noCloseOfClosed_trySendTo chans c _).bind fun chans _ =>
      noCloseOfClosed_sendFrames c chans frames

theorem World.noCloseOfClosed_spawnReadLoops (h : Nat) (addrs : List String) :
    ∀ (w : World) (idx : Nat) (conns : List Nat),
      NoCloseOfClosed (w.spawnReadLoops h addrs idx conns)
  | w, _, [] => noCloseOfClosed_ok w
  | _, _, _ :: _ => (noCloseOfClosed_mod _ _).bind fun _ _ => (noCloseOfClosed_index _ _).bind
      fun _ _ => World.noCloseOfClosed_spawnReadLoops h addrs _ _ _

namespace World

variable (w : World)

theorem noCloseOfClosed_startReadLoops (h : Nat) : NoCloseOfClosed (w.startReadLoops h) :=
  noCloseOfClosed_spawnReadLoops _ _ _ _ _

theorem noCloseOfClosed_broadcastLocked (h : Nat) (data : Frame) :
    NoCloseOfClosed (w.broadcastLocked h data) := by
  unfold broadcastLocked
  dsimp only
  split
  · exact (RingBuffer.noCloseOfClosed_push _ _).bind fun _ _ => noCloseOfClosed_ok _
  · exact noCloseOfClosed_ok _

theorem noCloseOfClosed_runAdd (h : Nat) (c : HubClient) : NoCloseOfClosed (w.runAdd h c) :=
  (GoMap.noCloseOfClosed_set _ _ _).bind fun _ _ => noCloseOfClosed_ok _

theorem noCloseOfClosed_snapshot (h : Nat) : NoCloseOfClosed (w.snapshot h) :=
  (w.hub h).noCloseOfClosed_ring.bind fun r _ => r.noCloseOfClosed_getAll

theorem noCloseOfClosed_transferEach (src : StreamHub) (ring : RingBuffer Frame) :
    ∀ (es : List (Sigma fun _ : String => HubClient)) (m : GoMap String HubClient)
      (chans : List (Chan Frame)), NoCloseOfClosed (transferEach src ring es m chans)
  | [], m, chans => noCloseOfClosed_ok (m, chans)
  | _ :: es, _, _ => (GoMap.noCloseOfClosed_set _ _ _).bind fun m _ =>
      (RingBuffer.noCloseOfClosed_getAll ring).bind fun _ _ =>
      (noCloseOfClosed_sendFrames _ _ _).bind fun chans _ => by
        dsimp only
        split
        · exact (noCloseOfClosed_trySendTo _ _ _).bind fun chans _ =>
            noCloseOfClosed_transferEach src ring es m chans
        · exact noCloseOfClosed_transferEach src ring es m chans

theorem noCloseOfClosed_transferClientsTo (h n : Nat) :
    NoCloseOfClosed (w.transferClientsTo h n) := by
  refine ((w.hub n).noCloseOfClosed_ringOr _).bind fun dstRing _ =>
    (w.hub h).noCloseOfClosed_ring.bind fun srcRing _ =>
    srcRing.noCloseOfClosed_getAll.bind fun frames _ =>
    (RingBuffer.noCloseOfClosed_pushAll dstRing frames).bind fun _ _ =>
    (noCloseOfClosed_transferEach _ _ _ _ _).bind fun ⟨_, _⟩ _ => noCloseOfClosed_ok _

theorem noCloseOfClosed_updateInterfaces (h : Nat) (ifaces : List String) (net : Net) :
    NoCloseOfClosed (w.updateInterfaces h ifaces net) := by
  unfold updateInterfaces
  dsimp only
  split
  · exact noCloseOfClosed_ok _
  · exact (noCloseOfClosed_startReadLoops _ _).bind fun _ _ => noCloseOfClosed_ok _

theorem noCloseOfClosed_newStreamHub (addrs ifaces : List String) (net : Net) :
    NoCloseOfClosed (w.newStreamHub addrs ifaces net) := by
  unfold newStreamHub
  split
  · exact noCloseOfClosed_ok _
  · split
    · exact noCloseOfClosed_ok _
    · exact (noCloseOfClosed_newRingBuffer _).bind fun _ _ =>
        (noCloseOfClosed_startReadLoops _ _).bind fun _ _ => noCloseOfClosed_ok _

end World

end TvGate.Stream
