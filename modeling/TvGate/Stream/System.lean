import Mathlib.Data.List.Infix
import TvGate.Stream.Hub

/-!
# The package as a transition system

The steps of every goroutine of `stream/udp_rtp.go`, and the calls a process makes into
the package from outside (`GetOrCreateHub`, `RemoveHubEx`, `NewStreamHub`, `ServeHTTP`,
`Close`, `UpdateInterfaces`, `TransferClientsTo`). A step is one critical section, or one
channel operation between two of them; any interleaving of goroutines is a sequence of
steps. What the environment decides at a step (the case a `select` takes among the ready
ones, the client a map iteration visits next, a datagram, the operating system's
answers) is the step's `Input`.

A step that panics records the panic and the process stops: no step is enabled after it.
-/

namespace TvGate.Stream

open Go

/-- What the environment chooses at a goroutine's step. -/
inductive Input where
  /-- nothing to choose -/
  | go
  /-- `run`'s `select` takes `AddCh` -/
  | add
  /-- `run`'s `select` takes `RemoveCh` -/
  | remove
  /-- a `select` takes `h.Closed` -/
  | closed
  /-- the fan-out of `broadcast` serves the `j`-th of the clients still to serve: Go ranges
  over a map in no fixed order -/
  | client (j : Nat)
  /-- `ReadFrom` returns a datagram, with the destination of its control message, if any -/
  | datagram (bytes : List UInt8) (dst : Option (List UInt8))
  /-- `ReadFrom` fails -/
  | readError
  /-- the operating system's answers for a call that resolves or binds -/
  | net (n : Net)
  /-- whether the `http.ResponseWriter` is an `http.Flusher` -/
  | flushable (ok : Bool)
  /-- the serve loop takes its queue; `ok` says whether `w.Write` succeeds -/
  | frame (ok : Bool)
  /-- the serve loop takes the flush ticker -/
  | flushTick
  /-- the serve loop takes `ctx.Done()` -/
  | cancel
  deriving Inhabited

/-- A step of the process: a call into the package from outside, or a step of one of its
goroutines. -/
inductive Action where
  | getOrCreateHub (udpAddr : String) (ifaces : List String)
  | removeHubEx (udpAddr : String) (ifaces : List String)
  | newStreamHub (addrs ifaces : List String) (net : Net)
  /-- `h.ServeHTTP(w, r, contentType, nil)`, with the request's `X-ConnID` and `User-Agent`
  headers and the time `time.Now().UnixNano()` reads. -/
  | serveHTTP (hub : Nat) (xConnID userAgent contentType : String) (now : Int)
  | close (hub : Nat)
  | updateInterfaces (hub : Nat) (ifaces : List String) (net : Net)
  | transferClientsTo (hub newHub : Nat)
  /-- goroutine `task` takes a step -/
  | step (task : Nat) (input : Input)

/-- `strings.Contains(s, substr)`. -/
def strContains (s substr : String) : Bool := decide (substr.toList <:+: s.toList)

/-- The headers `ServeHTTP` sets, in the order of its `Set` calls; the `Del` of
`Transfer-Encoding` for VLC removes a header no earlier call set. -/
def streamHeaders (userAgent contentType : String) : List (String × String) :=
  [("Pragma", "no-cache"),
    ("ContentFeatures.DLNA.ORG",
      "DLNA.ORG_OP=01;DLNA.ORG_CI=0;DLNA.ORG_FLAGS=01700000000000000000000000000000"),
    ("TransferMode.DLNA.ORG", "Streaming"), ("Content-Type", contentType)] ++
  if strContains userAgent "VLC" then [("Accept-Ranges", "none")]
  else [("Transfer-Encoding", "chunked"), ("Accept-Ranges", "none")]

section Steps

variable (md5Hex : String → String) (w : World) (t : Nat)

/-- A step of `h.run()`, goroutine `t`. -/
def stepRun (h : Nat) : RunPc → Input → Option World
  | .select, .add =>
    let hub := w.hub h
    match hub.addCh with
    | [] => none
    | c :: rest =>
      if hub.mu then none else
      some <| w.commit do
        let w₁ ← (w.setHub h { hub with addCh := rest }).runAdd h c
        pure (w₁.spawn (.prime h c.ch .snapshot))
  | .select, .remove =>
    let hub := w.hub h
    match hub.removeCh with
    | [] => none
    | connID :: rest =>
      if hub.mu then none else
      some <| w.commit do
        let (w₁, empty) ← (w.setHub h { hub with removeCh := rest }).runRemove h connID
        pure (if empty then w₁.setTask t (.run h .reap) else w₁)
  | .select, .closed =>
    if (w.hub h).closed && !(w.hub h).mu then
      some <| w.commit do
        let w₁ ← w.runClosed h
        pure (w₁.setTask t .exited)
    else none
  | .reap, .go =>
    if (w.hub h).mu then none else
    some <| w.commit do
      let w₁ ← w.close h
      pure (w₁.setTask t (.run h .onEmpty))
  | .onEmpty, .go =>
    match (w.hub h).onEmpty with
    | none => some (w.setTask t .exited)
    | some ifaces =>
      some <| w.commit do
        let addr ← index (w.hub h).addrList 0
        match w.removeHubLocked md5Hex addr ifaces with
        | (w₁, some h') => pure (w₁.setTask t (.run h (.closeRemoved h')))
        | (w₁, none) => pure (w₁.setTask t .exited)
  | .closeRemoved h', .go =>
    if (w.hub h').mu then none else
    some <| w.commit do
      let w₁ ← w.close h'
      pure (w₁.setTask t .exited)
  | _, _ => none

/-- A step of `h.readLoop(conn, hubAddr)`, goroutine `t` on socket `sock`. -/
def stepRead (h sock : Nat) (hubAddr : String) : ReadPc → Input → Option World
  | .start, .net net =>
    match net.resolveUDPAddr hubAddr with
    | .ok a => some (w.setTask t (.readLoop h sock hubAddr (.loop (ipText a.ip))))
    | .error _ => some (w.fail .nilDereference)
  | .loop dst, .go =>
    some (w.setTask t (if (w.hub h).closed then .exited else .readLoop h sock hubAddr (.read dst)))
  | .read dst, .datagram bytes cmDst =>
    if (w.sock sock).closed then none else
    if cmDst.any (fun d => ipText d != dst) then
      some (w.setTask t (.readLoop h sock hubAddr (.loop dst)))
    else
      some { w.setTask t (.readLoop h sock hubAddr
          (.check dst (.mk w.nextAlloc (bytes.take readBufSize)))) with
        nextAlloc := w.nextAlloc + 1 }
  | .read _, .readError => some (w.setTask t .exited)
  | .check dst data, .go =>
    if (w.hub h).mu then none else
    if (w.hub h).stopped then some (w.setTask t .exited) else
    match processRTPPacket data.bytes with
    | .error p => some (w.fail p)
    | .ok .input => some (w.setTask t (.readLoop h sock hubAddr (.broadcast dst data)))
    | .ok (.copy b) =>
      some { w.setTask t (.readLoop h sock hubAddr (.broadcast dst (.mk w.nextAlloc b))) with
        nextAlloc := w.nextAlloc + 1 }
  | .broadcast dst data, .go =>
    if (w.hub h).mu then none else
    match w.broadcastLocked h data with
    | .error p => some (w.fail p)
    | .ok none => some (w.setTask t (.readLoop h sock hubAddr (.loop dst)))
    | .ok (some (w₁, cs)) => some (w₁.setTask t (.readLoop h sock hubAddr (.fanout dst data cs)))
  | .fanout dst _ [], .go => some (w.setTask t (.readLoop h sock hubAddr (.loop dst)))
  | .fanout dst data cs, .client j =>
    match cs[j]? with
    | none => none
    | some c =>
      let rest := cs.eraseIdx j
      match (w.chan c.ch).trySend data with
      | .error p => some (w.fail p)
      | .ok (some ch) =>
        some ((w.setChan c.ch ch).setTask t (.readLoop h sock hubAddr (.fanout dst data rest)))
      | .ok none => some (w.setTask t (.readLoop h sock hubAddr (.dropped dst data rest c)))
  | .dropped dst data rest c, .go =>
    let hub := w.hub h
    if hub.mu then none else
    let dropCount := hub.dropCount + 1
    let resync := dropCount % 100 == 0
    some ((w.setHub h { hub with dropCount, mu := resync }).setTask t (.readLoop h sock hubAddr
      (if resync then .drain dst data rest c else .fanout dst data rest)))
  | .drain dst data rest c, .go =>
    let hub := w.hub h
    let w₁ := w.setChan c.ch (w.chan c.ch).tryRecv
    if hub.lastFrame != .nil then
      some (w₁.setTask t (.readLoop h sock hubAddr (.resend dst data rest c)))
    else
      some ((w₁.setHub h { hub with mu := false }).setTask t
        (.readLoop h sock hubAddr (.fanout dst data rest)))
  | .resend dst data rest c, .go =>
    let hub := w.hub h
    match (w.chan c.ch).trySend hub.lastFrame with
    | .error p => some (w.fail p)
    | .ok r =>
      some (((w.setChan c.ch (r.getD (w.chan c.ch))).setHub h { hub with mu := false }).setTask t
        (.readLoop h sock hubAddr (.fanout dst data rest)))
  | _, _ => none

/-- A step of `h.sendInitial(ch)` and of the goroutine it starts, goroutine `t`. -/
def stepPrime (h ch : Nat) : PrimePc → Input → Option World
  | .snapshot, .go =>
    if (w.hub h).mu then none else
    match w.snapshot h with
    | .ok frames => some (w.setTask t (.prime h ch (.check frames)))
    | .error p => some (w.fail p)
  | .check [], .go => some (w.setTask t .exited)
  | .check frames, .go =>
    some (w.setTask t (if (w.hub h).closed then .exited else .prime h ch (.send frames)))
  | .send (f :: frames), .go =>
    match (w.chan ch).trySend f with
    | .error p => some (w.fail p)
    | .ok none => some (w.setTask t .exited)
    | .ok (some c) => some ((w.setChan ch c).setTask t (.prime h ch (.check frames)))
  | _, _ => none

/-- A step of `h.ServeHTTP`, goroutine `t`, past its closed check. -/
def stepServe (s : Session) (input : Input) : Option World :=
  let hub := w.hub s.hub
  let next := fun (s' : Session) (w' : World) => some (w'.setTask t (.serve s'))
  match s.pc, input with
  | .attach, .go =>
    if hub.addCh.length < hubChanCap then
      next { s with pc := .headers } (w.setHub s.hub { hub with addCh := hub.addCh ++ [⟨s.ch, s.connID⟩] })
    else none
  | .headers, .flushable ok =>
    let s := { s with header := streamHeaders s.userAgent s.contentType }
    next (if ok then { s with pc := .waiting } else { s with status := 500, pc := .detach }) w
  | .waiting, .go =>
    if hub.mu then none else
    match hub.waitForPlaying with
    | some true => next { s with pc := .serving 0 } w
    | some false => next { s with pc := .detach } w
    | none => next { s with pc := .waitLoop } w
  | .serving buffered, .frame ok =>
    match (w.chan s.ch).recv with
    | none => none
    | some (none, _) => next { s with pc := .detach } w
    | some (some f, c) =>
      let w₁ := w.setChan s.ch c
      if !ok then next { s with pc := .detach } w₁ else
      let buffered := buffered + f.len
      let body := s.body ++ [f]
      next (if buffered ≥ maxBufferSize then { s with body, flushed := body.length, pc := .serving 0 }
        else { s with body, pc := .serving buffered }) w₁
  | .serving buffered, .flushTick =>
    next (if buffered > 0 then { s with flushed := s.body.length, pc := .serving 0 } else s) w
  | .serving _, .cancel => next { s with pc := .detach } w
  | .serving _, .closed => if hub.closed then next { s with pc := .detach } w else none
  | .detach, .go =>
    if hub.removeCh.length < hubChanCap then
      next { s with pc := .done } (w.setHub s.hub { hub with removeCh := hub.removeCh ++ [s.connID] })
    else none
  | _, _ => none

/-- A step of `m.GetOrCreateHub(udpAddr, ifaces)` after its lookup, goroutine `t`. -/
def stepCall (udpAddr : String) (ifaces : List String) : CallPc → Input → Option World
  | .checkClosed hub, .go =>
    some (w.setTask t (.call udpAddr ifaces
      (if (w.hub hub).closed then .create else .returned (.ok hub))))
  | .create, .net net =>
    match w.newStreamHub [udpAddr] ifaces net with
    | .error p => some (w.fail p)
    | .ok (.error e) => some (w.setTask t (.call udpAddr ifaces (.returned (.error e))))
    | .ok (.ok (w₁, i)) =>
      some ((w₁.setHub i { w₁.hub i with onEmpty := some ifaces }).setTask t
        (.call udpAddr ifaces (.insert i)))
  | .insert i, .go =>
    some { w.setTask t (.call udpAddr ifaces (.returned (.ok i))) with
      registry := w.registry.insert (hubKeyString udpAddr ifaces) i
      published := Function.update w.published i true }
  | _, _ => none

end Steps

/-- A step of the process, before the check that it has not panicked. -/
def stepAction (md5Hex : String → String) (w : World) : Action → Option World
  | .getOrCreateHub udpAddr ifaces =>
    match w.registry.lookup md5Hex (hubKeyString udpAddr ifaces) with
    | some hub => some (w.spawn (.call udpAddr ifaces (.checkClosed hub)))
    | none => some (w.spawn (.call udpAddr ifaces .create))
  | .removeHubEx udpAddr ifaces =>
    match w.removeHubLocked md5Hex udpAddr ifaces with
    | (w₁, some hub) => some (w₁.spawn (.closeRemoved hub))
    | (w₁, none) => some w₁
  | .newStreamHub addrs ifaces net =>
    match w.newStreamHub addrs ifaces net with
    | .error p => some (w.fail p)
    | .ok (.error _) => some w
    | .ok (.ok (w₁, i)) => some { w₁ with published := Function.update w₁.published i true }
  | .serveHTTP h xConnID userAgent contentType now =>
    if !w.published h then none else
    if (w.hub h).closed then some (w.spawn (.refused h)) else
    let connID := if xConnID = "" then toString now else xConnID
    let c := w.chans.length
    some ({ w with chans := w.chans ++ [Chan.make clientChanCap] }.spawn
      (.serve ⟨h, connID, c, userAgent, contentType, .attach, [], 200, [], 0⟩))
  | .close h => if !w.published h || (w.hub h).mu then none else some (w.commit (w.close h))
  | .updateInterfaces h ifaces net =>
    if !w.published h || (w.hub h).mu then none else
    some (w.commit ((w.updateInterfaces h ifaces net).map Prod.fst))
  | .transferClientsTo h n =>
    if !w.published h || !w.published n || h == n || (w.hub h).mu || (w.hub n).mu then none
    else some (w.commit (w.transferClientsTo h n))
  | .step t input =>
    match w.task t with
    | .exited | .refused _ => none
    | .run h pc => stepRun md5Hex w t h pc input
    | .readLoop h sock hubAddr pc => stepRead w t h sock hubAddr pc input
    | .prime h ch pc => stepPrime w t h ch pc input
    | .serve s => stepServe w t s input
    | .call udpAddr ifaces pc => stepCall w t udpAddr ifaces pc input
    | .closeRemoved h =>
      match input with
      | .go =>
        if (w.hub h).mu then none else
        some (w.commit do
          let w₁ ← w.close h
          pure (w₁.setTask t .exited))
      | _ => none

/-- A step of the process: none once a goroutine has panicked. -/
def step (md5Hex : String → String) (w : World) (a : Action) : Option World :=
  if w.panic.isSome then none else stepAction md5Hex w a

/-- The states the process can reach from its start. -/
inductive Reachable (md5Hex : String → String) : World → Prop where
  | init : Reachable md5Hex World.init
  | step {w w' : World} (a : Action) :
      Reachable md5Hex w → step md5Hex w a = some w' → Reachable md5Hex w'

/-- The steps of `actions`, in order, while each is enabled. -/
def run (md5Hex : String → String) (w : World) : List Action → Option World
  | [] => some w
  | a :: actions => (step md5Hex w a).bind (run md5Hex · actions)

theorem run_reachable (md5Hex : String → String) :
    ∀ {w w' : World} {actions : List Action},
      Reachable md5Hex w → run md5Hex w actions = some w' → Reachable md5Hex w'
  | _, _, [], hw, h => by cases h; exact hw
  | w, _, a :: actions, hw, h => by
    rcases hs : step md5Hex w a with _ | w₁
    · simp [run, hs] at h
    · simp only [run, hs, Option.bind_some] at h
      exact run_reachable md5Hex (.step a hw hs) h

/-- The state a run from the start ends in, when every step of it is enabled. -/
theorem reachable_run_getD {md5Hex : String → String} {actions : List Action}
    (h : (run md5Hex World.init actions).isSome = true) :
    Reachable md5Hex ((run md5Hex World.init actions).getD World.init) := by
  rcases hr : run md5Hex World.init actions with _ | w
  · simp [hr] at h
  · exact run_reachable md5Hex .init hr

/-- A run from the start that ends in a state satisfying `p` shows such a state
reachable. -/
theorem reach_of_run {md5Hex : String → String} {actions : List Action} {p : World → Bool}
    (h : (run md5Hex World.init actions).map p = some true) :
    ∃ w, Reachable md5Hex w ∧ p w = true := by
  rcases hr : run md5Hex World.init actions with _ | w
  · simp [hr] at h
  · simp only [hr, Option.map_some', Option.some.injEq] at h
    exact ⟨w, run_reachable md5Hex .init hr, h⟩

/-- An operating system on which every address resolves to the group `239.0.0.1:5000`,
every interface name is found, and every bind succeeds. -/
def groupNet : Net :=
  ⟨fun _ => .ok ⟨[239, 0, 0, 1], 5000⟩, .ok, fun _ _ => .ok (), fun _ => .ok ()⟩

end TvGate.Stream
