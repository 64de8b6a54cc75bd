import Mathlib.Data.List.GetD
import TvGate.Stream.System

/-!
# Sockets and their receive loops

`NewStreamHub(addrs, ifaces)` opens a socket per address in a loop that skips an address
that does not resolve or bind, and appends the sockets it opens to `UdpConns`.
`startReadLoops` then starts the receive loop of socket `idx` on
`AddrList[idx % len(AddrList)]`, which the loop resolves and whose group it filters
datagrams on. The two agree only when no address was skipped.

## Main results

* `newStreamHubConns_fst` — the sockets are opened for exactly the addresses that open,
  in order.
* `World.newStreamHub_readLoops` — what `NewStreamHub` leaves: the `k`-th socket, opened for
  the `k`-th address that opens, gets a receive loop on `AddrList[k % len(AddrList)]`.
* `World.newStreamHub_aligned` — when every address opens, each receive loop filters on its
  own socket's group.
* `readLoop_misaligned` — an address that does not resolve makes the first receive loop
  resolve it and dereference the nil result; one that does not bind makes it drop every
  datagram of its socket's group.
-/

namespace TvGate.Stream

open Go

/-- Whether `NewStreamHub`'s loop opens a socket for `addr`: it resolves, and binds on the
default interface when `ifaces` is empty, else on one of `ifaces`. -/
def opens (net : Net) (ifaces : List String) (addr : String) : Bool :=
  match net.resolveUDPAddr addr with
  | .error _ => false
  | .ok udpAddr =>
    if ifaces.isEmpty then (listenMulticast net udpAddr []).toBool
    else (bindOnInterfaces net udpAddr ifaces none).1

/-- Whether a bind succeeds does not depend on the error carried in. -/
theorem bindOnInterfaces_fst (net : Net) (udpAddr : UDPAddr) (ifaces : List String)
    (lastErr : Option StreamError) :
    (bindOnInterfaces net udpAddr ifaces lastErr).1 =
      (bindOnInterfaces net udpAddr ifaces none).1 := by
  cases ifaces with
  | nil => rfl
  | cons name rest => simp only [bindOnInterfaces]; split <;> (try split) <;> rfl

/-- `NewStreamHub` opens sockets for exactly the addresses that open, in order. -/
theorem newStreamHubConns_fst (net : Net) (ifaces addrs : List String)
    (lastErr : Option StreamError) :
    (newStreamHubConns net ifaces addrs lastErr).1.map Prod.fst =
      addrs.filter (opens net ifaces) := by
  induction addrs generalizing lastErr with
  | nil => rfl
  | cons addr rest ih =>
    rcases hr : net.resolveUDPAddr addr with e | u
    · simp [newStreamHubConns, opens, hr, ih]
    · by_cases hi : ifaces.isEmpty
      · rcases hl : listenMulticast net u [] with e | _ <;>
          simp [newStreamHubConns, opens, hr, hi, hl, ih, Except.toBool]
      · rcases hb : bindOnInterfaces net u ifaces lastErr with ⟨_ | _, le⟩ <;>
        · have hb' := (bindOnInterfaces_fst net u ifaces lastErr).symm
          rw [hb] at hb'
          simp [newStreamHubConns, opens, hr, hi, hb, hb', ih]

/-- `startReadLoops`' loop never panics on a non-empty `AddrList`: it starts, in order, a
receive loop per socket, the one at position `idx + k` on `AddrList[(idx+k) % len]`. -/
theorem World.spawnReadLoops_eq {h : Nat} {addrs : List String} (hne : addrs ≠ []) :
    ∀ (w : World) (idx : Nat) (conns : List Nat), ∃ ts : List Task,
      w.spawnReadLoops h addrs idx conns = .ok { w with tasks := w.tasks ++ ts } ∧
      ∀ k < conns.length, ts.getD k .exited =
        .readLoop h (conns.getD k 0) (addrs.getD ((idx + k) % addrs.length) "") .start
  | w, _, [] => ⟨[], by simp [spawnReadLoops]; rfl, fun _ h => absurd h (Nat.not_lt_zero _)⟩
  | w, idx, c :: rest => by
    have hlen : 0 < addrs.length := List.length_pos.mpr hne
    obtain ⟨ts, hts, hk⟩ := @spawnReadLoops_eq h addrs hne
      (w.spawn (.readLoop h c (addrs.getD (idx % addrs.length) "") .start)) (idx + 1) rest
    refine ⟨.readLoop h c (addrs.getD (idx % addrs.length) "") .start :: ts, ?_, ?_⟩
    · have hi : index addrs ((idx % addrs.length : Nat) : Int) =
          .ok (addrs.getD (idx % addrs.length) "") :=
        index_eq (by omega) (by
          rw [Int.toNat_ofNat, List.getD_eq_getElem?_getD,
            List.getElem?_eq_getElem (Nat.mod_lt _ hlen)]
          rfl)
      simp only [spawnReadLoops, mod_eq (by omega : (addrs.length : Int) ≠ 0)]
      rw [show (idx : Int).tmod addrs.length = ((idx % addrs.length : Nat) : Int) from rfl, ok_bind,
        hi, ok_bind, hts]
      simp [World.spawn]
    · intro k hk'
      cases k with
      | zero => simp
      | succ k =>
        rw [List.getD_cons_succ, hk k (by simp at hk'; omega)]
        simp [Nat.add_assoc, Nat.add_comm 1 k]

/-- The receive loops a run of `startReadLoops`' loop started. -/
theorem World.spawnReadLoops_of_eq {w w' : World} {h idx : Nat} {addrs : List String}
    {conns : List Nat} (hne : addrs ≠ []) (hs : w.spawnReadLoops h addrs idx conns = .ok w') :
    ∃ ts : List Task, w' = { w with tasks := w.tasks ++ ts } ∧
      ∀ k < conns.length, ts.getD k .exited =
        .readLoop h (conns.getD k 0) (addrs.getD ((idx + k) % addrs.length) "") .start := by
  obtain ⟨ts, hts, hk⟩ := spawnReadLoops_eq hne w idx conns
  rw [hts] at hs
  cases hs
  exact ⟨ts, rfl, hk⟩

/-- `openSocks` appends a socket per connection, numbered from the first free one. -/
theorem World.openSocks_eq : ∀ (w : World) (conns : List (String × UDPAddr)),
    w.openSocks conns = ({ w with socks := w.socks ++ conns.map fun c => ⟨c.1, c.2, false⟩ },
      List.range' w.socks.length conns.length)
  | w, [] => by simp [openSocks]
  | w, (addr, udpAddr) :: conns => by
    rw [openSocks, openSocks_eq]
    simp [List.range'_succ]

/-- What a successful `NewStreamHub` leaves: hub `w.hubs.length`, playing, with a socket per
connection its loop opened, and after its control loop, a receive loop per socket. -/
theorem World.newStreamHub_spec {w w' : World} {addrs ifaces : List String} {net : Net}
    {i : Nat} (hn : w.newStreamHub addrs ifaces net = .ok (.ok (w', i))) :
    ∃ (cs : List (String × UDPAddr)) (ring : RingBuffer Frame) (ts : List Task),
      (newStreamHubConns net ifaces addrs none).1 = cs ∧ addrs ≠ [] ∧ i = w.hubs.length ∧
      newRingBuffer cacheFrames = .ok ring ∧
      w' = { w with
        hubs := w.hubs ++ [⟨GoMap.empty, [], [], List.range' w.socks.length cs.length, false,
          .nil, some ring, addrs, 0, 0, statePlaying, none, false⟩]
        socks := w.socks ++ cs.map fun c => ⟨c.1, c.2, false⟩
        tasks := w.tasks ++ .run i .select :: ts } ∧
      ∀ k < cs.length, ts.getD k .exited =
        .readLoop i (w.socks.length + k) (addrs.getD (k % addrs.length) "") .start := by
  unfold newStreamHub at hn
  split at hn
  · cases hn
  rename_i hne
  split at hn
  · cases hn
  rename_i cs _ _ hres
  rw [openSocks_eq] at hn
  obtain ⟨ring, hring, hn⟩ := bind_eq_ok hn
  obtain ⟨w₂, hs, hn⟩ := bind_eq_ok hn
  cases hn
  dsimp only at hs
  unfold startReadLoops at hs
  simp only [World.hub, World.spawn, List.getD_append_right _ _ _ _ (le_refl _), Nat.sub_self,
    List.getD_cons_zero] at hs
  obtain ⟨ts, rfl, hk⟩ := spawnReadLoops_of_eq (fun h => hne (by simp [h])) hs
  refine ⟨cs, ring, ts, by rw [hres], fun h => hne (by simp [h]), rfl, hring, by simp, ?_⟩
  intro k hk'
  rw [List.length_range'] at hk
  rw [hk k hk', List.getD_eq_getElem?_getD, List.getElem?_range' _ _ hk', Nat.zero_add,
    Nat.one_mul]
  rfl

/-- The receive loops `NewStreamHub` starts: the `k`-th socket, opened for the `k`-th address
that opens, gets a receive loop that filters on `AddrList[k % len(AddrList)]`. -/
theorem World.newStreamHub_readLoops {w w' : World} {addrs ifaces : List String} {net : Net}
    {i : Nat} (hn : w.newStreamHub addrs ifaces net = .ok (.ok (w', i))) :
    (w'.hub i).addrList = addrs ∧
    (w'.hub i).udpConns = List.range' w.socks.length (addrs.filter (opens net ifaces)).length ∧
    ∀ k < (addrs.filter (opens net ifaces)).length,
      (w'.sock (w.socks.length + k)).addr = (addrs.filter (opens net ifaces)).getD k "" ∧
      w'.task (w.tasks.length + 1 + k) =
        .readLoop i (w.socks.length + k) (addrs.getD (k % addrs.length) "") .start := by
  obtain ⟨cs, ring, ts, hcs, -, rfl, -, rfl, hk⟩ := newStreamHub_spec hn
  have hconns := newStreamHubConns_fst net ifaces addrs none
  rw [hcs] at hconns
  have hlen : cs.length = (addrs.filter (opens net ifaces)).length := by
    rw [← hconns, List.length_map]
  rw [← hlen]
  refine ⟨by simp [World.hub], by simp [World.hub], fun k hk' => ⟨?_, ?_⟩⟩
  · rw [World.sock, List.getD_append_right _ _ _ _ (Nat.le_add_right _ _), Nat.add_sub_cancel_left,
      ← hconns]
    simp only [List.getD_eq_getElem?_getD, List.getElem?_map, List.getElem?_eq_getElem hk']
    rfl
  · rw [World.task, List.getD_append_right _ _ _ _ (by omega),
      show w.tasks.length + 1 + k - w.tasks.length = k + 1 by omega, List.getD_cons_succ, hk k hk']

/-- When every address opens, the `k`-th receive loop filters on the address its own socket
was opened for. -/
theorem World.newStreamHub_aligned {w w' : World} {addrs ifaces : List String} {net : Net}
    {i : Nat} (hn : w.newStreamHub addrs ifaces net = .ok (.ok (w', i)))
    (hall : ∀ a ∈ addrs, opens net ifaces a = true) :
    ∀ k < addrs.length, (w'.sock (w.socks.length + k)).addr = addrs.getD k "" ∧
      w'.task (w.tasks.length + 1 + k) =
        .readLoop i (w.socks.length + k) (addrs.getD k "") .start := by
  obtain ⟨-, -, hk⟩ := newStreamHub_readLoops hn
  rw [List.filter_eq_self.mpr hall] at hk
  intro k hk'
  simpa only [Nat.mod_eq_of_lt hk'] using hk k hk'

/-- Two groups, both of which open on `groupNet`. -/
def twoGroups : List String := ["239.0.0.1:5000", "239.0.0.2:5000"]

theorem twoGroups_aligned :
    ∃ w', World.init.newStreamHub twoGroups [] groupNet = .ok (.ok (w', 0)) ∧
      (∀ a ∈ twoGroups, opens groupNet [] a = true) ∧
      ∀ k < twoGroups.length, (w'.sock (World.init.socks.length + k)).addr = twoGroups.getD k "" ∧
        w'.task (World.init.tasks.length + 1 + k) =
          .readLoop 0 (World.init.socks.length + k) (twoGroups.getD k "") .start :=
  have hall : ∀ a ∈ twoGroups, opens groupNet [] a = true := by decide
  ⟨_, rfl, hall, World.newStreamHub_aligned (by exact rfl) hall⟩

/-- A network on which `bad:1` does not resolve, and `239.0.0.2:5000` resolves and binds. -/
def unresolvedNet : Net :=
  ⟨fun a => if a = "239.0.0.2:5000" then .ok ⟨[239, 0, 0, 2], 5000⟩ else .error "no such host",
    .ok, fun _ _ => .ok (), fun _ => .ok ()⟩

/-- A network on which both groups resolve, and only `239.0.0.2` binds. -/
def unboundNet : Net :=
  ⟨fun a => .ok ⟨if a = "239.0.0.1:5000" then [239, 0, 0, 1] else [239, 0, 0, 2], 5000⟩, .ok,
    fun _ a => if a.ip = [239, 0, 0, 1] then .error "bind" else .ok (),
    fun a => if a.ip = [239, 0, 0, 1] then .error "bind" else .ok ()⟩

theorem readLoop_misaligned (md5Hex : String → String) :
    (∃ w, Reachable md5Hex w ∧ (w.hub 0).addrList = ["bad:1", "239.0.0.2:5000"] ∧
      (w.hub 0).udpConns = [0] ∧ (w.sock 0).addr = "239.0.0.2:5000" ∧
      w.task 1 = .readLoop 0 0 "bad:1" .start ∧
      step md5Hex w (.step 1 (.net unresolvedNet)) = some (w.fail .nilDereference)) ∧
    (∃ w, Reachable md5Hex w ∧ (w.hub 0).addrList = ["239.0.0.1:5000", "239.0.0.2:5000"] ∧
      (w.hub 0).udpConns = [0] ∧ (w.sock 0).addr = "239.0.0.2:5000" ∧
      w.task 1 = .readLoop 0 0 "239.0.0.1:5000" (.read [239, 0, 0, 1]) ∧
      step md5Hex w (.step 1 (.datagram [0x47] (some [239, 0, 0, 2]))) =
        some (w.setTask 1 (.readLoop 0 0 "239.0.0.1:5000" (.loop [239, 0, 0, 1])))) :=
  ⟨⟨_, @reachable_run_getD md5Hex
      [.newStreamHub ["bad:1", "239.0.0.2:5000"] [] unresolvedNet] rfl,
      rfl, rfl, rfl, rfl, rfl⟩,
    ⟨_, @reachable_run_getD md5Hex
      [.newStreamHub ["239.0.0.1:5000", "239.0.0.2:5000"] [] unboundNet,
        .step 1 (.net unboundNet), .step 1 .go] rfl, rfl, rfl, rfl, rfl, rfl⟩⟩

end TvGate.Stream
