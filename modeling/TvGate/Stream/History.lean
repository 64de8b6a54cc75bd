import Mathlib.Data.List.GetD
import TvGate.Stream.System

/-!
# What a closed hub is still used for

`Close` sets a hub's flag for good and sets its ring and table to nil, and a second
`Close` changes nothing (`close_idempotent`). Three of the package's intended properties
are about what follows, and the code breaks all three: a closed hub's nil ring and table
are still used, a hub whose `Closed` has been signalled gets its sockets reopened and its
table back, and a client is sent a frame twice, the newer one first.

## Main results

* `closed_hub_nil_state_used`, `closed_hub_reopened`, `client_sent_frame_twice` — the
  traces that break them.
-/

namespace TvGate.Stream

open Go

/-! ## `Close` is idempotent -/

/-- A second `Close` of a hub changes nothing: the first one left it closed. -/
theorem close_idempotent {w w' : World} {h : Nat} (hc : w.close h = .ok w') :
    w'.close h = .ok w' := by
  unfold World.close at hc
  dsimp only at hc
  split at hc
  · cases hc
    unfold World.close
    rw [if_pos ‹_›]
    rfl
  · obtain ⟨_, -, hc⟩ := bind_eq_ok hc
    obtain ⟨_, hidx, hc⟩ := bind_eq_ok hc
    cases hc
    have hl : h < w.hubs.length := by
      by_contra hl
      rw [World.hub, List.getD_eq_default _ _ (Nat.le_of_not_lt hl)] at hidx
      cases hidx
    unfold World.close
    rw [if_pos (by simp [World.hub, hl])]
    rfl

/-! ## What a closed hub is still used for

`Close` keeps its flag for good, but the ring and the table it sets to nil are still read
and written: by a priming goroutine whose client was attached and detached before it ran,
and by `run` taking an `AddCh` message that was pending when the hub was closed from
outside. `UpdateInterfaces` and `TransferClientsTo` never look at the flag: the first
reopens a closed hub's sockets and starts a receive loop on them, the second gives a
closed target a table and a ring. -/

/-- A client attaches and detaches, and `run` reaps the emptied hub, before the priming
goroutine (goroutine 3) takes the lock. -/
def attachDetachReap : List Action :=
  [.newStreamHub ["239.0.0.1:5000"] [] groupNet, .serveHTTP 0 "A" "" "video/mp2t" 0, .step 2 .go,
    .step 0 .add, .step 2 (.flushable false), .step 2 .go, .step 0 .remove, .step 0 .go]

/-- A client's attach is pending on `AddCh` when the hub is closed from outside. -/
def addAfterClose : List Action :=
  [.newStreamHub ["239.0.0.1:5000"] [] groupNet, .serveHTTP 0 "A" "" "video/mp2t" 0, .step 2 .go,
    .close 0]

theorem closed_hub_nil_state_used (md5Hex : String → String) :
    (∃ w t h ch, Reachable md5Hex w ∧ w.task t = .prime h ch .snapshot ∧
      (w.hub h).closed = true ∧ (w.hub h).cacheBuffer = none ∧
      step md5Hex w (.step t .go) = some (w.fail .nilDereference)) ∧
    (∃ w t h, Reachable md5Hex w ∧ w.task t = .run h .select ∧
      (w.hub h).closed = true ∧ (w.hub h).clients = none ∧
      step md5Hex w (.step t .add) = some (w.fail .nilMapAssignment)) :=
  ⟨⟨_, 3, 0, 0, @reachable_run_getD md5Hex attachDetachReap rfl, rfl, rfl, rfl, rfl⟩,
    ⟨_, 0, 0, @reachable_run_getD md5Hex addAfterClose rfl, rfl, rfl, rfl, rfl⟩⟩

/-- Hub 0 is made and closed. -/
def closedHub : List Action :=
  [.newStreamHub ["239.0.0.1:5000"] [] groupNet, .close 0]

/-- Hubs 0 and 1 are made, and hub 1 is closed. -/
def closedTarget : List Action :=
  [.newStreamHub ["239.0.0.1:5000"] [] groupNet, .newStreamHub ["239.0.0.2:5000"] [] groupNet,
    .close 1]

theorem closed_hub_reopened (md5Hex : String → String) :
    (∃ w w', Reachable md5Hex w ∧ (w.hub 0).closed = true ∧ (w.hub 0).udpConns = [] ∧
      step md5Hex w (.updateInterfaces 0 ["eth0"] groupNet) = some w' ∧
      (w'.hub 0).closed = true ∧ (w'.hub 0).udpConns = [1] ∧
      w'.task 2 = .readLoop 0 1 "239.0.0.1:5000" .start) ∧
    (∃ w w', Reachable md5Hex w ∧ (w.hub 1).closed = true ∧ (w.hub 1).clients = none ∧
      (w.hub 1).cacheBuffer = none ∧ step md5Hex w (.transferClientsTo 0 1) = some w' ∧
      (w'.hub 1).closed = true ∧ (w'.hub 1).clients.isSome = true ∧
      (w'.hub 1).cacheBuffer.isSome = true) :=
  ⟨⟨_, _, @reachable_run_getD md5Hex closedHub rfl, rfl, rfl, rfl, rfl, rfl, rfl⟩,
    ⟨_, _, @reachable_run_getD md5Hex closedTarget rfl, rfl, rfl, rfl, rfl, rfl, rfl, rfl⟩⟩

/-! ## Delivery order

A client's queue is sent the ring's snapshot by its priming goroutine and live frames by
the receive loop, with nothing ordering the two. -/

/-- Frame 0 is broadcast to no one; client `B` attaches; frame 1 is broadcast to `B`; only
then does `B`'s priming goroutine snapshot the ring and send both. -/
def primedLate : List Action :=
  [.newStreamHub ["239.0.0.1:5000"] [] groupNet,
    .step 1 (.net groupNet), .step 1 .go, .step 1 (.datagram [0x47] none), .step 1 .go,
    .step 1 .go, .serveHTTP 0 "B" "" "video/mp2t" 0, .step 2 .go, .step 0 .add,
    .step 1 .go, .step 1 .go, .step 1 (.datagram [0x47] none), .step 1 .go, .step 1 .go,
    .step 1 (.client 0), .step 3 .go, .step 3 .go, .step 3 .go, .step 3 .go, .step 3 .go]

theorem client_sent_frame_twice (md5Hex : String → String) :
    ∃ w, Reachable md5Hex w ∧ w.hubs.length = 1 ∧ w.socks.length = 1 ∧
      w.snapshot 0 = .ok [.mk 0 [0x47], .mk 1 [0x47]] ∧
      (w.chan 0).sent = [.mk 1 [0x47], .mk 0 [0x47], .mk 1 [0x47]] :=
  ⟨_, @reachable_run_getD md5Hex primedLate rfl, rfl, rfl, rfl, rfl⟩

end TvGate.Stream
