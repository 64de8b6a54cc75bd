import TvGate.Stream.System

/-!
# Moving a hub's clients to another hub

`h.TransferClientsTo(newHub)` copies `h`'s ring onto `newHub`'s, inserts `h`'s clients into
`newHub`'s table, sends each the old ring and `LastFrame`, and empties `h`'s table. The ring
and the tables come out as the spec says, with one difference: a connection id both hubs
have ends up naming `h`'s client, and `newHub`'s own is dropped without its queue being
closed.

What does not move is the session: `ServeHTTP` keeps the hub it attached to, so a moved
session's detach goes to `h`'s `RemoveCh`, where `run` finds nothing to delete, and
`newHub` keeps the entry and the open queue.

## Main results

* `World.transferClientsTo_spec` — what a transfer that does not panic leaves.
* `World.transferClientsTo_clients` — the two tables after it.
* `World.transferClientsTo_snapshot` — the new hub's snapshot after it.
* `transferred_detach_misses_new_hub` — a moved session leaves, its old hub is reaped, and
  the new hub still holds it.
-/

namespace TvGate.Stream

open Go

/-- The loop of `TransferClientsTo` inserts the old hub's clients over the new table: a
connection id the old hub has reads the old hub's client, every other what it read. -/
theorem transferEach_get {src : StreamHub} {ring : RingBuffer Frame} :
    ∀ {es : List (Sigma fun _ : String => HubClient)} {m m' : GoMap String HubClient}
      {chans chans' : List (Chan Frame)}, es.NodupKeys →
      World.transferEach src ring es m chans = .ok (m', chans') →
      ∀ k, m'.get k = (es.dlookup k).or (m.get k)
  | [], _, _, _, _, _, ht, _ => by cases ht; rfl
  | ⟨c, v⟩ :: rest, m, m', chans, chans', hnd, ht, k => by
    obtain ⟨m₁, hm₁, ht⟩ := bind_eq_ok ht
    obtain ⟨_, -, ht⟩ := bind_eq_ok ht
    obtain ⟨_, -, ht⟩ := bind_eq_ok ht
    obtain ⟨_, ht⟩ : ∃ c, World.transferEach src ring rest m₁ c = .ok (m', chans') := by
      dsimp only at ht
      split at ht
      · obtain ⟨c, -, ht⟩ := bind_eq_ok ht; exact ⟨c, ht⟩
      · exact ⟨_, ht⟩
    rw [transferEach_get (List.nodupKeys_cons.mp hnd).2 ht k, GoMap.get_set hm₁]
    by_cases hk : k = c
    · subst hk
      rw [List.dlookup_eq_none.mpr (List.not_mem_keys_of_nodupKeys_cons hnd), if_pos rfl,
        List.dlookup_cons_eq]
      rfl
    · rw [if_neg hk, List.dlookup_cons_ne _ _ hk]

/-- What `TransferClientsTo` leaves when it does not panic: the new hub gets the loop's table
and the old ring's snapshot pushed onto its ring, and the old hub an empty table. -/
theorem World.transferClientsTo_spec {w w' : World} {h n : Nat}
    (ht : w.transferClientsTo h n = .ok w') :
    ∃ (dstRing srcRing dstRing' : RingBuffer Frame) (frames : List Frame)
      (dstClients : GoMap String HubClient) (chans : List (Chan Frame)),
      (w.hub n).ringOr (w.hub h) = .ok dstRing ∧ (w.hub h).ring = .ok srcRing ∧
      srcRing.getAll = .ok frames ∧ frames.foldlM (fun r f => r.push f) dstRing = .ok dstRing' ∧
      transferEach (w.hub h) srcRing (w.hub h).clients.entries
        (if (w.hub n).clients.isNone then GoMap.empty else (w.hub n).clients) w.chans =
          .ok (dstClients, chans) ∧
      w' = { (w.setHub n { w.hub n with clients := dstClients, cacheBuffer := some dstRing' }
        ).setHub h { w.hub h with clients := GoMap.empty } with chans } := by
  unfold transferClientsTo at ht
  obtain ⟨dstRing, h₁, ht⟩ := bind_eq_ok ht
  obtain ⟨srcRing, h₂, ht⟩ := bind_eq_ok ht
  obtain ⟨frames, h₃, ht⟩ := bind_eq_ok ht
  obtain ⟨dstRing', h₄, ht⟩ := bind_eq_ok ht
  obtain ⟨⟨dstClients, chans⟩, h₅, ht⟩ := bind_eq_ok ht
  cases ht
  exact ⟨dstRing, srcRing, dstRing', frames, dstClients, chans, h₁, h₂, h₃, h₄, h₅,
    rfl⟩

/-- The tables after `TransferClientsTo` between two hubs: the old one is empty, and the new
one answers the old hub's client for a connection id the old hub had, displacing its own,
and its own client for every other. -/
theorem World.transferClientsTo_clients {w w' : World} {h n : Nat} (hne : h ≠ n)
    (hh : h < w.hubs.length) (hn : n < w.hubs.length) (ht : w.transferClientsTo h n = .ok w') :
    (w'.hub h).clients = GoMap.empty ∧
      ∀ k, (w'.hub n).clients.get k = ((w.hub h).clients.get k).or ((w.hub n).clients.get k) := by
  obtain ⟨_, _, _, _, _, _, -, -, -, -, hte, rfl⟩ := transferClientsTo_spec ht
  refine ⟨?_, fun k => ?_⟩
  · show (((w.setHub n _).setHub h _).hub h).clients = _
    rw [hub_setHub_self _ (by simpa using hh)]
  · show (((w.setHub n _).setHub h _).hub n).clients.get k = _
    rw [hub_setHub_ne _ hne, hub_setHub_self _ hn, transferEach_get (GoMap.nodupKeys_entries _) hte,
      ← GoMap.get_eq_dlookup]
    cases (w.hub n).clients <;> rfl

/-- The last `n` of `a ++ b` are the last `n` of the last `n` of `a` followed by `b`. -/
theorem drop_length_sub_append {α : Type} (a b : List α) (n : Nat) :
    (a ++ b).drop ((a ++ b).length - n) =
      (a.drop (a.length - n) ++ b).drop ((a.drop (a.length - n) ++ b).length - n) := by
  simp only [List.length_append, List.length_drop]
  rw [show a.length + b.length - n = (a.length - n) + (a.length - (a.length - n) + b.length - n)
    by omega, ← List.drop_drop, List.drop_append_of_le_length (by omega)]

/-- The new hub's ring after `TransferClientsTo`: the old hub's snapshot pushed onto its own,
so that its snapshot is the last `N` of its old snapshot followed by the old hub's. -/
theorem World.transferClientsTo_snapshot {w w' : World} {h n : Nat} (hne : h ≠ n)
    (hn : n < w.hubs.length) (ht : w.transferClientsTo h n = .ok w')
    {rd rs : RingBuffer Frame} {d s : List Frame} (hd : (w.hub n).cacheBuffer = some rd)
    (hrd : rd.Holds d) (hs : (w.hub h).cacheBuffer = some rs) (hrs : rs.Holds s) :
    ∃ a b, w.snapshot n = .ok a ∧ w.snapshot h = .ok b ∧
      w'.snapshot n = .ok ((a ++ b).drop ((a ++ b).length - rd.size.toNat)) := by
  obtain ⟨dstRing, srcRing, dstRing', frames, _, _, h₁, h₂, h₃, h₄, -, rfl⟩ :=
    transferClientsTo_spec ht
  simp only [StreamHub.ringOr, StreamHub.ring, hd, hs] at h₁ h₂
  cases h₁; cases h₂
  rw [hrs.getAll_eq] at h₃
  cases h₃
  obtain ⟨r', hr', hsize, hh'⟩ := hrd.pushAll (s.drop (s.length - rs.size.toNat))
  rw [h₄] at hr'
  cases hr'
  refine ⟨_, _, by simp [snapshot, StreamHub.ring, hd, hrd.getAll_eq]; rfl,
    by simp [snapshot, StreamHub.ring, hs, hrs.getAll_eq]; rfl, ?_⟩
  show (do let r ← (((w.setHub n _).setHub h _).hub n).ring; r.getAll) = _
  rw [hub_setHub_ne _ hne, hub_setHub_self _ hn]
  refine hh'.getAll_eq.trans ?_
  rw [hsize, drop_length_sub_append]

/-- Sessions with connection id `X` on hubs 0 and 1; hub 0's clients move to hub 1. -/
def transferTwoX : List Action :=
  [.newStreamHub ["239.0.0.1:5000"] [] groupNet, .newStreamHub ["239.0.0.2:5000"] [] groupNet,
    .serveHTTP 0 "X" "" "video/mp2t" 0, .serveHTTP 1 "X" "" "video/mp2t" 0,
    .step 4 .go, .step 5 .go, .step 0 .add, .step 2 .add,
    .step 4 (.flushable true), .step 4 .go]

/-- The moved session leaves, and hub 0's control loop reaps hub 0. -/
def detachMoved : List Action :=
  [.step 4 .cancel, .step 4 .go, .step 0 .remove, .step 0 .go]

/-- The worlds before the transfer, after it, and after the moved session's detach and hub
0's reaping, along one run. -/
theorem transferred_detach_misses_new_hub (md5Hex : String → String) :
    ∃ w₀ w₁ w : World, w₀ = (run md5Hex World.init transferTwoX).getD World.init ∧
      w₁ = (run md5Hex World.init (transferTwoX ++ [.transferClientsTo 0 1])).getD World.init ∧
      w = (run md5Hex World.init
        (transferTwoX ++ .transferClientsTo 0 1 :: detachMoved)).getD World.init ∧
      Reachable md5Hex w ∧
      (w₀.hub 1).clients.get "X" = some ⟨1, "X"⟩ ∧
      (w₁.hub 1).clients.get "X" = some ⟨0, "X"⟩ ∧
      (w₁.hub 1).clients.values = [⟨0, "X"⟩] ∧
      (w₁.chan 1).closed = false ∧
      (∃ s, w.task 4 = .serve s ∧ s.hub = 0 ∧ s.ch = 0 ∧ s.pc = .done) ∧
      (w.hub 0).closed = true ∧ (w.hub 1).closed = false ∧
      (w.hub 1).clients.get "X" = some ⟨0, "X"⟩ ∧ (w.chan 0).closed = false :=
  ⟨_, _, _, rfl, rfl, rfl, reachable_run_getD rfl, rfl, rfl, rfl, rfl, ⟨_, rfl, rfl, rfl, rfl⟩,
    rfl, rfl, rfl, rfl⟩

end TvGate.Stream
