import TvGate.Stream.System

/-!
# The registry of hubs

`MultiChannelHub.Hubs` maps `HubKey(udpAddr, ifaces)`, an MD5 digest, to a hub. Read
through the digest it is a plain map (`Registry.lookup_insert`, `Registry.lookup_erase`):
an insert overwrites whatever the digest named, and an erase forgets it.

`GetOrCreateHub` looks the key up under the read lock and inserts under the write lock, in
two critical sections, and `RemoveHubEx` erases by key without looking at the hub the key
names. Alone, a call on a registered live hub returns it (`getOrCreateHub_live_hub`);
interleaved, two racing calls for one key return two live hubs, and a hub's reaper closes
the hub that replaced it.

The registry is kept as the writes made to it, newest first, so that no write needs the
digest function: only reads compare digests.

## Main results

* `Registry.lookup_insert`, `Registry.lookup_erase` — the registry as a map from digests.
* `World.removeHubLocked_spec` — what `RemoveHubEx`'s section finds and leaves.
* `racing_calls_two_hubs`, `reaper_closes_replacement` — the two races.
* `hubKey_shared` — two channels with one key.
-/

namespace TvGate.Stream

namespace Registry

variable (md5Hex : String → String)

/-- `same` compares digests. -/
theorem same_eq (a b : String) : same md5Hex a b = decide (md5Hex a = md5Hex b) :=
  Bool.eq_iff_iff.mpr ((same_iff md5Hex a b).trans decide_eq_true_iff.symm)

/-- The newest write decides: a read of `k'` after a write of `k` sees that write when the
digests agree, and what it saw before otherwise. -/
theorem lookup_cons (r : Registry) (k k' : String) (v : Option Nat) :
    (⟨(k, v) :: r.writes⟩ : Registry).lookup md5Hex k' =
      if md5Hex k' = md5Hex k then v else r.lookup md5Hex k' := by
  unfold lookup
  rw [List.find?_cons, same_eq]
  by_cases h : md5Hex k = md5Hex k'
  · simp [h]
  · simp [h, Ne.symm h]

/-- `m.Hubs[key] = hub`, read through the digest: `hub` under `key`'s digest, the old
value under every other. -/
theorem lookup_insert (r : Registry) (k : String) (hub : Nat) (k' : String) :
    (r.insert k hub).lookup md5Hex k' =
      if md5Hex k' = md5Hex k then some hub else r.lookup md5Hex k' :=
  lookup_cons md5Hex r k k' _

/-- `delete(m.Hubs, key)`, read through the digest: nothing under `key`'s digest, the old
value under every other. -/
theorem lookup_erase (r : Registry) (k k' : String) :
    (r.erase k).lookup md5Hex k' = if md5Hex k' = md5Hex k then none else r.lookup md5Hex k' :=
  lookup_cons md5Hex r k k' _

/-- Keys with one digest read the same entry. -/
theorem lookup_congr (r : Registry) {k k' : String} (h : md5Hex k = md5Hex k') :
    r.lookup md5Hex k = r.lookup md5Hex k' := by
  simp only [lookup, same_eq, h]

end Registry

/-- `RemoveHubEx`'s section under the write lock: it finds whatever hub the key names, and
leaves the registry without the key's digest. Which hub's reaper asked is not an
argument. -/
theorem World.removeHubLocked_spec (w : World) (md5Hex : String → String) (udpAddr : String)
    (ifaces : List String) :
    (w.removeHubLocked md5Hex udpAddr ifaces).2 =
        w.registry.lookup md5Hex (hubKeyString udpAddr ifaces) ∧
      ∀ k, (w.removeHubLocked md5Hex udpAddr ifaces).1.registry.lookup md5Hex k =
        if md5Hex k = hubKey md5Hex udpAddr ifaces then none else w.registry.lookup md5Hex k := by
  unfold World.removeHubLocked
  dsimp only
  split
  · rename_i heq
    exact ⟨heq.symm, Registry.lookup_erase md5Hex _ _⟩
  · rename_i heq
    refine ⟨heq.symm, fun k => ?_⟩
    split
    · rename_i hk
      rw [Registry.lookup_congr md5Hex _ hk]
      exact heq
    · rfl

/-! ## The fast path

With no other goroutine in between, the lookup and the `IsClosed` check of a call agree: a
key that names a live hub is answered with that hub. -/

/-- `GetOrCreateHub` on a key the registry maps to an unclosed hub returns that hub, in the
call's own two steps, and leaves the registry and the hubs as they were. -/
theorem getOrCreateHub_live_hub {md5Hex : String → String} {w : World} {udpAddr : String}
    {ifaces : List String} {h : Nat} (hp : w.panic = none)
    (hl : w.registry.lookup md5Hex (hubKeyString udpAddr ifaces) = some h)
    (hc : (w.hub h).closed = false) :
    ∃ w', run md5Hex w [.getOrCreateHub udpAddr ifaces, .step w.tasks.length .go] = some w' ∧
      w'.task w.tasks.length = .call udpAddr ifaces (.returned (.ok h)) ∧
      w'.registry = w.registry ∧ w'.hubs = w.hubs := by
  refine ⟨(w.spawn (.call udpAddr ifaces (.checkClosed h))).setTask w.tasks.length
    (.call udpAddr ifaces (.returned (.ok h))), ?_, ?_, rfl, rfl⟩
  · have hs : ((w.spawn (.call udpAddr ifaces (.checkClosed h))).hub h).closed = false := hc
    simp [run, step, stepAction, stepCall, hp, hl, hs, World.task]
  · simp [World.task]

/-! ## Two races -/

/-- Two calls for one key both miss before either inserts. -/
def racingCalls : List Action :=
  [.getOrCreateHub "239.0.0.1:5000" [], .getOrCreateHub "239.0.0.1:5000" [],
    .step 0 (.net groupNet), .step 1 (.net groupNet), .step 0 .go, .step 1 .go]

theorem racing_calls_two_hubs (md5Hex : String → String) :
    ∃ w t₁ t₂ h₁ h₂, Reachable md5Hex w ∧
      w.task t₁ = .call "239.0.0.1:5000" [] (.returned (.ok h₁)) ∧
      w.task t₂ = .call "239.0.0.1:5000" [] (.returned (.ok h₂)) ∧ h₁ ≠ h₂ ∧
      (w.hub h₁).closed = false ∧ (w.hub h₂).closed = false ∧
      w.registry.lookup md5Hex (hubKeyString "239.0.0.1:5000" []) = some h₂ :=
  ⟨_, 0, 1, 0, 1, @reachable_run_getD md5Hex racingCalls rfl, rfl, rfl, by decide, rfl, rfl,
    rfl⟩

/-- Hub 0's only client leaves and `run` closes it; before its `OnEmpty` runs, a call finds
it closed and registers hub 1, which a client joins. -/
def reapRace : List Action :=
  [.getOrCreateHub "239.0.0.1:5000" [], .step 0 (.net groupNet), .step 0 .go,
    .serveHTTP 0 "X" "" "video/mp2t" 0, .step 3 .go, .step 1 .add, .step 3 (.flushable false),
    .step 3 .go, .step 1 .remove, .step 1 .go,
    .getOrCreateHub "239.0.0.1:5000" [], .step 5 .go, .step 5 (.net groupNet), .step 5 .go,
    .serveHTTP 1 "Y" "" "video/mp2t" 0, .step 8 .go, .step 6 .add, .step 8 (.flushable true),
    .step 8 .go, .step 1 .go]

theorem reaper_closes_replacement (md5Hex : String → String) :
    ∃ w t h h', Reachable md5Hex w ∧ w.task t = .run h (.closeRemoved h') ∧ h ≠ h' ∧
      w.task 5 = .call "239.0.0.1:5000" [] (.returned (.ok h')) ∧
      (w.hub h').closed = false ∧ (w.hub h').clients.get "Y" = some ⟨1, "Y"⟩ ∧
      w.registry.lookup md5Hex (hubKeyString "239.0.0.1:5000" []) = none ∧
      ∃ w', step md5Hex w (.step t .go) = some w' ∧ (w'.hub h').closed = true :=
  ⟨_, 1, 0, 1, @reachable_run_getD md5Hex reapRace rfl, rfl, by decide, rfl, rfl, rfl, rfl,
    _, rfl, rfl⟩

/-! ## Keys that name two channels

`HubKey` joins the interfaces with `,` after an `@`, and neither separator is escaped: an
interface whose name has a comma (Linux allows one), or an address with an `@`, gives the
key of another channel. The registry then answers a call for one channel with the other
channel's hub. -/

/-- A call for the interfaces `eth0` and `eth1`, then one for an interface named
`eth0,eth1`. -/
def sharedKeyCalls : List Action :=
  [.getOrCreateHub "239.0.0.1:5000" ["eth0", "eth1"], .step 0 (.net groupNet), .step 0 .go,
    .getOrCreateHub "239.0.0.1:5000" ["eth0,eth1"], .step 3 .go]

theorem hubKey_shared (md5Hex : String → String) :
    hubKey md5Hex "239.0.0.1:5000" ["eth0", "eth1"] =
        hubKey md5Hex "239.0.0.1:5000" ["eth0,eth1"] ∧
      hubKey md5Hex "239.0.0.1:5000@eth0" [] = hubKey md5Hex "239.0.0.1:5000" ["eth0"] ∧
      ∃ w, run md5Hex World.init sharedKeyCalls = some w ∧
        w.task 0 = .call "239.0.0.1:5000" ["eth0", "eth1"] (.returned (.ok 0)) ∧
        w.task 3 = .call "239.0.0.1:5000" ["eth0,eth1"] (.returned (.ok 0)) :=
  ⟨rfl, rfl, _, rfl, rfl, rfl⟩

end TvGate.Stream
