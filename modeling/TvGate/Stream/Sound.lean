import TvGate.Stream.Counters
import TvGate.Stream.History
import TvGate.Stream.Queues
import TvGate.Stream.Transfer

/-!
# What a run never does

Go checks every index, slice bound, `make` length and divisor at run time, and a goroutine
that fails one panics the process. This module finds one invariant, `Sound`, that every step
of the system keeps, and reads the properties of every run below off it.

* No bounds check ever fails and, with `queueInv_of_reachable`, no channel is closed twice:
  a reachable panic is a nil dereference, an assignment into a nil map or a send on a
  closed channel (`reachable_panic`).
  Within it, a hub's frame cache keeps `cacheFrames` slots, so its `Push` and `GetAll`
  return (`reachable_ring`).
* A hub the registry maps a key to was built for that key, so the `RemoveHubEx` its
  `OnEmpty` makes deletes the entry it was registered under (`registered_hub_key`).
* A socket is open exactly when one hub holds it (`reachable_socket_owner`), it was opened
  for one of that hub's addresses on a multicast group (`reachable_socket_bound`), a receive
  loop reads only a socket of its own hub (`reachable_readLoop_socket`), and a hub closed
  before its sockets were swapped in keeps holding them (`closed_hub_holds_socket`).
* A `ServeHTTP` call's `bufferedBytes` is the size of what it wrote since its last flush, and
  a flush tick flushes it all (`reachable_buffered`); what it wrote and has queued is, in
  order, what was sent to its queue (`reachable_served_in_order`).
* `TransferClientsTo` moves the table and the frame cache as its loops say
  (`reachable_transferClientsTo`).

A critical section runs several world updates before its state is seen, so the invariant is
carried through it by `Follows w₀ w`: `w` is sound, and `Keeps` what `w₀` had. There is one
lemma per world update and one per section; the step lemmas then go through the branches of
`ActionStep` and of each goroutine's step relation.

## Main definitions

* `Sound` — the invariant of every reachable state.
* `Keeps` — what no step undoes: hub addresses and callbacks, closed hubs holding sockets, what a queue
  delivered (`ChansExtend`) and which hub holds an open socket (`SocksKept`).
* `Follows` — `Sound`, with what a section keeps of the hubs it started from.
-/

namespace TvGate.Stream

open Go World

/-! ## Client queues -/

/-- Every channel of `l'` extends the same channel of `l`, and `l'` has no fewer. -/
def ChansExtend (l l' : List (Chan Frame)) : Prop :=
  l.length ≤ l'.length ∧ ∀ j, (l.getD j default).Extends (l'.getD j default)

namespace ChansExtend

variable {l l₁ l₂ : List (Chan Frame)}

protected theorem rfl : ChansExtend l l := ⟨le_rfl, fun _ => .rfl⟩

theorem trans (h₁ : ChansExtend l l₁) (h₂ : ChansExtend l₁ l₂) : ChansExtend l l₂ :=
  ⟨h₁.1.trans h₂.1, fun j => (h₁.2 j).trans (h₂.2 j)⟩

theorem set {i : Nat} {ch : Chan Frame} (h : (l.getD i default).Extends ch) :
    ChansExtend l (l.set i ch) := by
  refine ⟨(List.length_set ..).ge, fun j => ?_⟩
  by_cases hij : i = j
  · subst hij
    by_cases hl : i < l.length
    · simpa [hl] using h
    · rw [List.set_eq_of_length_le (Nat.le_of_not_lt hl)]; exact .rfl
  · rw [getD_set_ne _ hij]; exact .rfl

/-- A new channel: nothing queued, nothing sent. -/
theorem append (cap : Nat) : ChansExtend l (l ++ [Chan.make cap]) := by
  refine ⟨by simp, fun j => ?_⟩
  by_cases hj : j < l.length
  · rw [List.getD_append _ _ _ _ hj]; exact .rfl
  · rw [List.getD_eq_default _ _ (Nat.le_of_not_lt hj)]
    rcases Nat.eq_or_lt_of_le (Nat.le_of_not_lt hj) with rfl | hj
    · simpa using Chan.Extends.rfl
    · rw [List.getD_eq_default _ _ (by simpa using hj)]; exact .rfl

end ChansExtend

theorem chansExtend_trySendTo {chans chans' : List (Chan Frame)} {c : Nat} {f : Frame}
    (h : trySendTo chans c f = .ok chans') : ChansExtend chans chans' := by
  obtain ⟨r, hr, h⟩ := bind_eq_ok h
  cases r with
  | none => cases h; exact .rfl
  | some ch => cases h; exact .set (.trySend hr)

theorem chansExtend_sendFrames {c : Nat} :
    ∀ {chans chans' : List (Chan Frame)} {frames : List Frame},
      sendFrames chans c frames = .ok chans' → ChansExtend chans chans'
  | _, _, [], h => by cases h; exact .rfl
  | _, _, _ :: _, h => by
    obtain ⟨_, h₁, h₂⟩ := bind_eq_ok h
    exact (chansExtend_trySendTo h₁).trans (chansExtend_sendFrames h₂)

theorem chansExtend_closeChans :
    ∀ {chans chans' : List (Chan Frame)} {l : List Nat},
      closeChans chans l = .ok chans' → ChansExtend chans chans'
  | _, _, [], h => by cases h; exact .rfl
  | _, _, _ :: _, h => by
    obtain ⟨_, hch, h⟩ := bind_eq_ok h
    exact (ChansExtend.set (.close hch)).trans (chansExtend_closeChans h)

theorem chansExtend_transferEach {src : StreamHub} {ring : RingBuffer Frame} :
    ∀ {es : List (Sigma fun _ : String => HubClient)} {m m' : GoMap String HubClient}
      {chans chans' : List (Chan Frame)}, World.transferEach src ring es m chans = .ok (m', chans') →
      ChansExtend chans chans'
  | [], _, _, _, _, h => by cases h; exact .rfl
  | _ :: _, _, _, _, _, h => by
    obtain ⟨_, -, h⟩ := bind_eq_ok h
    obtain ⟨_, -, h⟩ := bind_eq_ok h
    obtain ⟨_, hsend, h⟩ := bind_eq_ok h
    dsimp only at h
    split at h
    · obtain ⟨_, hsend₂, h⟩ := bind_eq_ok h
      exact (chansExtend_sendFrames hsend).trans ((chansExtend_trySendTo hsend₂).trans
        (chansExtend_transferEach h))
    · exact (chansExtend_sendFrames hsend).trans (chansExtend_transferEach h)

/-! ## The invariant -/

/-- A ring as `NewRingBuffer(8192)` made it and pushes kept it: `cacheFrames` slots that hold
the last of the frames pushed into it. -/
def RingBuffer.Ok (r : RingBuffer Frame) : Prop := r.size = cacheFrames ∧ ∃ items, r.Holds items

/-- A hub's ring, if it has one, is `Ok`. -/
def StreamHub.RingOk (hub : StreamHub) : Prop := ∀ r, hub.cacheBuffer = some r → r.Ok

/-- `hub` is one that `GetOrCreateHub(udpAddr, ifaces)` made for the key string `k`: its
addresses are `[udpAddr]` and its `OnEmpty` captured `ifaces`. -/
def StreamHub.BuiltFor (hub : StreamHub) (k : String) : Prop :=
  ∃ udpAddr ifaces, k = hubKeyString udpAddr ifaces ∧ hub.addrList = [udpAddr] ∧
    hub.onEmpty = some ifaces

/-- `ServeHTTP`'s serve loop: `bufferedBytes` is the size of the frames written since the last
flush, below `maxBufferSize`; nothing is written before the loop. -/
def Session.Buffered (s : Session) : Prop :=
  s.flushed ≤ s.body.length ∧
    match s.pc with
    | .serving b => b = ((s.body.drop s.flushed).map Frame.len).sum ∧ b < maxBufferSize
    | .attach | .headers | .waiting | .waitLoop => s.body = []
    | .detach | .done => True

/-- What a goroutine holds of the hubs. A control loop's hub, and a hub `RemoveHubEx` took
out of the registry to close, were made by `NewStreamHub`, which refuses an empty address
list; a hub a call is about to register was built for its key. A `ServeHTTP` call counts its
unflushed bytes, and what it wrote, then what is still queued for it, was sent on its queue in
that order. A receive loop's socket, while open, is held by its hub. (A hub number past the
end of the list reads as the default hub, whose address list is empty.) -/
def Task.Ok (w : World) : Task → Prop
  | .run h pc => (w.hub h).addrList ≠ [] ∧ ∀ h', pc = .closeRemoved h' → (w.hub h').addrList ≠ []
  | .readLoop h s _ _ => s < w.socks.length ∧ ((w.sock s).closed = false → s ∈ (w.hub h).udpConns)
  | .closeRemoved h => (w.hub h).addrList ≠ []
  | .call udpAddr ifaces pc =>
    ∀ i, pc = .insert i → (w.hub i).BuiltFor (hubKeyString udpAddr ifaces)
  | .serve s => s.Buffered ∧ s.ch < w.chans.length ∧
    (s.body ++ (w.chan s.ch).buf).Sublist (w.chan s.ch).sent
  | _ => True

/-- Every socket is held by the hubs: it is open exactly when a hub holds it in `UdpConns`, and
no two hubs hold it. A hub holds only sockets opened for one of its addresses, on a multicast
group. -/
structure SocksHeld (w : World) : Prop where
  open_iff : ∀ s, (w.sock s).closed = false ↔ ∃ i, s ∈ (w.hub i).udpConns
  owner : ∀ i j s, s ∈ (w.hub i).udpConns → s ∈ (w.hub j).udpConns → i = j
  bound : ∀ i s, s ∈ (w.hub i).udpConns →
    (w.sock s).addr ∈ (w.hub i).addrList ∧ isMulticast (w.sock s).udpAddr.ip = true

/-- The invariant of every reachable state. Every ring is sound; every hub a caller holds, a
goroutine will close, or the registry maps was made by `NewStreamHub`, and a registered hub
was built for its key; every socket is held by the hubs; no goroutine has failed a bounds
check. -/
structure Sound (w : World) : Prop where
  ring : ∀ i, (w.hub i).RingOk
  published : ∀ h, w.published h = true → (w.hub h).addrList ≠ []
  registry : ∀ k h, (k, some h) ∈ w.registry.writes → (w.hub h).BuiltFor k
  tasks : ∀ t, (w.task t).Ok w
  socks : SocksHeld w
  panic : ∀ p, w.panic = some p → p.boundsCheck = false

/-- Every socket of `w` is still there in `w'`; one open in `w'` was open in `w`, and stays with
every hub that held it. -/
def SocksKept (w w' : World) : Prop :=
  ∀ s, s < w.socks.length → s < w'.socks.length ∧ ((w'.sock s).closed = false →
    (w.sock s).closed = false ∧ ∀ i, s ∈ (w.hub i).udpConns → s ∈ (w'.hub i).udpConns)

/-- Every hub of `w` that `NewStreamHub` made keeps its addresses in `w'`, and an `OnEmpty`
once set stays. A closed hub that holds sockets stays closed and holds some in `w'`: `Close`
returns at once on a closed hub, and `UpdateInterfaces` swaps sockets only for new ones. Every queue only takes sends, receives, drains and a close, and sockets only close. -/
structure Keeps (w w' : World) : Prop where
  addrList : ∀ i, (w.hub i).addrList ≠ [] → (w'.hub i).addrList = (w.hub i).addrList
  onEmpty : ∀ i is, (w.hub i).onEmpty = some is → (w'.hub i).onEmpty = some is
  closedConns : ∀ i, (w.hub i).closed = true → (w.hub i).udpConns ≠ [] →
    (w'.hub i).closed = true ∧ (w'.hub i).udpConns ≠ []
  chans : ChansExtend w.chans w'.chans
  socks : SocksKept w w'

theorem World.hub_setHub (w : World) (i : Nat) (hub : StreamHub) (j : Nat) :
    (w.setHub i hub).hub j = if i = j ∧ i < w.hubs.length then hub else w.hub j :=
  hub_set rfl j

theorem World.hub_setHub_eq (w : World) (i : Nat) (hub : StreamHub) (j : Nat) :
    (w.setHub i hub).hub j = hub ∧ i = j ∨ (w.setHub i hub).hub j = w.hub j := by
  rw [hub_setHub]
  split_ifs with h
  · exact .inl ⟨rfl, h.1⟩
  · exact .inr rfl

theorem World.task_spawn_eq (w : World) (x u : Task) (v : Nat) (hv : (w.spawn x).task v = u) :
    u = x ∨ u = w.task v ∨ u = .exited := by
  subst hv
  simp only [World.task, spawn]
  rcases Nat.lt_or_ge v w.tasks.length with h | h
  · exact .inr (.inl (List.getD_append _ _ _ _ h))
  · rcases Nat.eq_or_lt_of_le h with rfl | h
    · exact .inl (by simp)
    · exact .inr (.inr (List.getD_eq_default _ _ (by simp; omega)))

namespace SocksKept

variable {w w₁ w₂ : World}

theorem of_eq (hh : w₁.hubs = w.hubs) (hso : w₁.socks = w.socks) : SocksKept w w₁ :=
  fun s hl => ⟨hso ▸ hl, fun ho => ⟨by rwa [World.sock, ← hso], fun i hi => by rwa [World.hub, hh]⟩⟩

theorem trans (h₁ : SocksKept w w₁) (h₂ : SocksKept w₁ w₂) : SocksKept w w₂ := fun s hl =>
  have k₁ := h₁ s hl
  have k₂ := h₂ s k₁.1
  ⟨k₂.1, fun ho => have o₁ := k₁.2 (k₂.2 ho).1; ⟨o₁.1, fun i hi => (k₂.2 ho).2 i (o₁.2 i hi)⟩⟩

end SocksKept

namespace Keeps

variable {w w₁ w₂ : World}

protected theorem rfl : Keeps w w :=
  ⟨fun _ _ => rfl, fun _ _ h => h, fun _ hc hu => ⟨hc, hu⟩, .rfl, .of_eq rfl rfl⟩

theorem trans (h₁ : Keeps w w₁) (h₂ : Keeps w₁ w₂) : Keeps w w₂ where
  addrList i hi := by rw [h₂.addrList i (by rwa [h₁.addrList i hi]), h₁.addrList i hi]
  onEmpty i is hi := h₂.onEmpty i is (h₁.onEmpty i is hi)
  closedConns i hc hu := have k₁ := h₁.closedConns i hc hu; h₂.closedConns i k₁.1 k₁.2
  chans := h₁.chans.trans h₂.chans
  socks := h₁.socks.trans h₂.socks

theorem of_hubs (hh : w₁.hubs = w.hubs) (hso : SocksKept w w₁) (hc : ChansExtend w.chans w₁.chans) :
    Keeps w w₁ where
  addrList _ _ := by rw [World.hub, World.hub, hh]
  onEmpty _ _ hi := by rwa [World.hub, hh]
  closedConns _ hc hu := by rw [World.hub, hh]; exact ⟨hc, hu⟩
  chans := hc
  socks := hso

theorem setHub {i : Nat} {hub : StreamHub} (ha : hub.addrList = (w.hub i).addrList)
    (ho : ∀ is, (w.hub i).onEmpty = some is → hub.onEmpty = some is)
    (hc : (w.hub i).closed = true → (w.hub i).udpConns ≠ [] → hub.closed = true ∧ hub.udpConns ≠ [])
    (hs : ∀ s, (w.sock s).closed = false → s ∈ (w.hub i).udpConns → s ∈ hub.udpConns) :
    Keeps w (w.setHub i hub) where
  addrList j _ := by rcases w.hub_setHub_eq i hub j with ⟨e, rfl⟩ | e <;> rw [e]; exact ha
  onEmpty j is hj := by
    rcases w.hub_setHub_eq i hub j with ⟨e, rfl⟩ | e <;> rw [e]; exacts [ho is hj, hj]
  closedConns j hj hn := by
    rcases w.hub_setHub_eq i hub j with ⟨e, rfl⟩ | e <;> rw [e]; exacts [hc hj hn, ⟨hj, hn⟩]
  chans := .rfl
  socks s hl := ⟨hl, fun ho => ⟨ho, fun j hj => by
    rcases w.hub_setHub_eq i hub j with ⟨e, rfl⟩ | e <;> rw [e]; exacts [hs s ho hj, hj]⟩⟩

end Keeps

theorem StreamHub.BuiltFor.keeps {w w' : World} {i : Nat} {k : String}
    (hb : (w.hub i).BuiltFor k) (hk : Keeps w w') : (w'.hub i).BuiltFor k := by
  obtain ⟨a, is, rfl, ha, ho⟩ := hb
  exact ⟨a, is, rfl, by rw [hk.addrList i (by simp [ha]), ha], hk.onEmpty i is ho⟩

theorem Task.Ok.keeps {w w' : World} {x : Task} (hx : x.Ok w) (hk : Keeps w w') : x.Ok w' := by
  cases x with
  | run h pc =>
    exact ⟨by rw [hk.addrList h hx.1]; exact hx.1,
      fun h' e => by rw [hk.addrList h' (hx.2 h' e)]; exact hx.2 h' e⟩
  | readLoop h s _ _ =>
    obtain ⟨hl, hk'⟩ := hk.socks s hx.1
    exact ⟨hl, fun ho => (hk' ho).2 h (hx.2 (hk' ho).1)⟩
  | closeRemoved h => rw [Task.Ok, hk.addrList h hx]; exact hx
  | call _ _ _ => exact fun i e => (hx i e).keeps hk
  | serve s => exact ⟨hx.1, lt_of_lt_of_le hx.2.1 hk.chans.1, hk.chans.2 s.ch s.body hx.2.2⟩
  | _ => trivial

/-! ### Sockets -/

theorem World.sock_closed_of_le {w : World} {s : Nat} (hs : w.socks.length ≤ s) :
    (w.sock s).closed = true := by
  rw [World.sock, List.getD_eq_default _ _ hs]
  rfl

/-- The loop of `closeSocks`: it closes the sockets listed, and changes nothing else. -/
theorem closeSocks_foldl (ids : List Nat) : ∀ (socks : List Sock) (s : Nat),
    (ids.foldl (fun l i => l.set i { l.getD i default with closed := true }) socks).length =
      socks.length ∧
    (ids.foldl (fun l i => l.set i { l.getD i default with closed := true }) socks).getD s
      default = { socks.getD s default with
        closed := decide (s ∈ ids) || (socks.getD s default).closed } := by
  induction ids with
  | nil => simp
  | cons i ids ih =>
    intro socks s
    obtain ⟨h₁, h₂⟩ := ih (socks.set i { socks.getD i default with closed := true }) s
    refine ⟨by rw [List.foldl_cons, h₁, List.length_set], ?_⟩
    rw [List.foldl_cons, h₂]
    by_cases e : s = i
    · subst e
      by_cases hl : s < socks.length
      · simp [List.getD_eq_getElem?_getD, hl]
      · have hd := List.getD_eq_default socks default (Nat.le_of_not_lt hl)
        rw [List.set_eq_of_length_le (Nat.le_of_not_lt hl), hd]
        simp only [show (default : Sock).closed = true from rfl, Bool.or_true]
    · simp [List.getD_eq_getElem?_getD, List.getElem?_set, Ne.symm e, e]

theorem World.closeSocks_length (w : World) (ids : List Nat) :
    (w.closeSocks ids).socks.length = w.socks.length :=
  (closeSocks_foldl ids w.socks 0).1

theorem World.closeSocks_sock (w : World) (ids : List Nat) (s : Nat) :
    (w.closeSocks ids).sock s = { w.sock s with closed := decide (s ∈ ids) || (w.sock s).closed } :=
  (closeSocks_foldl ids w.socks s).2

theorem World.closeSocks_addr (w : World) (ids : List Nat) (s : Nat) :
    ((w.closeSocks ids).sock s).addr = (w.sock s).addr ∧
      ((w.closeSocks ids).sock s).udpAddr = (w.sock s).udpAddr := by
  rw [closeSocks_sock]; exact ⟨rfl, rfl⟩

theorem World.closeSocks_closed (w : World) (ids : List Nat) (s : Nat) :
    ((w.closeSocks ids).sock s).closed = (decide (s ∈ ids) || (w.sock s).closed) := by
  rw [closeSocks_sock]

/-- The sockets `openSocks` appends are open, and numbered from the first free one. -/
theorem World.openSocks_closed (w : World) (conns : List (String × UDPAddr)) (s : Nat) :
    (({ w with socks := w.socks ++ conns.map fun c => ⟨c.1, c.2, false⟩ } : World).sock
      s).closed = false ↔
      s ∈ List.range' w.socks.length conns.length ∨ (w.sock s).closed = false := by
  have hnew : ∀ k, ((conns.map fun c => (⟨c.1, c.2, false⟩ : Sock)).getD k default).closed =
      false ↔ k < conns.length := fun k => by
    by_cases hk : k < conns.length
    · simp [List.getD_eq_getElem?_getD, hk]
    · rw [List.getD_eq_default _ _ (by simpa using Nat.le_of_not_lt hk)]
      simp only [hk, iff_false]
      decide
  simp only [World.sock, List.mem_range'_1]
  rcases Nat.lt_or_ge s w.socks.length with hs | hs
  · rw [List.getD_append _ _ _ _ hs]
    exact ⟨Or.inr, fun h => h.resolve_left (by omega)⟩
  · rw [List.getD_append_right _ _ _ _ hs, hnew, List.getD_eq_default _ _ hs]
    simp only [show (default : Sock).closed = true from rfl, Bool.true_eq_false, or_false]
    omega

/-- A socket that `openSocks` appended for `conns` was opened for one of them. -/
theorem openSocks_bound {socks : List Sock} {conns : List (String × UDPAddr)} {addrs : List String}
    {s : Nat} (hc : ∀ c ∈ conns, c.1 ∈ addrs ∧ isMulticast c.2.ip = true)
    (hs : s ∈ List.range' socks.length conns.length) :
    ((socks ++ conns.map fun c => (⟨c.1, c.2, false⟩ : Sock)).getD s default).addr ∈ addrs ∧
      isMulticast ((socks ++ conns.map fun c => (⟨c.1, c.2, false⟩ : Sock)).getD s
        default).udpAddr.ip = true := by
  obtain ⟨h₁, h₂⟩ := List.mem_range'_1.mp hs
  rw [List.getD_append_right _ _ _ _ h₁, List.getD_eq_getElem _ _
    (show s - socks.length < (conns.map _).length by simp only [List.length_map]; omega)]
  simpa using hc _ (List.getElem_mem (by omega))

namespace SocksHeld

variable {w w' : World}

theorem lt_length (hs : SocksHeld w) {i s : Nat} (hm : s ∈ (w.hub i).udpConns) :
    s < w.socks.length :=
  Nat.lt_of_not_le fun hl => by
    have := (hs.open_iff s).mpr ⟨i, hm⟩
    rw [sock_closed_of_le hl] at this
    cases this

theorem of_eq (hs : SocksHeld w) (hso : w'.socks = w.socks)
    (hu : ∀ i, (w'.hub i).udpConns = (w.hub i).udpConns)
    (ha : ∀ i, (w'.hub i).addrList = (w.hub i).addrList) : SocksHeld w' where
  open_iff s := by simp only [World.sock, hso, hu]; exact hs.open_iff s
  owner i j s hi hj := hs.owner i j s (hu i ▸ hi) (hu j ▸ hj)
  bound i s hi := by simp only [World.sock, hso, ha]; exact hs.bound i s (hu i ▸ hi)

theorem of_hubs (hs : SocksHeld w) (hso : w'.socks = w.socks) (hh : w'.hubs = w.hubs) :
    SocksHeld w' :=
  have hhub : ∀ i, w'.hub i = w.hub i := fun i => by rw [World.hub, World.hub, hh]
  hs.of_eq hso (fun i => by rw [hhub]) fun i => by rw [hhub]

/-- Hub `i` gives up its sockets, which close, and takes the fresh open sockets `ids`. -/
theorem replace (hs : SocksHeld w) (i : Nat) (ids : List Nat)
    (hu : ∀ j, (w'.hub j).udpConns = if j = i then ids else (w.hub j).udpConns)
    (hc : ∀ s, (w'.sock s).closed = false ↔
      s ∈ ids ∨ (w.sock s).closed = false ∧ s ∉ (w.hub i).udpConns)
    (hfresh : ∀ s ∈ ids, w.socks.length ≤ s)
    (ha : ∀ j, j ≠ i → (w'.hub j).addrList = (w.hub j).addrList)
    (hold : ∀ s < w.socks.length,
      (w'.sock s).addr = (w.sock s).addr ∧ (w'.sock s).udpAddr = (w.sock s).udpAddr)
    (hb : ∀ s ∈ ids,
      (w'.sock s).addr ∈ (w'.hub i).addrList ∧ isMulticast (w'.sock s).udpAddr.ip = true) :
    SocksHeld w' where
  open_iff s := by
    rw [hc]
    constructor
    · rintro (hm | ⟨ho, hn⟩)
      · exact ⟨i, by rw [hu, if_pos rfl]; exact hm⟩
      · obtain ⟨j, hj⟩ := (hs.open_iff s).mp ho
        exact ⟨j, by rw [hu, if_neg fun e : j = i => hn (e ▸ hj)]; exact hj⟩
    · rintro ⟨j, hj⟩
      rw [hu] at hj
      split_ifs at hj with e
      · exact .inl hj
      · exact .inr ⟨(hs.open_iff s).mpr ⟨j, hj⟩, fun hi => e (hs.owner j i s hj hi)⟩
  owner j k s hj hk := by
    rw [hu] at hj hk
    split_ifs at hj hk with e₁ e₂ e₂
    · exact e₁.trans e₂.symm
    · exact absurd (hs.lt_length hk) (Nat.not_lt.mpr (hfresh s hj))
    · exact absurd (hs.lt_length hj) (Nat.not_lt.mpr (hfresh s hk))
    · exact hs.owner j k s hj hk
  bound j s hj := by
    rw [hu] at hj
    split_ifs at hj with e
    · subst e; exact hb s hj
    · obtain ⟨h₁, h₂⟩ := hold s (hs.lt_length hj)
      rw [h₁, h₂, ha j e]
      exact hs.bound j s hj

end SocksHeld

namespace Sound

variable {w w' : World}

/-- A change that keeps the hubs' addresses and callbacks, and the callers, the registry, the
goroutines and the panic as they were. -/
theorem keeps (hs : Sound w) (hk : Keeps w w') (hr : ∀ i, (w'.hub i).RingOk)
    (hp : w'.published = w.published) (hreg : w'.registry = w.registry)
    (ht : w'.tasks = w.tasks) (hpanic : w'.panic = w.panic) (hso : SocksHeld w') : Sound w' where
  ring := hr
  published h hh := by
    rw [hp] at hh
    rw [hk.addrList h (hs.published h hh)]
    exact hs.published h hh
  registry k h hm := (hs.registry k h (hreg ▸ hm)).keeps hk
  tasks t := by
    rw [World.task, ht]
    exact (hs.tasks t).keeps hk
  socks := hso
  panic p hh := hs.panic p (hpanic ▸ hh)

end Sound

/-- What only `NewStreamHub`, `GetOrCreateHub`, `Close` and `UpdateInterfaces` write of a hub,
with its ring. -/
def StreamHub.setup (hub : StreamHub) :
    List String × Option (List String) × Option (RingBuffer Frame) × Bool × List Nat :=
  (hub.addrList, hub.onEmpty, hub.cacheBuffer, hub.closed, hub.udpConns)

/-- `w` is sound, and keeps the hubs of `w₀`: how far a step from `w₀` has come. -/
structure Follows (w₀ w : World) : Prop where
  sound : Sound w
  keeps : Keeps w₀ w

namespace Follows

variable {w₀ w : World}

theorem of_sound (hs : Sound w) : Follows w w := ⟨hs, .rfl⟩

/-- A change of the channels or the allocation counter. -/
theorem of_hubs {w' : World} (hf : Follows w₀ w) (hh : w'.hubs = w.hubs) (hso : w'.socks = w.socks)
    (hc : ChansExtend w.chans w'.chans) (hp : w'.published = w.published)
    (hreg : w'.registry = w.registry) (ht : w'.tasks = w.tasks) (hpanic : w'.panic = w.panic) :
    Follows w₀ w' :=
  ⟨hf.sound.keeps (.of_hubs hh (.of_eq hh hso) hc) (fun i => by rw [World.hub, hh]; exact hf.sound.ring i) hp
    hreg ht hpanic (hf.sound.socks.of_hubs hso hh),
    hf.keeps.trans (.of_hubs hh (.of_eq hh hso) hc)⟩

theorem setChan {c : Nat} {ch : Chan Frame} (hf : Follows w₀ w) (h : (w.chan c).Extends ch) :
    Follows w₀ (w.setChan c ch) :=
  hf.of_hubs rfl rfl (.set h) rfl rfl rfl rfl

theorem setTask {t : Nat} {x : Task} (hf : Follows w₀ w) (hx : x.Ok w) :
    Follows w₀ (w.setTask t x) := by
  refine ⟨{ hf.sound with tasks := fun u => ?_, socks := hf.sound.socks.of_hubs rfl rfl },
    hf.keeps.trans (.of_hubs rfl (.of_eq rfl rfl) .rfl)⟩
  rcases w.task_setTask_eq t u x with h | h <;> rw [h]
  · exact hx
  · exact hf.sound.tasks u

/-- A goroutine of `w₀` moves on, holding of `w` what it held of `w₀`. -/
theorem setTask_of_ok {t : Nat} {x : Task} (hf : Follows w₀ w) (hx : x.Ok w₀) :
    Follows w₀ (w.setTask t x) :=
  Follows.setTask hf (hx.keeps hf.keeps)

theorem spawn {x : Task} (hf : Follows w₀ w) (hx : x.Ok w) : Follows w₀ (w.spawn x) := by
  refine ⟨{ hf.sound with tasks := fun u => ?_, socks := hf.sound.socks.of_hubs rfl rfl },
    hf.keeps.trans (.of_hubs rfl (.of_eq rfl rfl) .rfl)⟩
  rcases w.task_spawn_eq x _ u rfl with h | h | h <;> rw [h]
  · exact hx
  · exact hf.sound.tasks u
  · trivial

theorem fail {p : Panic} (hf : Follows w₀ w) (hp : p.boundsCheck = false) :
    Follows w₀ (w.fail p) := by
  refine ⟨{ hf.sound with panic := ?_, socks := hf.sound.socks.of_hubs rfl rfl },
    hf.keeps.trans (.of_hubs rfl (.of_eq rfl rfl) .rfl)⟩
  rintro _ ⟨⟩
  exact hp

/-- An update of a hub that keeps its addresses, `OnEmpty`, `Closed` and sockets. -/
theorem setHub {i : Nat} {hub : StreamHub} (hf : Follows w₀ w)
    (ha : hub.addrList = (w.hub i).addrList)
    (ho : ∀ is, (w.hub i).onEmpty = some is → hub.onEmpty = some is) (hr : hub.RingOk)
    (hc : hub.closed = (w.hub i).closed) (hu : hub.udpConns = (w.hub i).udpConns) :
    Follows w₀ (w.setHub i hub) :=
  have hk : Keeps w (w.setHub i hub) := .setHub ha ho (fun h hn => ⟨hc.trans h, hu ▸ hn⟩) fun _ _ => hu ▸ id
  ⟨hf.sound.keeps hk (fun j => by rw [hub_setHub]; split_ifs; exacts [hr, hf.sound.ring j]) rfl
    rfl rfl rfl (hf.sound.socks.of_eq rfl
      (fun j => by rcases w.hub_setHub_eq i hub j with ⟨e, rfl⟩ | e <;> rw [e]; exact hu)
      fun j => by rcases w.hub_setHub_eq i hub j with ⟨e, rfl⟩ | e <;> rw [e]; exact ha),
    hf.keeps.trans hk⟩

/-- An update of a hub's other fields: its table, queues, counters, state or lock. -/
theorem setHub_of_eq {i : Nat} {hub : StreamHub} (hf : Follows w₀ w)
    (h : hub.setup = (w.hub i).setup) : Follows w₀ (w.setHub i hub) := by
  simp only [StreamHub.setup, Prod.mk.injEq] at h
  obtain ⟨ha, ho, hr, hc, hu⟩ := h
  exact hf.setHub ha (fun _ e => ho ▸ e) (fun r e => hf.sound.ring i r (hr ▸ e)) hc hu

/-- A section's outcome: its result, or a panic that is no failed bounds check. -/
theorem commit {x : Go World} (hf : Follows w₀ w) (hb : NoBoundsPanic x)
    (hx : ∀ w', x = .ok w' → Follows w₀ w') : Follows w₀ (w.commit x) := by
  cases x with
  | error p => exact hf.fail (hb p rfl)
  | ok w' => exact hx w' rfl

/-- `delete(m.Hubs, key)`. -/
theorem erase (hf : Follows w₀ w) (k : String) :
    Follows w₀ { w with registry := w.registry.erase k } := by
  refine ⟨{ hf.sound with
      registry := fun k' h hm => ?_
      socks := hf.sound.socks.of_hubs rfl rfl }, hf.keeps.trans (.of_hubs rfl (.of_eq rfl rfl) .rfl)⟩
  rcases List.mem_cons.mp hm with e | hm
  · cases e
  · exact hf.sound.registry k' h hm

/-- `m.Hubs[key] = hub` for a hub built for `key`, which the caller then holds. -/
theorem register {k : String} {i : Nat} (hf : Follows w₀ w) (hb : (w.hub i).BuiltFor k) :
    Follows w₀ { w with registry := w.registry.insert k i
                        published := Function.update w.published i true } := by
  have ha : (w.hub i).addrList ≠ [] := by
    obtain ⟨_, _, -, ha, -⟩ := hb; simp [ha]
  refine ⟨{ hf.sound with
      published := fun h hh => ?_
      registry := fun k' h hm => ?_
      socks := hf.sound.socks.of_hubs rfl rfl }, hf.keeps.trans (.of_hubs rfl (.of_eq rfl rfl) .rfl)⟩
  · by_cases e : h = i
    · subst e; exact ha
    · exact hf.sound.published h (by simpa [Function.update_noteq e] using hh)
  · rcases List.mem_cons.mp hm with e | hm
    · cases e; exact hb
    · exact hf.sound.registry k' h hm

/-- The caller of `NewStreamHub` holds the hub it made. -/
theorem publish {i : Nat} (hf : Follows w₀ w) (ha : (w.hub i).addrList ≠ []) :
    Follows w₀ { w with published := Function.update w.published i true } := by
  refine ⟨{ hf.sound with
      published := fun h hh => ?_
      socks := hf.sound.socks.of_hubs rfl rfl }, hf.keeps.trans (.of_hubs rfl (.of_eq rfl rfl) .rfl)⟩
  by_cases e : h = i
  · subst e; exact ha
  · exact hf.sound.published h (by simpa [Function.update_noteq e] using hh)

end Follows

theorem World.lt_length_of_addrList {w : World} {i : Nat} (h : (w.hub i).addrList ≠ []) :
    i < w.hubs.length := by
  by_contra hi
  exact h (by rw [World.hub, List.getD_eq_default _ _ (Nat.le_of_not_lt hi)]; rfl)

theorem World.lt_length_of_udpConns {w : World} {i s : Nat} (h : s ∈ (w.hub i).udpConns) :
    i < w.hubs.length := by
  by_contra hi
  rw [World.hub, List.getD_eq_default _ _ (Nat.le_of_not_lt hi)] at h
  cases h

theorem World.lt_length_of_onEmpty {w : World} {i : Nat} {is : List String}
    (h : (w.hub i).onEmpty = some is) : i < w.hubs.length := by
  by_contra hi
  rw [World.hub, List.getD_eq_default _ _ (Nat.le_of_not_lt hi)] at h
  cases h

theorem StreamHub.BuiltFor.addrList_ne_nil {hub : StreamHub} {k : String} (hb : hub.BuiltFor k) :
    hub.addrList ≠ [] := by
  obtain ⟨_, _, -, ha, -⟩ := hb
  simp [ha]

/-- A read of the registry returns a hub some write put there, under the same digest. -/
theorem Registry.mem_of_lookup {md5Hex : String → String} {r : Registry} {k : String} {h : Nat}
    (hl : r.lookup md5Hex k = some h) : ∃ k', (k', some h) ∈ r.writes ∧ md5Hex k' = md5Hex k := by
  obtain ⟨e, he, hh⟩ := Option.bind_eq_some.mp hl
  have hs := List.find?_some he
  refine ⟨e.1, ?_, (Registry.same_iff md5Hex _ _).mp hs⟩
  rw [← hh]
  exact List.mem_of_find?_eq_some he

/-! ## The ring -/

namespace RingBuffer.Ok

variable {r : RingBuffer Frame}

theorem push (hr : r.Ok) (f : Frame) : ∃ r', r.push f = .ok r' ∧ r'.Ok := by
  obtain ⟨hsize, items, hh⟩ := hr
  obtain ⟨r', hp, hs, hh'⟩ := hh.push f
  exact ⟨r', hp, hs.trans hsize, _, hh'⟩

theorem pushAll (hr : r.Ok) (fs : List Frame) :
    ∃ r', fs.foldlM (fun r f => r.push f) r = .ok r' ∧ r'.Ok := by
  obtain ⟨hsize, items, hh⟩ := hr
  obtain ⟨r', hp, hs, hh'⟩ := hh.pushAll fs
  exact ⟨r', hp, hs.trans hsize, _, hh'⟩

theorem getAll (hr : r.Ok) : ∃ fs, r.getAll = .ok fs :=
  let ⟨_, _, hh⟩ := hr
  ⟨_, hh.getAll_eq⟩

end RingBuffer.Ok

theorem ringOk_newRingBuffer : ∃ r, newRingBuffer cacheFrames = .ok r ∧ r.Ok :=
  let ⟨r, hn, hs, hh⟩ := @holds_newRingBuffer Frame _ cacheFrames (by decide)
  ⟨r, hn, hs, _, hh⟩

theorem StreamHub.noBoundsPanic_ring (hub : StreamHub) : NoBoundsPanic hub.ring := by
  unfold StreamHub.ring; split
  · exact noBoundsPanic_of_ok rfl
  · exact noBoundsPanic_error rfl

theorem StreamHub.cacheBuffer_of_ring {hub : StreamHub} {r : RingBuffer Frame}
    (h : hub.ring = .ok r) : hub.cacheBuffer = some r := by
  unfold StreamHub.ring at h; split at h <;> cases h; assumption

/-- `TransferClientsTo`'s ring for the new hub: its own, or a new one the size of the old
hub's. -/
theorem StreamHub.ringOr_ok {dst src : StreamHub} (hd : dst.RingOk) (hs : src.RingOk) :
    NoBoundsPanic (dst.ringOr src) ∧ ∀ r, dst.ringOr src = .ok r → r.Ok := by
  unfold StreamHub.ringOr
  split
  · exact ⟨noBoundsPanic_of_ok rfl, fun _ e => by cases e; exact hd _ ‹_›⟩
  · obtain ⟨r', hn, hr'⟩ := ringOk_newRingBuffer
    refine ⟨src.noBoundsPanic_ring.bind fun r e => ?_, fun r' e => ?_⟩
    · rw [(hs r (cacheBuffer_of_ring e)).1]; exact noBoundsPanic_of_ok hn
    · obtain ⟨r, e₁, e₂⟩ := bind_eq_ok e
      rw [(hs r (cacheBuffer_of_ring e₁)).1, hn] at e₂
      cases e₂; exact hr'

/-! ## Channel operations -/

theorem noBoundsPanic_closeChans :
    ∀ (chans : List (Chan Frame)) (cs : List Nat), NoBoundsPanic (closeChans chans cs)
  | _, [] => noBoundsPanic_of_ok rfl
  | chans, c :: cs => (Chan.noBoundsPanic_close _).bind fun ch _ =>
      noBoundsPanic_closeChans (chans.set c ch) cs

theorem noBoundsPanic_trySendTo (chans : List (Chan Frame)) (c : Nat) (f : Frame) :
    NoBoundsPanic (trySendTo chans c f) :=
  (Chan.noBoundsPanic_trySend _ _).bind fun r _ => by cases r <;> exact noBoundsPanic_of_ok rfl

theorem noBoundsPanic_sendFrames (c : Nat) :
    ∀ (chans : List (Chan Frame)) (frames : List Frame), NoBoundsPanic (sendFrames chans c frames)
  | _, [] => noBoundsPanic_of_ok rfl
  | chans, _ :: frames => (noBoundsPanic_trySendTo chans c _).bind fun chans _ =>
      noBoundsPanic_sendFrames c chans frames

theorem World.noBoundsPanic_transferEach (src : StreamHub) {ring : RingBuffer Frame}
    {frames : List Frame} (hg : ring.getAll = .ok frames) :
    ∀ (es : List (Sigma fun _ : String => HubClient)) (m : GoMap String HubClient)
      (chans : List (Chan Frame)), NoBoundsPanic (transferEach src ring es m chans)
  | [], m, chans => noBoundsPanic_of_ok rfl
  | _ :: es, _, _ => (GoMap.noBoundsPanic_set _ _ _).bind fun m _ =>
      (noBoundsPanic_of_ok hg).bind fun _ _ => (noBoundsPanic_sendFrames _ _ _).bind fun chans _ => by
        dsimp only
        split
        · exact (noBoundsPanic_trySendTo _ _ _).bind fun chans _ =>
            World.noBoundsPanic_transferEach src hg es m chans
        · exact World.noBoundsPanic_transferEach src hg es m chans

/-! ## Critical sections

Each section fails no bounds check, and returns a state that still follows from the step's
start. The sections that index `AddrList` or restart receive loops are called on hubs that
`NewStreamHub` made. -/

theorem World.hub_addHub (w : World) (hub : StreamHub) (i : Nat) :
    ({ w with hubs := w.hubs ++ [hub] } : World).hub i =
      if i < w.hubs.length then w.hub i else if i = w.hubs.length then hub else default :=
  hub_append rfl i

theorem World.noBoundsPanic_startReadLoops {w : World} {h : Nat} (ha : (w.hub h).addrList ≠ []) :
    NoBoundsPanic (w.startReadLoops h) :=
  let ⟨_, hts, _⟩ := spawnReadLoops_eq ha w 0 (w.hub h).udpConns
  noBoundsPanic_of_ok hts

theorem Keeps.addHub {w w' : World} {hub : StreamHub} (hh : w'.hubs = w.hubs ++ [hub])
    (hso : ∃ l, w'.socks = w.socks ++ l) (hc : ChansExtend w.chans w'.chans) : Keeps w w' where
  addrList i hi := by rw [hub_append hh, if_pos (lt_length_of_addrList hi)]
  onEmpty i is hi := by rw [hub_append hh, if_pos (lt_length_of_onEmpty hi)]; exact hi
  closedConns i hi hu := by rw [hub_append hh, if_pos (lt_length_of_closed hi)]; exact ⟨hi, hu⟩
  chans := hc
  socks s hl :=
    have ⟨l, e⟩ := hso
    have hs : w'.sock s = w.sock s := by rw [World.sock, World.sock, e, List.getD_append _ _ _ _ hl]
    ⟨by rw [e, List.length_append]; omega, fun ho => ⟨hs ▸ ho, fun i hi => by
      rw [hub_append hh, if_pos (lt_length_of_udpConns hi)]; exact hi⟩⟩

theorem Sound.noBoundsPanic_snapshot {w : World} (hs : Sound w) (h : Nat) :
    NoBoundsPanic (w.snapshot h) :=
  (w.hub h).noBoundsPanic_ring.bind fun r e =>
    let ⟨_, hg⟩ := (hs.ring h r (StreamHub.cacheBuffer_of_ring e)).getAll
    noBoundsPanic_of_ok hg

namespace World

variable {w : World}

theorem noBoundsPanic_close {h : Nat} (ha : (w.hub h).addrList ≠ []) :
    NoBoundsPanic (w.close h) := by
  obtain ⟨_, hi⟩ := index_ok (w.hub h).addrList 0 le_rfl
    (by exact_mod_cast List.length_pos.mpr ha)
  unfold World.close
  dsimp only
  split
  · exact noBoundsPanic_of_ok rfl
  · exact (noBoundsPanic_closeChans _ _).bind fun _ _ => (noBoundsPanic_of_ok hi).bind
      fun _ _ => noBoundsPanic_of_ok rfl

theorem noBoundsPanic_runAdd (h : Nat) (c : HubClient) : NoBoundsPanic (w.runAdd h c) :=
  (GoMap.noBoundsPanic_set _ _ _).bind fun _ _ => noBoundsPanic_of_ok rfl

theorem noBoundsPanic_runRemove (h : Nat) (k : String) : NoBoundsPanic (w.runRemove h k) := by
  unfold World.runRemove
  dsimp only
  split
  · exact (Chan.noBoundsPanic_close _).bind fun _ _ => noBoundsPanic_of_ok rfl
  · exact noBoundsPanic_of_ok rfl

theorem noBoundsPanic_runClosed (h : Nat) : NoBoundsPanic (w.runClosed h) :=
  (noBoundsPanic_closeChans _ _).bind fun _ _ => noBoundsPanic_of_ok rfl

theorem noBoundsPanic_updateInterfaces {h : Nat} (ha : (w.hub h).addrList ≠ [])
    (ifaces : List String) (net : Net) : NoBoundsPanic (w.updateInterfaces h ifaces net) := by
  unfold World.updateInterfaces
  dsimp only
  generalize updateInterfacesConns net ifaces (w.hub h).addrList none = res
  rcases res with ⟨_ | ⟨conn, conns⟩, lastErr⟩
  · exact noBoundsPanic_of_ok rfl
  dsimp only
  rw [openSocks_fst]
  refine (noBoundsPanic_startReadLoops ?_).bind fun _ _ => noBoundsPanic_of_ok rfl
  rw [hub_setHub]
  split_ifs <;> exact ha

theorem noBoundsPanic_newStreamHub (addrs ifaces : List String) (net : Net) :
    NoBoundsPanic (w.newStreamHub addrs ifaces net) := by
  obtain ⟨ring, hn, -⟩ := ringOk_newRingBuffer
  unfold World.newStreamHub
  split
  · exact noBoundsPanic_of_ok rfl
  rename_i hne
  generalize newStreamHubConns net ifaces addrs none = res
  rcases res with ⟨_ | ⟨conn, conns⟩, lastErr⟩
  · exact noBoundsPanic_of_ok rfl
  dsimp only
  rw [hn, openSocks_fst, ok_bind]
  refine (noBoundsPanic_startReadLoops ?_).bind fun _ _ => noBoundsPanic_of_ok rfl
  simpa [World.hub] using fun e => hne (by simp [e])

end World

theorem Sound.noBoundsPanic_broadcastLocked {w : World} (hs : Sound w) (h : Nat) (data : Frame) :
    NoBoundsPanic (w.broadcastLocked h data) := by
  unfold World.broadcastLocked
  dsimp only
  split
  · rename_i ring _ hr _
    obtain ⟨r', hp, -⟩ := (hs.ring h ring hr).push data
    rw [hp]
    exact noBoundsPanic_of_ok rfl
  · exact noBoundsPanic_of_ok rfl

theorem Sound.noBoundsPanic_transferClientsTo {w : World} (hs : Sound w) (h n : Nat) :
    NoBoundsPanic (w.transferClientsTo h n) := by
  obtain ⟨hb, hd⟩ := StreamHub.ringOr_ok (hs.ring n) (hs.ring h)
  refine hb.bind fun dstRing e₁ => (w.hub h).noBoundsPanic_ring.bind fun srcRing e₂ => ?_
  obtain ⟨frames, hg⟩ := (hs.ring h srcRing (StreamHub.cacheBuffer_of_ring e₂)).getAll
  obtain ⟨_, hp, -⟩ := (hd dstRing e₁).pushAll frames
  refine (noBoundsPanic_of_ok hg).bind fun _ e₃ => ?_
  rw [hg] at e₃
  cases e₃
  exact (noBoundsPanic_of_ok hp).bind fun _ _ =>
    (noBoundsPanic_transferEach _ hg _ _ _).bind fun ⟨_, _⟩ _ => noBoundsPanic_of_ok rfl

namespace Follows

variable {w₀ w w' : World}

/-- `NewStreamHub`'s update: open a socket per connection, and add a hub that holds them. -/
theorem openHub {conns : List (String × UDPAddr)} {hub : StreamHub} (hf : Follows w₀ w)
    (hr : hub.RingOk) (hu : hub.udpConns = List.range' w.socks.length conns.length)
    (hc : ∀ c ∈ conns, c.1 ∈ hub.addrList ∧ isMulticast c.2.ip = true) :
    Follows w₀ { w with socks := w.socks ++ conns.map fun c => ⟨c.1, c.2, false⟩
                        hubs := w.hubs ++ [hub] } := by
  refine ⟨hf.sound.keeps (.addHub rfl ⟨_, rfl⟩ .rfl) (fun j => ?_) rfl rfl rfl rfl
    (hf.sound.socks.replace w.hubs.length (List.range' w.socks.length conns.length) (fun j => ?_)
      (fun s => ?_) (fun s hs => (List.mem_range'_1.mp hs).1) (fun j hj => ?_)
      (fun s hs => by simp only [World.sock, List.getD_append _ _ _ _ hs, and_self])
      fun s hs => ?_), hf.keeps.trans (.addHub rfl ⟨_, rfl⟩ .rfl)⟩
  · rw [hub_append rfl]
    split_ifs
    exacts [hf.sound.ring j, hr, fun _ e => by cases e]
  · rw [hub_append rfl]
    rcases lt_trichotomy j w.hubs.length with h | rfl | h
    · simp [h, h.ne]
    · simp [hu]
    · simp only [Nat.not_lt.mpr h.le, h.ne', if_false, World.hub,
        List.getD_eq_default _ _ h.le]
  · have hd : (w.hub w.hubs.length).udpConns = [] := by
      rw [World.hub, List.getD_eq_default _ _ le_rfl]; rfl
    rw [hd]
    simpa using openSocks_closed w conns s
  · rw [hub_append rfl]
    split_ifs with h₁
    exacts [rfl, by rw [World.hub, List.getD_eq_default _ _ (Nat.le_of_not_lt h₁)]]
  · rw [hub_append rfl, if_neg (lt_irrefl _), if_pos rfl]
    exact openSocks_bound hc hs

/-- `Close` and `UpdateInterfaces`: hub `i`'s sockets close, and it takes the fresh open sockets
of `hub`. -/
theorem setConns {i : Nat} {hub : StreamHub} {socks : List Sock} (hf : Follows w₀ w)
    (hi : i < w.hubs.length)
    (hs : ∀ s, (({ w with socks } : World).sock s).closed = false ↔
      s ∈ hub.udpConns ∨ (w.sock s).closed = false ∧ s ∉ (w.hub i).udpConns)
    (hlen : w.socks.length ≤ socks.length) (hfresh : ∀ s ∈ hub.udpConns, w.socks.length ≤ s)
    (hold : ∀ s < w.socks.length, (({ w with socks } : World).sock s).addr = (w.sock s).addr ∧
      (({ w with socks } : World).sock s).udpAddr = (w.sock s).udpAddr)
    (hb : ∀ s ∈ hub.udpConns, (({ w with socks } : World).sock s).addr ∈ hub.addrList ∧
      isMulticast (({ w with socks } : World).sock s).udpAddr.ip = true)
    (ha : hub.addrList = (w.hub i).addrList) (ho : hub.onEmpty = (w.hub i).onEmpty)
    (hr : hub.RingOk) (hc : (w.hub i).closed = true → hub.closed = true ∧ hub.udpConns ≠ []) :
    Follows w₀ (({ w with socks } : World).setHub i hub) := by
  have hsk : SocksKept w ({ w with socks } : World) := fun s hl =>
    ⟨lt_of_lt_of_le hl hlen, fun ho => ((hs s).mp ho).elim
      (fun hn => absurd (hfresh s hn) (Nat.not_le.mpr hl)) fun h => ⟨h.1, fun _ hj => hj⟩⟩
  have hk : Keeps w (({ w with socks } : World).setHub i hub) :=
    (@Keeps.of_hubs w { w with socks } rfl hsk .rfl).trans (Keeps.setHub ha (fun _ e => ho ▸ e) (fun h _ => hc h)
      fun s ho hm => ((hs s).mp ho).resolve_right fun h => h.2 hm)
  refine ⟨hf.sound.keeps hk (fun j => ?_) rfl rfl rfl rfl
    (hf.sound.socks.replace i hub.udpConns (fun j => ?_) hs hfresh
      (fun j hj => by rw [hub_setHub_ne _ (Ne.symm hj)]; rfl) hold
      fun s hs => by rw [hub_setHub_self ({ w with socks } : World) hi]; exact hb s hs),
    hf.keeps.trans hk⟩
  · rw [hub_setHub]
    split_ifs
    exacts [hr, hf.sound.ring j]
  · rw [hub_setHub]
    by_cases e : j = i
    · subst e; simp [hi]
    · rw [if_neg fun h => e h.1.symm, if_neg e]; rfl

theorem setAlloc {n : Nat} (hf : Follows w₀ w) : Follows w₀ { w with nextAlloc := n } :=
  hf.of_hubs rfl rfl .rfl rfl rfl rfl rfl

/-- `startReadLoops`' loop starts a receive loop on each socket it is given, all of them
held by the hub. -/
theorem spawnReadLoops {h : Nat} {addrs : List String} :
    ∀ {w : World} {idx : Nat} {conns : List Nat},
      w.spawnReadLoops h addrs idx conns = .ok w' → Follows w₀ w →
        (∀ c ∈ conns, c ∈ (w.hub h).udpConns) → Follows w₀ w'
  | _, _, [], e, hf, _ => by cases e; exact hf
  | _, _, c :: _, e, hf, hc => by
    obtain ⟨_, -, e⟩ := bind_eq_ok e
    obtain ⟨_, -, e⟩ := bind_eq_ok e
    have hm := hc c (.head _)
    exact spawnReadLoops e (hf.spawn ⟨hf.sound.socks.lt_length hm, fun _ => hm⟩)
      fun c' h' => hc c' (.tail _ h')

theorem close {h : Nat} (e : w.close h = .ok w') (hf : Follows w₀ w) : Follows w₀ w' := by
  unfold World.close at e
  dsimp only at e
  split at e
  · cases e; exact hf
  rename_i hnc
  obtain ⟨chans, hcl, e⟩ := bind_eq_ok e
  obtain ⟨_, hidx, e⟩ := bind_eq_ok e
  cases e
  have hi : h < w.hubs.length := lt_length_of_addrList fun hn => by simp [hn, index] at hidx
  refine Follows.setConns (hf.of_hubs (show ({ w with chans } : World).hubs = w.hubs from rfl)
    rfl (chansExtend_closeChans hcl) rfl rfl rfl rfl) hi (fun s => ?_)
    (closeSocks_length w _).ge nofun
    (fun s _ => w.closeSocks_addr (w.hub h).udpConns s)
    nofun rfl rfl (fun _ e => by cases e) (absurd · hnc)
  show ((w.closeSocks (w.hub h).udpConns).sock s).closed = false ↔ _
  rw [closeSocks_closed]
  simp only [Bool.or_eq_false_iff, decide_eq_false_iff_not, List.not_mem_nil, false_or]
  exact and_comm

theorem broadcastLocked {h : Nat} {data : Frame} {cs : List HubClient}
    (e : w.broadcastLocked h data = .ok (some (w', cs))) (hf : Follows w₀ w) : Follows w₀ w' := by
  unfold World.broadcastLocked at e
  dsimp only at e
  split at e
  · rename_i ring _ hr _
    obtain ⟨r', hp, hr'⟩ := (hf.sound.ring h ring hr).push data
    rw [hp] at e
    cases e
    exact hf.setHub rfl (fun _ e => e) (fun _ e => by cases e; exact hr') rfl rfl
  · cases e

theorem runAdd {h : Nat} {c : HubClient} (e : w.runAdd h c = .ok w') (hf : Follows w₀ w) :
    Follows w₀ w' := by
  obtain ⟨_, -, e⟩ := bind_eq_ok e
  cases e
  exact hf.setHub_of_eq rfl

theorem runRemove {h : Nat} {k : String} {b : Bool} (e : w.runRemove h k = .ok (w', b))
    (hf : Follows w₀ w) : Follows w₀ w' := by
  unfold World.runRemove at e
  dsimp only at e
  split at e
  · obtain ⟨_, hcl, e⟩ := bind_eq_ok e
    cases e
    exact Follows.setHub_of_eq (hf.setChan (.close hcl)) rfl
  · cases e; exact hf

theorem runClosed {h : Nat} (e : w.runClosed h = .ok w') (hf : Follows w₀ w) : Follows w₀ w' := by
  obtain ⟨chans, hcl, e⟩ := bind_eq_ok e
  cases e
  exact Follows.setHub_of_eq (hf.of_hubs (show ({ w with chans } : World).hubs = w.hubs from rfl)
    rfl (chansExtend_closeChans hcl) rfl rfl rfl rfl) rfl

theorem transferClientsTo {h n : Nat} (hne : h ≠ n) (e : w.transferClientsTo h n = .ok w')
    (hf : Follows w₀ w) : Follows w₀ w' := by
  obtain ⟨-, hd⟩ := StreamHub.ringOr_ok (hf.sound.ring n) (hf.sound.ring h)
  unfold World.transferClientsTo at e
  dsimp only at e
  obtain ⟨dstRing, e₁, e⟩ := bind_eq_ok e
  obtain ⟨_, -, e⟩ := bind_eq_ok e
  obtain ⟨frames, -, e⟩ := bind_eq_ok e
  obtain ⟨ring, e₄, e⟩ := bind_eq_ok e
  obtain ⟨⟨clients, chans⟩, hte, e⟩ := bind_eq_ok e
  cases e
  obtain ⟨_, hp, hr⟩ := (hd dstRing e₁).pushAll frames
  rw [hp] at e₄
  cases e₄
  exact ((hf.of_hubs (show ({ w with chans } : World).hubs = w.hubs from rfl) rfl
    (chansExtend_transferEach hte) rfl rfl rfl rfl).setHub (by rfl) (fun _ e => by exact e) (fun _ e => by cases e; exact hr) (by rfl)
    (by rfl)).setHub (by rw [hub_setHub_ne _ hne.symm]; rfl)
    (by rw [hub_setHub_ne _ hne.symm]; exact fun _ e => e) (by exact hf.sound.ring h)
    (by rw [hub_setHub_ne _ hne.symm]; rfl) (by rw [hub_setHub_ne _ hne.symm]; rfl)

theorem updateInterfaces {h : Nat} {ifaces : List String} {net : Net}
    {r : Except StreamError Unit} (e : w.updateInterfaces h ifaces net = .ok (w', r))
    (hf : Follows w₀ w) : Follows w₀ w' := by
  unfold World.updateInterfaces at e
  dsimp only at e
  rcases Nat.lt_or_ge h w.hubs.length with hi | hi
  swap
  · rw [World.hub, List.getD_eq_default _ _ hi] at e
    cases e
    exact hf
  generalize hres : updateInterfacesConns net ifaces (w.hub h).addrList none = res at e
  rcases res with ⟨_ | ⟨conn, conns⟩, lastErr⟩
  · cases e; exact hf
  have hm : ∀ c ∈ conn :: conns, c.1 ∈ (w.hub h).addrList ∧ isMulticast c.2.ip = true :=
    fun c hc => updateInterfacesConns_mem (by rw [hres]; exact hc)
  dsimp only at e
  rw [openSocks_eq] at e
  dsimp only at e
  obtain ⟨_, e₁, e⟩ := bind_eq_ok e
  cases e
  refine spawnReadLoops e₁ (@Follows.setConns w₀ w h _ _ hf hi ?_ ?_ ?_ ?_ ?_ ?_ ?_ ?_ ?_)
    fun _ h => h
  rotate_left
  · rw [List.length_append, closeSocks_length]
    exact Nat.le_add_right _ _
  · intro s hs
    rw [← closeSocks_length w (w.hub h).udpConns]
    exact (List.mem_range'_1.mp hs).1
  · intro s hs
    rw [← closeSocks_length w (w.hub h).udpConns] at hs
    simp only [World.sock, List.getD_append _ _ _ _ hs]
    exact w.closeSocks_addr _ s
  · exact fun s hs => openSocks_bound hm hs
  · rfl
  · rfl
  · exact hf.sound.ring h
  · exact fun hc => ⟨hc, by simp⟩
  · intro s
    have := openSocks_closed (w.closeSocks (w.hub h).udpConns) (conn :: conns) s
    rw [closeSocks_closed] at this
    simpa [and_comm] using this

/-- `NewStreamHub` makes hub `i` with the addresses it was given and no `OnEmpty`. -/
theorem newStreamHub {addrs ifaces : List String} {net : Net} {i : Nat}
    (e : w.newStreamHub addrs ifaces net = .ok (.ok (w', i))) (hf : Follows w₀ w) :
    Follows w₀ w' ∧ addrs ≠ [] ∧ (w'.hub i).addrList = addrs ∧ (w'.hub i).onEmpty = none := by
  obtain ⟨ring, hn, hr⟩ := ringOk_newRingBuffer
  unfold World.newStreamHub at e
  split at e
  · cases e
  rename_i hne
  generalize hres : newStreamHubConns net ifaces addrs none = res at e
  rcases res with ⟨_ | ⟨conn, conns⟩, lastErr⟩
  · cases e
  have hm : ∀ c ∈ conn :: conns, c.1 ∈ addrs ∧ isMulticast c.2.ip = true :=
    fun c hc => newStreamHubConns_mem (by rw [hres]; exact hc)
  dsimp only at e
  rw [hn, openSocks_eq, ok_bind] at e
  have ha : addrs ≠ [] := fun e => hne (by simp [e])
  obtain ⟨w₂, e₁, e⟩ := bind_eq_ok e
  cases e
  obtain ⟨ts, rfl, -⟩ := spawnReadLoops_of_eq (by simpa [World.hub] using ha) e₁
  refine ⟨spawnReadLoops e₁ (Follows.spawn (Follows.openHub hf ?_ rfl hm) ?_)
    fun _ h => h, ha, ?_, ?_⟩
  · exact fun _ e => by cases e; exact hr
  · exact ⟨by simpa [World.hub] using ha, fun _ e => by cases e⟩
  · simp [World.hub]
  · simp [World.hub]

theorem removeHubLocked {md5Hex : String → String} {udpAddr : String} {ifaces : List String}
    {r : Option Nat} (e : w.removeHubLocked md5Hex udpAddr ifaces = (w', r)) (hf : Follows w₀ w) :
    Follows w₀ w' ∧ ∀ h, r = some h → (w.hub h).addrList ≠ [] := by
  unfold World.removeHubLocked at e
  dsimp only at e
  split at e
  · rename_i hub hl
    cases e
    refine ⟨hf.erase _, fun h e => ?_⟩
    cases e
    obtain ⟨k', hm, -⟩ := Registry.mem_of_lookup hl
    exact (hf.sound.registry k' _ hm).addrList_ne_nil
  · cases e
    exact ⟨hf, fun _ e => by cases e⟩

end Follows

/-! ## Steps -/

/-- A section, then a write of its result that `Follows` keeps. -/
theorem Follows.commit_bind {w₀ w : World} {x : Go World} {f : World → World} (hf : Follows w₀ w)
    (hb : NoBoundsPanic x) (hx : ∀ w₁, x = .ok w₁ → Follows w₀ w₁)
    (hfx : ∀ w₁, Follows w₀ w₁ → Follows w₀ (f w₁)) :
    Follows w₀ (w.commit (x >>= fun w₁ => pure (f w₁))) :=
  hf.commit (hb.bind fun _ _ => noBoundsPanic_of_ok rfl) fun _ e =>
    let ⟨w₁, h₁, h₂⟩ := bind_eq_ok e
    by cases h₂; exact hfx w₁ (hx w₁ h₁)

section Steps

variable {md5Hex : String → String} {w w' : World} {t : Nat}

theorem RunStep.follows (hs : Sound w) {h : Nat} {pc : RunPc} {i : Input}
    (ht : w.task t = .run h pc) (hst : RunStep md5Hex w t h pc i w') : Follows w w' := by
  have hok : Task.Ok w (.run h pc) := ht ▸ hs.tasks t
  have hf := Follows.of_sound hs
  cases hst with
  | add =>
    exact hf.commit_bind (noBoundsPanic_runAdd _ _) (fun _ e => Follows.runAdd e (hf.setHub_of_eq rfl))
      fun _ h₁ => h₁.spawn trivial
  | remove =>
    refine hf.commit ((noBoundsPanic_runRemove _ _).bind fun _ _ => noBoundsPanic_of_ok rfl)
      fun _ e => ?_
    obtain ⟨⟨w₁, b⟩, e₁, e₂⟩ := bind_eq_ok e
    have hf₁ := Follows.runRemove e₁ (hf.setHub_of_eq rfl)
    cases b <;> cases e₂
    · exact hf₁
    · exact hf₁.setTask ((show Task.Ok w (.run h .reap) from ⟨hok.1, nofun⟩).keeps hf₁.keeps)
  | closed =>
    exact hf.commit_bind (noBoundsPanic_runClosed _) (fun _ e => Follows.runClosed e hf)
      fun _ h₁ => h₁.setTask trivial
  | reap =>
    exact hf.commit_bind (noBoundsPanic_close hok.1) (fun _ e => Follows.close e hf) fun _ h₁ =>
      h₁.setTask ((show Task.Ok w (.run h .onEmpty) from ⟨hok.1, nofun⟩).keeps h₁.keeps)
  | onEmptyNil => exact hf.setTask trivial
  | @onEmpty ifaces _ =>
    obtain ⟨_, hi⟩ := index_ok (w.hub h).addrList 0 le_rfl
      (by exact_mod_cast List.length_pos.mpr hok.1)
    refine hf.commit ((noBoundsPanic_of_ok hi).bind fun _ _ => ?_) fun _ e => ?_
    · split <;> exact noBoundsPanic_of_ok rfl
    obtain ⟨addr, -, e₂⟩ := bind_eq_ok e
    split at e₂ <;> cases e₂
    · rename_i h' hr
      obtain ⟨hf₁, hh'⟩ := Follows.removeHubLocked hr hf
      exact hf₁.setTask ((show Task.Ok w (.run h (.closeRemoved h')) from
        ⟨hok.1, fun _ e => by cases e; exact hh' h' rfl⟩).keeps hf₁.keeps)
    · exact (Follows.removeHubLocked ‹_› hf).1.setTask trivial
  | closeRemoved =>
    exact hf.commit_bind (noBoundsPanic_close (hok.2 _ rfl)) (fun _ e => Follows.close e hf)
      fun _ h₁ => h₁.setTask trivial

theorem ReadStep.follows (hs : Sound w) {h sock : Nat} {hubAddr : String} {pc : ReadPc}
    {i : Input} (ht : w.task t = .readLoop h sock hubAddr pc)
    (hst : ReadStep w t h sock hubAddr pc i w') : Follows w w' := by
  have hok : Task.Ok w (.readLoop h sock hubAddr pc) := ht ▸ hs.tasks t
  have hf := Follows.of_sound hs
  cases hst with
  | resolve | skip | input | broadcastNil | fanoutDone | sendFull => exact hf.setTask hok
  | resolveFail => exact hf.fail rfl
  | loop => exact hf.setTask (by split; exacts [trivial, hok])
  | datagram | copy => exact Follows.setAlloc (hf.setTask hok)
  | readError | stopped => exact hf.setTask trivial
  | broadcastFail _ hb => exact hf.fail (hs.noBoundsPanic_broadcastLocked _ _ _ hb)
  | broadcast _ hb => exact Follows.setTask_of_ok (Follows.broadcastLocked hb hf) hok
  | sendFail _ hp | resendFail hp => exact hf.fail (Chan.noBoundsPanic_trySend _ _ _ hp)
  | send _ hp => exact Follows.setTask_of_ok (hf.setChan (.trySend hp)) hok
  | drop => exact Follows.setTask_of_ok (Follows.setHub_of_eq hf rfl) hok
  | drainResend => exact Follows.setTask_of_ok (hf.setChan .tryRecv) hok
  | drain => exact Follows.setTask_of_ok (Follows.setHub_of_eq (hf.setChan .tryRecv) rfl) hok
  | resend hp =>
    exact Follows.setTask_of_ok (Follows.setHub_of_eq (hf.setChan (.trySend_getD hp)) rfl) hok

theorem PrimeStep.follows (hs : Sound w) {h ch : Nat} {pc : PrimePc} {i : Input}
    (hst : PrimeStep w t h ch pc i w') : Follows w w' := by
  have hf := Follows.of_sound hs
  cases hst with
  | snapshot | done | sendFull => exact hf.setTask trivial
  | snapshotFail _ hp => exact hf.fail (hs.noBoundsPanic_snapshot _ _ hp)
  | check => exact hf.setTask (by split <;> trivial)
  | sendFail hp => exact hf.fail (Chan.noBoundsPanic_trySend _ _ _ hp)
  | send hp => exact Follows.setTask (hf.setChan (.trySend hp)) trivial

theorem ServeStep.follows (hs : Sound w) {s : Session} {i : Input} (ht : w.task t = .serve s)
    (hst : ServeStep w t s i w') : Follows w w' := by
  have hok : Task.Ok w (.serve s) := ht ▸ hs.tasks t
  obtain ⟨⟨hfl, hpc⟩, hch, hsub⟩ := hok
  have hf := Follows.of_sound hs
  have hmax : 0 < maxBufferSize := by decide
  cases hst with
  | attach hp =>
    rw [hp] at hpc
    exact Follows.setTask (Follows.setHub_of_eq hf rfl) ⟨⟨hfl, hpc⟩, hch, hsub⟩
  | headers hp =>
    rw [hp] at hpc
    exact hf.setTask (by split; exacts [⟨⟨hfl, hpc⟩, hch, hsub⟩, ⟨⟨hfl, trivial⟩, hch, hsub⟩])
  | playing hp => rw [hp] at hpc; exact hf.setTask ⟨⟨hfl, by simp [hpc], hmax⟩, hch, hsub⟩
  | waitLoop hp => rw [hp] at hpc; exact hf.setTask ⟨⟨hfl, hpc⟩, hch, hsub⟩
  | notPlaying | queueClosed | cancel | hubClosed => exact hf.setTask ⟨⟨hfl, trivial⟩, hch, hsub⟩
  | @writeFail b f c _ hr =>
    have hch₁ : s.ch < (w.setChan s.ch c).chans.length := by simpa [World.setChan] using hch
    exact Follows.setTask (hf.setChan (.recv hr)) ⟨⟨hfl, trivial⟩, hch₁,
      by dsimp only; rw [w.chan_setChan_self hch c]; exact Chan.Extends.recv hr s.body hsub⟩
  | @write b f c hp hr =>
    rw [hp] at hpc
    have hch₁ : s.ch < (w.setChan s.ch c).chans.length := by simpa [World.setChan] using hch
    obtain ⟨hbuf, hsent⟩ := Chan.recv_some hr
    have hsub₁ : (s.body ++ [f] ++ ((w.setChan s.ch c).chan s.ch).buf).Sublist
        ((w.setChan s.ch c).chan s.ch).sent := by
      rw [w.chan_setChan_self hch c, hsent]; simpa [hbuf] using hsub
    refine Follows.setTask (hf.setChan (.recv hr)) ?_
    split
    · exact ⟨⟨le_rfl, by simp, hmax⟩, hch₁, hsub₁⟩
    · rename_i hlt
      refine ⟨⟨by simp only [List.length_append]; omega, ?_, by omega⟩, hch₁, hsub₁⟩
      simp [List.drop_append_of_le_length hfl, hpc.1]
  | flushTick =>
    exact hf.setTask (by split; exacts [⟨⟨le_rfl, by simp, hmax⟩, hch, hsub⟩, ⟨⟨hfl, hpc⟩, hch, hsub⟩])
  | detach => exact Follows.setTask (Follows.setHub_of_eq hf rfl) ⟨⟨hfl, trivial⟩, hch, hsub⟩

theorem CallStep.follows (hs : Sound w) {udpAddr : String} {ifaces : List String} {pc : CallPc}
    {i : Input} (ht : w.task t = .call udpAddr ifaces pc)
    (hst : CallStep w t udpAddr ifaces pc i w') : Follows w w' := by
  have hok : Task.Ok w (.call udpAddr ifaces pc) := ht ▸ hs.tasks t
  have hf := Follows.of_sound hs
  cases hst with
  | checkClosed => exact hf.setTask fun _ e => by split at e <;> cases e
  | createFail hn => exact hf.fail (noBoundsPanic_newStreamHub _ _ _ _ hn)
  | createError => exact hf.setTask nofun
  | @create net w₁ j hn =>
    obtain ⟨hf₁, -, ha, ho⟩ := Follows.newStreamHub hn hf
    have hj := lt_length_of_addrList (ha ▸ List.cons_ne_nil udpAddr [])
    refine Follows.setTask (hf₁.setHub rfl (fun _ e => by rw [ho] at e; cases e)
      (hf₁.sound.ring j) rfl rfl) ?_
    rintro _ ⟨⟩
    rw [hub_setHub_self _ hj]
    exact ⟨udpAddr, ifaces, rfl, ha, rfl⟩
  | insert => exact Follows.register (hf.setTask nofun) (hok _ rfl)

theorem ActionStep.follows (hs : Sound w) {a : Action} (hst : ActionStep md5Hex w a w') :
    Follows w w' := by
  have hf := Follows.of_sound hs
  cases hst with
  | getOrCreateFound | getOrCreateMissing => exact hf.spawn nofun
  | refused => exact hf.spawn trivial
  | @removeHubEx _ _ _ hub hr =>
    obtain ⟨hf₁, hh⟩ := Follows.removeHubLocked hr hf
    exact hf₁.spawn ((show Task.Ok w (.closeRemoved hub) from hh hub rfl).keeps hf₁.keeps)
  | removeHubExMissing hr => exact (Follows.removeHubLocked hr hf).1
  | newStreamHubFail hn => exact hf.fail (noBoundsPanic_newStreamHub _ _ _ _ hn)
  | newStreamHubError => exact hf
  | newStreamHub hn =>
    obtain ⟨hf₁, hne, ha, -⟩ := Follows.newStreamHub hn hf
    exact hf₁.publish (ha ▸ hne)
  | serveHTTP =>
    exact Follows.spawn (hf.of_hubs rfl rfl (.append clientChanCap) rfl rfl rfl rfl)
      ⟨⟨le_rfl, rfl⟩, by simp, by simp [World.chan]; exact .slnil⟩
  | close hp => exact hf.commit (noBoundsPanic_close (hs.published _ hp)) fun _ e => Follows.close e hf
  | @updateInterfaces h ifaces net hp _ =>
    have ha := hs.published h hp
    rcases hu : w.updateInterfaces h ifaces net with p | ⟨w₁, r⟩
    · exact hf.fail (noBoundsPanic_updateInterfaces ha ifaces net p hu)
    · exact Follows.updateInterfaces hu hf
  | transferClientsTo _ _ hne =>
    exact hf.commit (hs.noBoundsPanic_transferClientsTo _ _) fun _ e =>
      Follows.transferClientsTo hne e hf
  | run ht hr => exact hr.follows hs ht
  | readLoop ht hr => exact hr.follows hs ht
  | prime _ hr => exact hr.follows hs
  | serve ht hr => exact hr.follows hs ht
  | call ht hr => exact hr.follows hs ht
  | @closeRemoved u h ht _ =>
    have hok : Task.Ok w (.closeRemoved h) := ht ▸ hs.tasks u
    exact hf.commit_bind (noBoundsPanic_close hok) (fun _ e => Follows.close e hf)
      fun _ h₁ => h₁.setTask trivial

end Steps

theorem Sound.init : Sound World.init where
  ring _ _ e := by cases e
  published _ e := by cases e
  registry _ _ e := by cases e
  tasks _ := trivial
  socks := ⟨fun _ => ⟨nofun, fun ⟨_, h⟩ => by cases h⟩, (fun _ _ _ h => by cases h),
    fun _ _ h => by cases h⟩
  panic _ e := by cases e

theorem step_follows {md5Hex : String → String} {w w' : World} {a : Action} (hs : Sound w)
    (hst : step md5Hex w a = some w') : Follows w w' :=
  (step_cases hst).2.follows hs

/-- Every reachable state is sound. -/
theorem sound_of_reachable {md5Hex : String → String} {w : World} (hw : Reachable md5Hex w) :
    Sound w := by
  induction hw with
  | init => exact .init
  | step _ _ hst ih => exact (step_follows ih hst).sound

/-- A run from a reachable state keeps its hubs. -/
theorem keeps_of_run {md5Hex : String → String} :
    ∀ {w w' : World} {actions : List Action},
      Reachable md5Hex w → run md5Hex w actions = some w' → Keeps w w'
  | _, _, [], _, h => by cases h; exact .rfl
  | w, _, a :: actions, hw, h => by
    rcases hs : step md5Hex w a with _ | w₁
    · simp [run, hs] at h
    · simp only [run, hs, Option.bind_some] at h
      exact (step_follows (sound_of_reachable hw) hs).keeps.trans (keeps_of_run (.step a hw hs) h)

/-! ## Whole runs -/

/-- **Only three panics.** In every reachable state, over any interleaving of every goroutine
and every call into the package, a goroutine that has panicked did so dereferencing a nil
pointer, assigning into a nil map or sending on a closed channel: no index, slice bound or
`make` length ever fails, and no channel is closed twice. -/
theorem reachable_panic {md5Hex : String → String} {w : World} {p : Panic}
    (hw : Reachable md5Hex w) (hp : w.panic = some p) :
    p = .nilDereference ∨ p = .nilMapAssignment ∨ p = .sendOnClosed := by
  have hb := (sound_of_reachable hw).panic p hp
  have hc : p ≠ .closeOfClosed := fun e => (queueInv_of_reachable hw).no_double_close (e ▸ hp)
  cases p <;> simp_all [Panic.boundsCheck]

/-- A session attaches to a hub that is then closed: `run` takes the session from `addCh`
and writes it into the client table `Close` set to nil. -/
def addIntoClosedHub : List Action :=
  [.newStreamHub ["239.0.0.1:5000"] [] groupNet, .serveHTTP 0 "A" "" "video/mp2t" 0, .step 2 .go,
    .close 0, .step 0 .add]

/-- The state `addIntoClosedHub` ends in. -/
def addIntoClosedHubWorld : World := (run id World.init addIntoClosedHub).getD World.init

theorem addIntoClosedHub_panic :
    Reachable id addIntoClosedHubWorld ∧ addIntoClosedHubWorld.panic = some .nilMapAssignment ∧
    (Panic.nilMapAssignment = .nilDereference ∨ Panic.nilMapAssignment = .nilMapAssignment ∨
      Panic.nilMapAssignment = .sendOnClosed) :=
  have hw : Reachable id addIntoClosedHubWorld := reachable_run_getD rfl
  ⟨hw, rfl, reachable_panic hw rfl⟩

/-- **A frame cache never panics.** In every reachable state, the frame cache of every hub is
a ring of `cacheFrames` slots holding the frames last pushed into it: the `% r.size` of its
`Push` never divides by zero and its `GetAll` never indexes out of range. This is the ring's
part of `reachable_panic`; `hub_counters` says which frames the ring holds. -/
theorem reachable_ring {md5Hex : String → String} {w : World} {r : RingBuffer Frame}
    (hw : Reachable md5Hex w) (i : Nat) (hr : (w.hub i).cacheBuffer = some r) :
    r.size = cacheFrames ∧ (∃ items, r.Holds items) ∧ (∃ frames, r.getAll = .ok frames) ∧
      ∀ f, ∃ r', r.push f = .ok r' := by
  have hok := (sound_of_reachable hw).ring i r hr
  exact ⟨hok.1, hok.2, hok.getAll, fun f => (hok.push f).imp fun _ => And.left⟩

/-- **A registered hub is removed under its own key.** In every reachable state, a hub the
registry maps a key to listens on exactly one address and has its `OnEmpty` set for some
interfaces, and `HubKey` of that address and those interfaces is the key's digest: the
`RemoveHubEx` its `OnEmpty` makes deletes the entry the hub was registered under. -/
theorem registered_hub_key {md5Hex : String → String} {w : World} {k : String} {h : Nat}
    (hw : Reachable md5Hex w) (hl : w.registry.lookup md5Hex k = some h) :
    h < w.hubs.length ∧ ∃ udpAddr ifaces, (w.hub h).addrList = [udpAddr] ∧
      (w.hub h).onEmpty = some ifaces ∧ hubKey md5Hex udpAddr ifaces = md5Hex k := by
  obtain ⟨k', hm, hk⟩ := Registry.mem_of_lookup hl
  obtain ⟨udpAddr, ifaces, rfl, ha, ho⟩ := (sound_of_reachable hw).registry k' h hm
  exact ⟨World.lt_length_of_onEmpty ho, udpAddr, ifaces, ha, ho, hk⟩

/-- One `GetOrCreateHub` call, run to its return. -/
def getOrCreateOnce : List Action :=
  [.getOrCreateHub "239.0.0.1:5000" [], .step 0 (.net groupNet), .step 0 .go]

/-- The state `getOrCreateOnce` ends in. -/
def getOrCreateOnceWorld : World := (run id World.init getOrCreateOnce).getD World.init

theorem getOrCreateOnce_key :
    Reachable id getOrCreateOnceWorld ∧
    getOrCreateOnceWorld.registry.lookup id "239.0.0.1:5000" = some 0 ∧
    (0 < getOrCreateOnceWorld.hubs.length ∧
      ∃ udpAddr ifaces, (getOrCreateOnceWorld.hub 0).addrList = [udpAddr] ∧
        (getOrCreateOnceWorld.hub 0).onEmpty = some ifaces ∧
        hubKey id udpAddr ifaces = id "239.0.0.1:5000") :=
  have hw : Reachable id getOrCreateOnceWorld := reachable_run_getD rfl
  ⟨hw, rfl, registered_hub_key hw rfl⟩

/-- **Every socket has one owner.** In every reachable state, a socket is open exactly when a
hub holds it in `UdpConns`, and no two hubs hold it: `NewStreamHub` and `UpdateInterfaces`
hand every socket they open to the hub, and `Close` and `UpdateInterfaces` close exactly the
sockets they drop. -/
theorem reachable_socket_owner {md5Hex : String → String} {w : World} (hw : Reachable md5Hex w)
    (s : Nat) : ((w.sock s).closed = false ↔ ∃ i, s ∈ (w.hub i).udpConns) ∧
      ∀ i j, s ∈ (w.hub i).udpConns → s ∈ (w.hub j).udpConns → i = j :=
  have hs := (sound_of_reachable hw).socks
  ⟨hs.open_iff s, fun i j => hs.owner i j s⟩

theorem oneHub_socket_owner :
    Reachable id oneHubWorld ∧
    ((oneHubWorld.sock 0).closed = false ↔ ∃ i, 0 ∈ (oneHubWorld.hub i).udpConns) ∧
      ∀ i j, 0 ∈ (oneHubWorld.hub i).udpConns → 0 ∈ (oneHubWorld.hub j).udpConns → i = j :=
  have hw : Reachable id oneHubWorld := reachable_run_getD rfl
  ⟨hw, reachable_socket_owner hw 0⟩

/-- **What the hubs listen on.** In every reachable state, each socket a hub holds was opened
for one of that hub's own addresses, and is bound to an IPv4 multicast address:
`listenMulticast` refuses any other address before it binds, on its unicast fallbacks too,
and only the sockets of `NewStreamHub` and `UpdateInterfaces` reach a hub. -/
theorem reachable_socket_bound {md5Hex : String → String} {w : World} (hw : Reachable md5Hex w)
    (i s : Nat) (hs : s ∈ (w.hub i).udpConns) :
    (w.sock s).addr ∈ (w.hub i).addrList ∧ isMulticast (w.sock s).udpAddr.ip = true :=
  (sound_of_reachable hw).socks.bound i s hs

theorem oneHub_socket_bound :
    Reachable id oneHubWorld ∧ 0 ∈ (oneHubWorld.hub 0).udpConns ∧
    ((oneHubWorld.sock 0).addr ∈ (oneHubWorld.hub 0).addrList ∧
      isMulticast (oneHubWorld.sock 0).udpAddr.ip = true) :=
  have hw : Reachable id oneHubWorld := reachable_run_getD rfl
  have hs : 0 ∈ (oneHubWorld.hub 0).udpConns := List.mem_singleton_self 0
  ⟨hw, hs, reachable_socket_bound hw 0 0 hs⟩

/-- **Each receive loop reads for its own hub.** In every reachable state, a receive loop of
hub `h` whose socket is still open reads a socket that `h` holds, opened for one of `h`'s
addresses on a multicast group: sockets are never reopened, `UpdateInterfaces` closes the
sockets it takes from a hub, and no socket moves to another hub. So every datagram a hub
broadcasts came in on one of its own sockets. -/
theorem reachable_readLoop_socket {md5Hex : String → String} {w : World}
    (hw : Reachable md5Hex w) {t h s : Nat} {hubAddr : String} {pc : ReadPc}
    (ht : w.task t = .readLoop h s hubAddr pc) (ho : (w.sock s).closed = false) :
    s ∈ (w.hub h).udpConns ∧ (w.sock s).addr ∈ (w.hub h).addrList ∧
      isMulticast (w.sock s).udpAddr.ip = true := by
  have hs := sound_of_reachable hw
  have hok : Task.Ok w (.readLoop h s hubAddr pc) := ht ▸ hs.tasks t
  exact ⟨hok.2 ho, hs.socks.bound h s (hok.2 ho)⟩

theorem oneHub_readLoop_socket :
    Reachable id oneHubWorld ∧ oneHubWorld.task 1 = .readLoop 0 0 "239.0.0.1:5000" .start ∧
    (oneHubWorld.sock 0).closed = false ∧
    (0 ∈ (oneHubWorld.hub 0).udpConns ∧ (oneHubWorld.sock 0).addr ∈ (oneHubWorld.hub 0).addrList ∧
      isMulticast (oneHubWorld.sock 0).udpAddr.ip = true) :=
  have hw : Reachable id oneHubWorld := reachable_run_getD rfl
  have ht : oneHubWorld.task 1 = .readLoop 0 0 "239.0.0.1:5000" .start := rfl
  ⟨hw, ht, rfl, reachable_readLoop_socket hw ht rfl⟩

/-- **A closed hub's sockets are never released.** Once a hub is closed, `Close` returns at
once, and `UpdateInterfaces` swaps its sockets only for new ones: along every run, a closed
hub that holds sockets stays closed and holds an open socket in every later state. So the
sockets `UpdateInterfaces` opens on a closed hub keep their ports bound for good. -/
theorem closed_hub_holds_socket {md5Hex : String → String} {w w' : World}
    {actions : List Action} {i : Nat} (hw : Reachable md5Hex w)
    (hr : run md5Hex w actions = some w') (hc : (w.hub i).closed = true)
    (hu : (w.hub i).udpConns ≠ []) :
    (w'.hub i).closed = true ∧ ∃ s ∈ (w'.hub i).udpConns, (w'.sock s).closed = false := by
  obtain ⟨hc', hu'⟩ := (keeps_of_run hw hr).closedConns i hc hu
  obtain ⟨s, hm⟩ := List.exists_mem_of_ne_nil _ hu'
  have hs := (sound_of_reachable (run_reachable md5Hex hw hr)).socks
  exact ⟨hc', s, hm, (hs.open_iff s).mpr ⟨i, hm⟩⟩

/-- A hub is closed, and `UpdateInterfaces` then opens a socket for it. -/
def reopenClosedHub : List Action :=
  [.newStreamHub ["239.0.0.1:5000"] [] groupNet, .close 0, .updateInterfaces 0 [] groupNet]

/-- The state `reopenClosedHub` ends in. -/
def reopenClosedHubWorld : World := (run id World.init reopenClosedHub).getD World.init

theorem reopenClosedHub_close_keeps_socket :
    Reachable id reopenClosedHubWorld ∧
    run id reopenClosedHubWorld [.close 0] = some reopenClosedHubWorld ∧
    (reopenClosedHubWorld.hub 0).closed = true ∧ (reopenClosedHubWorld.hub 0).udpConns ≠ [] ∧
    ((reopenClosedHubWorld.hub 0).closed = true ∧
      ∃ s ∈ (reopenClosedHubWorld.hub 0).udpConns, (reopenClosedHubWorld.sock s).closed = false) :=
  have hw : Reachable id reopenClosedHubWorld := reachable_run_getD rfl
  have hr : run id reopenClosedHubWorld [.close 0] = some reopenClosedHubWorld := rfl
  ⟨hw, hr, rfl, by decide, closed_hub_holds_socket hw hr rfl (by decide)⟩

/-- **The serve loop's accumulator.** In every reachable state, a `ServeHTTP` call in its serve
loop holds in `bufferedBytes` the size of the frames it has written since its last flush, and
that is below `maxBufferSize` (128 KiB): a write that reaches the limit flushes. Its flush
ticker can fire whenever no goroutine has panicked, and a tick flushes what is left: the call
keeps what it wrote, has flushed all of it, and holds 0 in `bufferedBytes`. -/
theorem reachable_buffered {md5Hex : String → String} {w : World} {s : Session} {b : Nat}
    (hw : Reachable md5Hex w) (t : Nat) (ht : w.task t = .serve s) (hb : s.pc = .serving b) :
    b = ((s.body.drop s.flushed).map Frame.len).sum ∧ b < maxBufferSize ∧
      (w.panic = none → ∃ w', step md5Hex w (.step t .flushTick) = some w') ∧
      ∀ w', step md5Hex w (.step t .flushTick) = some w' → ∃ s', w'.task t = .serve s' ∧
        s'.body = s.body ∧ s'.pc = .serving 0 ∧ (0 < b → s'.flushed = s'.body.length) := by
  have hok : Task.Ok w (.serve s) := ht ▸ (sound_of_reachable hw).tasks t
  obtain ⟨⟨-, hpc⟩, -⟩ := hok
  rw [hb] at hpc
  have hl := World.lt_length_of_task ht nofun
  refine ⟨hpc.1, hpc.2, fun hp => ⟨_, (step_serve _ hp ht).trans (stepServe_flushTick hb)⟩,
    fun w' hs => ?_⟩
  cases (step_cases hs).2.serve_of_task ht with
  | flushTick hb' =>
    rw [hb] at hb'
    cases hb'
    refine ⟨_, World.task_setTask_self hl _, ?_⟩
    split
    · exact ⟨rfl, rfl, fun _ => rfl⟩
    · rename_i h0
      exact ⟨rfl, by rw [hb, Nat.eq_zero_of_not_pos h0], (absurd · h0)⟩

/-- A session attaches and enters its serve loop, and the hub's receive loop sends it a
one-byte datagram, which it writes. -/
def oneFrameServed : List Action :=
  [.newStreamHub ["239.0.0.1:5000"] [] groupNet, .serveHTTP 0 "A" "" "video/mp2t" 0,
    .step 2 .go, .step 2 (.flushable true), .step 2 .go, .step 0 .add,
    .step 1 (.net groupNet), .step 1 .go, .step 1 (.datagram [0x47] none), .step 1 .go,
    .step 1 .go, .step 1 (.client 0), .step 2 (.frame true)]

/-- The state `oneFrameServed` ends in. -/
def oneFrameServedWorld : World := (run id World.init oneFrameServed).getD World.init

theorem oneFrameServed_buffered :
    Reachable id oneFrameServedWorld ∧
    ∃ s, oneFrameServedWorld.task 2 = .serve s ∧ s.pc = .serving 1 ∧
      (1 = ((s.body.drop s.flushed).map Frame.len).sum ∧ 1 < maxBufferSize ∧
        (oneFrameServedWorld.panic = none →
          ∃ w', step id oneFrameServedWorld (.step 2 .flushTick) = some w') ∧
        ∀ w', step id oneFrameServedWorld (.step 2 .flushTick) = some w' → ∃ s', w'.task 2 = .serve s' ∧
          s'.body = s.body ∧ s'.pc = .serving 0 ∧ (0 < 1 → s'.flushed = s'.body.length)) :=
  have hw : Reachable id oneFrameServedWorld := reachable_run_getD rfl
  ⟨hw, _, rfl, rfl, reachable_buffered hw 2 rfl rfl⟩

/-- **What a client is served.** In every reachable state, the frames a `ServeHTTP` call has
written, followed by those still queued for it, occur in the order they were sent to its
queue: the handler writes no frame that was not sent to its client, and none out of order. -/
theorem reachable_served_in_order {md5Hex : String → String} {w : World} {s : Session}
    (hw : Reachable md5Hex w) (t : Nat) (ht : w.task t = .serve s) :
    (s.body ++ (w.chan s.ch).buf).Sublist (w.chan s.ch).sent := by
  have hok : Task.Ok w (.serve s) := ht ▸ (sound_of_reachable hw).tasks t
  exact hok.2.2

theorem oneFrameServed_in_order :
    Reachable id oneFrameServedWorld ∧
    ∃ s, oneFrameServedWorld.task 2 = .serve s ∧ s.body.length = 1 ∧
      (s.body ++ (oneFrameServedWorld.chan s.ch).buf).Sublist (oneFrameServedWorld.chan s.ch).sent :=
  have hw : Reachable id oneFrameServedWorld := reachable_run_getD rfl
  ⟨hw, _, rfl, rfl, reachable_served_in_order hw 2 rfl⟩

/-- **What `TransferClientsTo` moves.** From every reachable state, a transfer from hub `h` to a
hub `n` with a frame cache that does not panic empties `h`'s table, puts each of `h`'s clients
into `n`'s under its connection id (over a client of `n` with the same id), and leaves in `n`'s
cache the last 8192 of `n`'s frames followed by `h`'s. -/
theorem reachable_transferClientsTo {md5Hex : String → String} {w w' : World}
    (hw : Reachable md5Hex w) {h n : Nat} (hne : h ≠ n) (hh : h < w.hubs.length)
    (hn : n < w.hubs.length) (ht : w.transferClientsTo h n = .ok w') {rd : RingBuffer Frame}
    (hd : (w.hub n).cacheBuffer = some rd) :
    (w'.hub h).clients = GoMap.empty ∧
      (∀ k, (w'.hub n).clients.get k = ((w.hub h).clients.get k).or ((w.hub n).clients.get k)) ∧
      ∃ a b, w.snapshot n = .ok a ∧ w.snapshot h = .ok b ∧
        w'.snapshot n = .ok ((a ++ b).drop ((a ++ b).length - cacheFrames.toNat)) := by
  have hs := sound_of_reachable hw
  obtain ⟨_, rs, _, _, _, _, -, hr, -⟩ := World.transferClientsTo_spec ht
  have hsrc := StreamHub.cacheBuffer_of_ring hr
  obtain ⟨hsize, _, hrd⟩ := hs.ring n rd hd
  obtain ⟨-, _, hrs⟩ := hs.ring h rs hsrc
  have hc := World.transferClientsTo_clients hne hh hn ht
  rw [← hsize]
  exact ⟨hc.1, hc.2, World.transferClientsTo_snapshot hne hn ht hd hrd hsrc hrs⟩

/-- Client `B` on hub 0 with two frames in its cache (`primedLate`), then a second hub. -/
def primedTwoHubs : List Action := primedLate ++ [.newStreamHub ["239.0.0.1:5000"] [] groupNet]

/-- The state `primedTwoHubs` ends in. -/
def primedTwoHubsWorld : World := (run id World.init primedTwoHubs).getD World.init

theorem primedTwoHubs_transferClientsTo :
    Reachable id primedTwoHubsWorld ∧ ((primedTwoHubsWorld.hub 0).clients.get "B").isSome ∧
    primedTwoHubsWorld.snapshot 0 = .ok [.mk 0 [0x47], .mk 1 [0x47]] ∧
    ∃ w', primedTwoHubsWorld.transferClientsTo 0 1 = .ok w' ∧
      (w'.hub 1).clients.get "B" = (primedTwoHubsWorld.hub 0).clients.get "B" ∧
      w'.snapshot 1 = .ok [.mk 0 [0x47], .mk 1 [0x47]] ∧
      ((w'.hub 0).clients = GoMap.empty ∧
        (∀ k, (w'.hub 1).clients.get k =
          ((primedTwoHubsWorld.hub 0).clients.get k).or ((primedTwoHubsWorld.hub 1).clients.get k)) ∧
        ∃ a b, primedTwoHubsWorld.snapshot 1 = .ok a ∧ primedTwoHubsWorld.snapshot 0 = .ok b ∧
          w'.snapshot 1 = .ok ((a ++ b).drop ((a ++ b).length - cacheFrames.toNat))) :=
  have hw : Reachable id primedTwoHubsWorld := reachable_run_getD rfl
  ⟨hw, rfl, rfl, _, rfl, rfl, rfl,
    reachable_transferClientsTo hw (by decide) (by decide) (by decide) rfl rfl⟩

end TvGate.Stream
