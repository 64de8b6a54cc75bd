import Mathlib.Algebra.BigOperators.Group.List
import Mathlib.Algebra.Order.Ring.Nat
import Mathlib.Data.List.GetD
import TvGate.Stream.Steps

/-!
# A client queue is held in one place

`ServeHTTP` makes a queue per request and sends it to `run` on `AddCh`; `run` puts it in
the hub's table, and deletes and closes it when the request leaves; `Close` and `run`'s
`Closed` branch close every queue in the table; `TransferClientsTo` moves a table to
another hub. Over every interleaving of every goroutine and every call, a queue is held
in at most one place, and is open while it is held; so no queue is closed twice.

`World.refs w c` counts the places that hold queue `c`: the values of every hub's table,
the clients waiting in every hub's `AddCh`, and the `ServeHTTP` calls that have not sent
theirs yet. `QueueInv` says that the count is at most one, that a queue counted is open and
has been made, and that no goroutine has panicked on `close`. Every step either only lowers
counts and leaves the flags of the queues still counted alone (`Shrinks`), or is
`ServeHTTP` making a new queue.

## Main definitions

* `StreamHub.refs`, `Task.refs`, `World.refs` — where a queue is held.
* `QueueInv` — the invariant, and `Shrinks` — what a step does to it.
* `queueInv_of_reachable` — every reachable state satisfies `QueueInv`.
-/

namespace TvGate.Stream

open Go

/-- How often hub `hub` holds queue `c`: as a value of its table, or in a client waiting in
`AddCh`. -/
def StreamHub.refs (hub : StreamHub) (c : Nat) : Nat :=
  hub.clients.values.countP (·.ch == c) + hub.addCh.countP (·.ch == c)

/-- A `ServeHTTP` call holds its queue until it has sent it on `AddCh`. -/
def Task.refs : Task → Nat → Nat
  | .serve s, c => if s.pc = .attach ∧ s.ch = c then 1 else 0
  | _, _ => 0

/-- How often queue `c` is held, over the whole process. -/
def World.refs (w : World) (c : Nat) : Nat :=
  (w.hubs.map (·.refs c)).sum + (w.tasks.map (·.refs c)).sum

/-! ## Sums over the arenas -/

section Sums

variable {α : Type} (f : α → Nat) {d : α} (hd : f d = 0)
include hd

/-- Replacing element `i` changes a sum by at most the difference. -/
theorem sum_map_set_le :
    ∀ (l : List α) (i : Nat) (v : α), ((l.set i v).map f).sum + f (l.getD i d) ≤ (l.map f).sum + f v
  | [], _, _ => by simp [hd]
  | _ :: _, 0, _ => by
    simp only [List.set_cons_zero, List.getD_cons_zero, List.map_cons, List.sum_cons]; omega
  | _ :: l, i + 1, v => by
    have := sum_map_set_le l i v
    simp only [List.set_cons_succ, List.getD_cons_succ, List.map_cons, List.sum_cons]; omega

theorem le_sum_map_getD : ∀ (l : List α) (i : Nat), f (l.getD i d) ≤ (l.map f).sum
  | [], _ => by simp [hd]
  | _ :: _, 0 => by simp
  | _ :: l, i + 1 => by
    have := le_sum_map_getD l i
    simp only [List.getD_cons_succ, List.map_cons, List.sum_cons]; omega

theorem add_le_sum_map_getD :
    ∀ (l : List α) (i j : Nat), i ≠ j → f (l.getD i d) + f (l.getD j d) ≤ (l.map f).sum
  | [], _, _, _ => by simp [hd]
  | _ :: _, 0, 0, h => absurd rfl h
  | _ :: l, 0, j + 1, _ => by
    have := le_sum_map_getD f hd l j
    simp only [List.getD_cons_zero, List.getD_cons_succ, List.map_cons, List.sum_cons]; omega
  | _ :: l, i + 1, 0, _ => by
    have := le_sum_map_getD f hd l i
    simp only [List.getD_cons_zero, List.getD_cons_succ, List.map_cons, List.sum_cons]; omega
  | _ :: l, i + 1, j + 1, h => by
    have := add_le_sum_map_getD l i j (by omega)
    simp only [List.getD_cons_succ, List.map_cons, List.sum_cons]; omega

end Sums

/-! ## Counting -/

namespace World

variable (w : World)

@[simp] theorem default_refs (c : Nat) : (default : StreamHub).refs c = 0 := rfl

theorem refs_setHub_le (i : Nat) (hub : StreamHub) (c : Nat) :
    (w.setHub i hub).refs c + (w.hub i).refs c ≤ w.refs c + hub.refs c := by
  have := sum_map_set_le (·.refs c) (default_refs c) w.hubs i hub
  simp only [refs, setHub_hubs, setHub_tasks, World.hub] at this ⊢
  omega

theorem refs_setTask_le (i : Nat) (t : Task) (c : Nat) :
    (w.setTask i t).refs c + (w.task i).refs c ≤ w.refs c + t.refs c := by
  have := sum_map_set_le (·.refs c) (d := Task.exited) rfl w.tasks i t
  simp only [refs, setTask_hubs, setTask_tasks, task] at this ⊢
  omega

theorem refs_spawn (t : Task) (c : Nat) : (w.spawn t).refs c = w.refs c + t.refs c := by
  simp only [refs, spawn_hubs, spawn_tasks, List.map_append, List.map_cons, List.map_nil,
    List.sum_append, List.sum_cons, List.sum_nil]
  omega

theorem refs_congr {w' : World} (hh : w'.hubs = w.hubs) (ht : w'.tasks = w.tasks) :
    w'.refs = w.refs := by
  funext c; simp only [refs, hh, ht]

theorem hub_refs_le (i c : Nat) : (w.hub i).refs c ≤ w.refs c := by
  have := le_sum_map_getD (·.refs c) (default_refs c) w.hubs i
  simp only [refs, World.hub] at this ⊢
  omega

/-- Two tables, or a table and a key other than its own, hold a queue twice. -/
theorem two_le_refs {i j : Nat} {k k' : String} {a b : HubClient} (hij : i ≠ j ∨ k ≠ k')
    (ha : (w.hub i).clients.get k = some a) (hb : (w.hub j).clients.get k' = some b)
    (hab : a.ch = b.ch) : 2 ≤ w.refs a.ch := by
  have hone : ∀ {m : GoMap String HubClient} {k : String} {v : HubClient}, m.get k = some v →
      v.ch = a.ch → 1 ≤ m.values.countP (·.ch == a.ch) := fun h hv => by
    have := GoMap.countP_values_delete h (·.ch == a.ch); simp [hv] at this; omega
  by_cases hij' : i = j
  · subst hij'
    have hkk : k ≠ k' := hij.resolve_left (absurd rfl)
    have hb' : ((w.hub i).clients.delete k).get k' = some b := by
      rw [GoMap.get_delete_ne (Ne.symm hkk)]; exact hb
    have := GoMap.countP_values_delete ha (·.ch == a.ch)
    have h2 := hone hb' hab.symm
    have h3 := w.hub_refs_le i a.ch
    simp only [beq_self_eq_true, ite_true, StreamHub.refs] at this h2 h3
    omega
  · have := add_le_sum_map_getD (·.refs a.ch) (default_refs a.ch) w.hubs i j hij'
    have h1 := hone ha rfl; have h2 := hone hb hab.symm
    simp only [refs, World.hub, StreamHub.refs] at this h1 h2 ⊢
    omega

end World

/-! ## The invariant -/

/-- Every queue is held at most once; a queue held is open and has been made; and no
goroutine has closed a closed channel. -/
structure QueueInv (w : World) : Prop where
  refs_le_one : ∀ c, w.refs c ≤ 1
  held_open : ∀ c, 0 < w.refs c → (w.chan c).closed = false
  held_made : ∀ c, 0 < w.refs c → c < w.chans.length
  no_double_close : w.panic ≠ some .closeOfClosed

/-- A step that holds no queue anywhere new, changes the flag of no queue still held,
drops no channel, and panics, if at all, otherwise than on `close`. -/
structure Shrinks (w w' : World) : Prop where
  refs_le : ∀ c, w'.refs c ≤ w.refs c
  closed_eq : ∀ c, 0 < w'.refs c → (w'.chan c).closed = (w.chan c).closed
  length_le : w.chans.length ≤ w'.chans.length
  panic_eq : w'.panic = w.panic ∨ ∃ p, w'.panic = some p ∧ p ≠ .closeOfClosed

theorem QueueInv.shrinks {w w' : World} (hi : QueueInv w) (hs : Shrinks w w') : QueueInv w' where
  refs_le_one c := (hs.refs_le c).trans (hi.refs_le_one c)
  held_open c h := (hs.closed_eq c h).trans (hi.held_open c (by have := hs.refs_le c; omega))
  held_made c h := by have := hi.held_made c (by have := hs.refs_le c; omega); have := hs.length_le; omega
  no_double_close := by
    rcases hs.panic_eq with h | ⟨p, h, hp⟩
    · rw [h]; exact hi.no_double_close
    · rw [h]; exact fun e => hp (Option.some.inj e)

namespace Shrinks

variable {w w₁ w₂ : World}

protected theorem rfl : Shrinks w w := ⟨fun _ => le_rfl, fun _ _ => rfl, le_rfl, .inl rfl⟩

theorem trans (h₁ : Shrinks w w₁) (h₂ : Shrinks w₁ w₂) : Shrinks w w₂ where
  refs_le c := (h₂.refs_le c).trans (h₁.refs_le c)
  closed_eq c h := (h₂.closed_eq c h).trans (h₁.closed_eq c (by have := h₂.refs_le c; omega))
  length_le := h₁.length_le.trans h₂.length_le
  panic_eq := by
    rcases h₂.panic_eq with h | h
    · rw [h]; exact h₁.panic_eq
    · exact .inr h

/-- A step that leaves hubs, goroutines, channels and the panic alone. -/
theorem of_eq (hh : w₁.hubs = w.hubs) (ht : w₁.tasks = w.tasks) (hc : w₁.chans = w.chans)
    (hp : w₁.panic = w.panic) : Shrinks w w₁ where
  refs_le c := by rw [w.refs_congr hh ht]
  closed_eq c _ := by simp only [World.chan, hc]
  length_le := by rw [hc]
  panic_eq := .inl hp

end Shrinks

/-! ## Channel tables -/

/-- The channels of `l'` are those of `l`, each open or closed as it was. -/
def SameFlags (l l' : List (Chan Frame)) : Prop :=
  l'.length = l.length ∧ ∀ j, (l'.getD j default).closed = (l.getD j default).closed

namespace SameFlags

variable {l l₁ l₂ : List (Chan Frame)}

protected theorem rfl : SameFlags l l := ⟨rfl, fun _ => rfl⟩

theorem trans (h₁ : SameFlags l l₁) (h₂ : SameFlags l₁ l₂) : SameFlags l l₂ :=
  ⟨h₂.1.trans h₁.1, fun j => (h₂.2 j).trans (h₁.2 j)⟩

theorem set {i : Nat} {ch : Chan Frame} (h : ch.closed = (l.getD i default).closed) :
    SameFlags l (l.set i ch) := by
  refine ⟨List.length_set .., fun j => ?_⟩
  by_cases hij : i = j
  · subst hij
    by_cases hl : i < l.length
    · simp [hl, h]
    · simp [List.set_eq_of_length_le (Nat.le_of_not_lt hl)]
  · exact congrArg Chan.closed (getD_set_ne _ hij _ _)

end SameFlags

theorem sameFlags_trySendTo {chans chans' : List (Chan Frame)} {c : Nat} {f : Frame}
    (h : trySendTo chans c f = .ok chans') : SameFlags chans chans' := by
  obtain ⟨r, hr, h⟩ := bind_eq_ok h
  cases r with
  | none => cases h; exact .rfl
  | some ch => cases h; exact .set (Chan.trySend_closed hr)

theorem sameFlags_sendFrames {c : Nat} :
    ∀ {chans chans' : List (Chan Frame)} {frames : List Frame},
      sendFrames chans c frames = .ok chans' → SameFlags chans chans'
  | _, _, [], h => by cases h; exact .rfl
  | _, _, _ :: _, h => by
    obtain ⟨_, h₁, h₂⟩ := bind_eq_ok h
    exact (sameFlags_trySendTo h₁).trans (sameFlags_sendFrames h₂)

theorem closeChans_length :
    ∀ {chans chans' : List (Chan Frame)} {l : List Nat},
      closeChans chans l = .ok chans' → chans'.length = chans.length
  | _, _, [], h => by cases h; rfl
  | _, _, _ :: _, h => by
    obtain ⟨_, -, h⟩ := bind_eq_ok h
    rw [closeChans_length h, List.length_set]

/-- `closeChans` touches only the channels it is given. -/
theorem closeChans_getD_of_not_mem {j : Nat} :
    ∀ {chans chans' : List (Chan Frame)} {l : List Nat},
      closeChans chans l = .ok chans' → j ∉ l → chans'.getD j default = chans.getD j default
  | _, _, [], h, _ => by cases h; rfl
  | _, _, c :: _, h, hj => by
    obtain ⟨_, -, h⟩ := bind_eq_ok h
    rw [closeChans_getD_of_not_mem h (fun hm => hj (.tail _ hm)),
      getD_set_ne _ (by rintro rfl; exact hj (.head _))]

/-- Closing distinct open channels does not panic. -/
theorem noCloseOfClosed_closeChans :
    ∀ {chans : List (Chan Frame)} {l : List Nat}, l.Nodup →
      (∀ c ∈ l, (chans.getD c default).closed = false) → NoCloseOfClosed (closeChans chans l)
  | chans, [], _, _ => noCloseOfClosed_ok chans
  | chans, c :: _, hnd, hopen => by
    rw [List.nodup_cons] at hnd
    have hc := hopen c (.head _)
    refine (Chan.close_ok hc ▸ noCloseOfClosed_ok _ : NoCloseOfClosed (chans.getD c default).close).bind
      fun ch hch => noCloseOfClosed_closeChans hnd.2 fun c' hc' => ?_
    rw [getD_set_ne _ (by rintro rfl; exact hnd.1 hc')]
    exact hopen c' (.tail _ hc')

namespace World

variable (w : World)

theorem shrinks_fail {p : Panic} (hp : p ≠ .closeOfClosed) : Shrinks w (w.fail p) :=
  ⟨fun _ => le_rfl, fun _ _ => rfl, le_rfl, .inr ⟨p, rfl, hp⟩⟩

theorem shrinks_setHub {i : Nat} {hub : StreamHub} (h : ∀ c, hub.refs c ≤ (w.hub i).refs c) :
    Shrinks w (w.setHub i hub) where
  refs_le c := by have := w.refs_setHub_le i hub c; have := h c; omega
  closed_eq _ _ := rfl
  length_le := le_rfl
  panic_eq := .inl rfl

theorem shrinks_setTask {i : Nat} {t : Task} (h : ∀ c, t.refs c ≤ (w.task i).refs c) :
    Shrinks w (w.setTask i t) where
  refs_le c := by have := w.refs_setTask_le i t c; have := h c; omega
  closed_eq _ _ := rfl
  length_le := le_rfl
  panic_eq := .inl rfl

theorem shrinks_spawn {t : Task} (h : ∀ c, t.refs c = 0) : Shrinks w (w.spawn t) where
  refs_le c := by rw [refs_spawn, h c]; omega
  closed_eq _ _ := rfl
  length_le := le_rfl
  panic_eq := .inl rfl

/-- A step that holds no queue anywhere new and keeps every channel's flag. -/
theorem shrinks_of_sameFlags {w' : World} (hr : ∀ c, w'.refs c ≤ w.refs c)
    (hf : SameFlags w.chans w'.chans) (hp : w'.panic = w.panic) : Shrinks w w' :=
  ⟨hr, fun c _ => hf.2 c, hf.1.ge, .inl hp⟩

theorem shrinks_setChan {i : Nat} {ch : Chan Frame} (h : ch.closed = (w.chan i).closed) :
    Shrinks w (w.setChan i ch) :=
  w.shrinks_of_sameFlags (fun _ => le_rfl) (.set h) rfl

/-- A section run under `commit` shrinks if its result does and it does not panic on
`close`. -/
theorem shrinks_commit {x : Go World} (hx : NoCloseOfClosed x)
    (h : ∀ w', x = .ok w' → Shrinks w w') : Shrinks w (w.commit x) := by
  cases x with
  | error p => exact w.shrinks_fail fun e => hx (e ▸ rfl)
  | ok w' => exact h w' rfl

end World

/-! ## Sections that close queues -/

theorem countP_values_map_ch (l : List HubClient) (c : Nat) :
    (l.map (·.ch)).count c = l.countP (·.ch == c) := List.countP_map ..

theorem QueueInv.table_nodup {w : World} (hi : QueueInv w) (h : Nat) :
    ((w.hub h).clients.values.map (·.ch)).Nodup :=
  List.nodup_iff_count_le_one.mpr fun c => by
    rw [countP_values_map_ch]
    have := w.hub_refs_le h c; have := hi.refs_le_one c
    simp only [StreamHub.refs] at *; omega

theorem QueueInv.table_open {w : World} (hi : QueueInv w) (h : Nat) :
    ∀ c ∈ (w.hub h).clients.values.map (·.ch), (w.chans.getD c default).closed = false := by
  intro c hc
  have hpos : 0 < ((w.hub h).clients.values.map (·.ch)).count c := List.count_pos_iff.mpr hc
  rw [countP_values_map_ch] at hpos
  have := w.hub_refs_le h c
  exact hi.held_open c (by simp only [StreamHub.refs] at this; omega)

theorem QueueInv.get_open {w : World} (hi : QueueInv w) {h : Nat} {k : String} {c : HubClient}
    (hg : (w.hub h).clients.get k = some c) : (w.chan c.ch).closed = false := by
  have := GoMap.countP_values_delete hg (·.ch == c.ch)
  have := w.hub_refs_le h c.ch
  exact hi.held_open c.ch (by simp only [beq_self_eq_true, ite_true, StreamHub.refs] at *; omega)

namespace World

variable {w : World}

/-- Closing every queue of a table and dropping the table. -/
theorem shrinks_dropTable (hi : QueueInv w) {h : Nat} {hub' : StreamHub}
    {chans' : List (Chan Frame)} {w' : World}
    (hcl : closeChans w.chans ((w.hub h).clients.values.map (·.ch)) = .ok chans')
    (hrefs : ∀ c, hub'.refs c + (w.hub h).clients.values.countP (·.ch == c) ≤ (w.hub h).refs c)
    (hh : w'.hubs = w.hubs.set h hub') (ht : w'.tasks = w.tasks) (hc : w'.chans = chans')
    (hp : w'.panic = w.panic) : Shrinks w w' := by
  have hr : ∀ c, w'.refs c + (w.hub h).clients.values.countP (·.ch == c) ≤ w.refs c := fun c => by
    have := w.refs_setHub_le h hub' c
    rw [(w.setHub h hub').refs_congr hh ht] at *
    have := hrefs c; omega
  refine ⟨fun c => by have := hr c; omega, fun c hpos => ?_, by rw [hc, closeChans_length hcl],
    .inl hp⟩
  have h0 : (w.hub h).clients.values.countP (·.ch == c) = 0 := by
    have := hr c; have := hi.refs_le_one c; omega
  have hnm : c ∉ (w.hub h).clients.values.map (·.ch) := fun hm => by
    have := List.count_pos_iff.mpr hm
    rw [countP_values_map_ch] at this; omega
  simp only [World.chan, hc, closeChans_getD_of_not_mem hcl hnm]

theorem shrinks_close (hi : QueueInv w) {h : Nat} {w' : World} (hc : w.close h = .ok w') :
    Shrinks w w' := by
  unfold World.close at hc
  dsimp only at hc
  split at hc
  · cases hc; exact .rfl
  · obtain ⟨chans, hcl, hc⟩ := bind_eq_ok hc
    obtain ⟨_, -, hc⟩ := bind_eq_ok hc
    cases hc
    exact shrinks_dropTable hi hcl (fun c => by
      simp only [StreamHub.refs, GoMap.values, GoMap.entries_none, List.map_nil, List.countP_nil]
      omega) rfl rfl rfl rfl

theorem noCloseOfClosed_close (hi : QueueInv w) (h : Nat) : NoCloseOfClosed (w.close h) := by
  unfold World.close
  dsimp only
  split
  · exact noCloseOfClosed_ok _
  · exact (noCloseOfClosed_closeChans (hi.table_nodup h) (hi.table_open h)).bind fun _ _ =>
      (noCloseOfClosed_index _ _).bind fun _ _ => noCloseOfClosed_ok _

theorem shrinks_runClosed (hi : QueueInv w) {h : Nat} {w' : World} (hc : w.runClosed h = .ok w') :
    Shrinks w w' := by
  obtain ⟨chans, hcl, hc⟩ := bind_eq_ok hc
  cases hc
  exact shrinks_dropTable hi hcl (fun c => by
      simp only [StreamHub.refs, GoMap.values, GoMap.entries_none, List.map_nil, List.countP_nil]
      omega) rfl rfl rfl rfl

theorem noCloseOfClosed_runClosed (hi : QueueInv w) (h : Nat) : NoCloseOfClosed (w.runClosed h) :=
  (noCloseOfClosed_closeChans (hi.table_nodup h) (hi.table_open h)).bind fun _ _ =>
    noCloseOfClosed_ok _

theorem shrinks_runRemove (hi : QueueInv w) {h : Nat} {k : String} {w' : World} {e : Bool}
    (hr : w.runRemove h k = .ok (w', e)) : Shrinks w w' := by
  unfold World.runRemove at hr
  dsimp only at hr
  split at hr
  · rename_i c hg
    obtain ⟨ch, hch, hr⟩ := bind_eq_ok hr
    cases hr
    rw [Chan.close_ok (hi.get_open hg)] at hch
    cases hch
    set hub' : StreamHub := { w.hub h with clients := (w.hub h).clients.delete k } with hhub'
    have hsub : ∀ x, hub'.refs x + (if c.ch == x then 1 else 0) = (w.hub h).refs x := fun x => by
      have := GoMap.countP_values_delete hg (·.ch == x)
      simp only [StreamHub.refs, hhub']; omega
    have hrefs : ∀ x, (w.setHub h hub').refs x + (if c.ch == x then 1 else 0) ≤ w.refs x :=
      fun x => by have := w.refs_setHub_le h hub' x; have := hsub x; omega
    have hw' : ∀ ch, ((w.setHub h hub').setChan c.ch ch).refs = (w.setHub h hub').refs :=
      fun _ => refs_congr _ rfl rfl
    refine ⟨fun x => by have := hrefs x; rw [hw']; omega, fun x hpos => ?_, by simp, .inl rfl⟩
    by_cases hx : c.ch = x
    · subst hx
      have := hrefs c.ch; have := hi.refs_le_one c.ch
      rw [hw'] at hpos; simp only [beq_self_eq_true, ite_true] at *; omega
    · exact congrArg Chan.closed (getD_set_ne _ hx _ _)
  · cases hr; exact .rfl

theorem noCloseOfClosed_runRemove (hi : QueueInv w) (h : Nat) (k : String) :
    NoCloseOfClosed (w.runRemove h k) := by
  unfold World.runRemove
  dsimp only
  split
  · rename_i c hg
    rw [Chan.close_ok (hi.get_open hg)]
    exact noCloseOfClosed_ok _
  · exact noCloseOfClosed_ok _

/-! ## Sections that hold queues elsewhere, or none -/

/-- `run`'s add branch: the client leaves `AddCh` and enters the table, displacing at most
the client its connection id held. -/
theorem shrinks_addClient {h : Nat} {c : HubClient} {rest : List HubClient} {w' : World}
    (hadd : (w.hub h).addCh = c :: rest)
    (hr : (w.setHub h { w.hub h with addCh := rest }).runAdd h c = .ok w') : Shrinks w w' := by
  set w₁ := w.setHub h { w.hub h with addCh := rest } with hw₁
  obtain ⟨clients, hset, hr⟩ := bind_eq_ok hr
  cases hr
  refine w.shrinks_of_sameFlags (fun x => ?_) .rfl rfl
  have h1 := w.refs_setHub_le h { w.hub h with addCh := rest } x
  have h2 := w₁.refs_setHub_le h { w₁.hub h with clients } x
  have h3 := GoMap.countP_values_set hset (·.ch == x)
  simp only [StreamHub.refs, hadd, List.countP_cons] at h1 h2 h3 ⊢
  rw [← hw₁] at h1
  omega

theorem shrinks_broadcastLocked {h : Nat} {data : Frame} {w' : World} {cs : List HubClient}
    (hb : w.broadcastLocked h data = .ok (some (w', cs))) : Shrinks w w' := by
  unfold broadcastLocked at hb
  dsimp only at hb
  split at hb
  · obtain ⟨_, -, hb⟩ := bind_eq_ok hb
    cases hb
    exact w.shrinks_setHub fun _ => le_rfl
  · cases hb

theorem shrinks_spawnReadLoops {h : Nat} {addrs : List String} :
    ∀ {w w' : World} {idx : Nat} {conns : List Nat},
      w.spawnReadLoops h addrs idx conns = .ok w' → Shrinks w w'
  | _, _, _, [], hs => by cases hs; exact .rfl
  | w, _, _, _ :: _, hs => by
    obtain ⟨_, -, hs⟩ := bind_eq_ok hs
    obtain ⟨_, -, hs⟩ := bind_eq_ok hs
    refine (w.shrinks_spawn ?_).trans (shrinks_spawnReadLoops hs)
    intro; rfl

theorem shrinks_startReadLoops {h : Nat} {w' : World} (hs : w.startReadLoops h = .ok w') :
    Shrinks w w' :=
  shrinks_spawnReadLoops hs

theorem shrinks_updateInterfaces {h : Nat} {ifaces : List String} {net : Net} {w' : World}
    {r : Except StreamError Unit} (hu : w.updateInterfaces h ifaces net = .ok (w', r)) :
    Shrinks w w' := by
  unfold updateInterfaces at hu
  dsimp only at hu
  generalize updateInterfacesConns net ifaces (w.hub h).addrList none = res at hu
  rcases res with ⟨_ | ⟨conn, conns⟩, lastErr⟩
  · cases hu; exact .rfl
  · obtain ⟨w₂, hs, hu⟩ := bind_eq_ok hu
    cases hu
    rw [openSocks_fst] at hs
    refine Shrinks.trans ?_ ((shrinks_setHub _ ?_).trans (shrinks_startReadLoops hs))
    · exact .of_eq rfl rfl rfl rfl
    · intro; exact le_rfl

/-- Adding a hub that holds no queue. -/
theorem shrinks_addHub {hub : StreamHub} {w' : World} (hh : w'.hubs = w.hubs ++ [hub])
    (ht : w'.tasks = w.tasks) (hc : w'.chans = w.chans) (hp : w'.panic = w.panic)
    (h0 : ∀ c, hub.refs c = 0) : Shrinks w w' := by
  refine w.shrinks_of_sameFlags (fun c => ?_) (hc ▸ .rfl) hp
  simp only [refs, hh, ht, List.map_append, List.sum_append, List.map_cons, List.map_nil,
    List.sum_cons, List.sum_nil, h0]
  omega

theorem shrinks_newStreamHub {addrs ifaces : List String} {net : Net} {w' : World} {i : Nat}
    (hn : w.newStreamHub addrs ifaces net = .ok (.ok (w', i))) : Shrinks w w' := by
  unfold newStreamHub at hn
  dsimp only at hn
  split at hn
  · cases hn
  generalize newStreamHubConns net ifaces addrs none = res at hn
  rcases res with ⟨_ | ⟨conn, conns⟩, lastErr⟩
  · cases hn
  · obtain ⟨ring, -, hn⟩ := bind_eq_ok hn
    obtain ⟨w₂, hs, hn⟩ := bind_eq_ok hn
    cases hn
    rw [openSocks_fst] at hs
    refine Shrinks.trans ?_ (shrinks_startReadLoops hs)
    refine Shrinks.trans ?_ (shrinks_spawn _ fun _ => rfl)
    exact shrinks_addHub rfl rfl rfl rfl fun _ => rfl

/-- The loop of `TransferClientsTo` adds the old table's values to the new one, and sends
only to open queues' flags' keeping. -/
theorem transferEach_spec {src : StreamHub} {ring : RingBuffer Frame} :
    ∀ {es : List (Sigma fun _ : String => HubClient)} {m m' : GoMap String HubClient}
      {chans chans' : List (Chan Frame)}, transferEach src ring es m chans = .ok (m', chans') →
      (∀ p, m'.values.countP p ≤ m.values.countP p + (es.map (·.2)).countP p) ∧
        SameFlags chans chans'
  | [], _, _, _, _, h => by cases h; exact ⟨fun _ => by simp, .rfl⟩
  | e :: es, m, _, chans, _, h => by
    obtain ⟨m₁, hset, h⟩ := bind_eq_ok h
    obtain ⟨_, -, h⟩ := bind_eq_ok h
    obtain ⟨chans₁, hsend, h⟩ := bind_eq_ok h
    have hcount : ∀ {m' : GoMap String HubClient}, (∀ p, m'.values.countP p ≤
        m₁.values.countP p + (es.map (·.2)).countP p) →
        ∀ p, m'.values.countP p ≤ m.values.countP p + ((e :: es).map (·.2)).countP p :=
      fun hc p => by
        have := hc p; have := GoMap.countP_values_set hset p
        simp only [List.map_cons, List.countP_cons]; omega
    dsimp only at h
    split at h
    · obtain ⟨chans₂, hsend₂, h⟩ := bind_eq_ok h
      obtain ⟨hc, hf⟩ := transferEach_spec h
      exact ⟨hcount hc, (sameFlags_sendFrames hsend).trans ((sameFlags_trySendTo hsend₂).trans hf)⟩
    · obtain ⟨hc, hf⟩ := transferEach_spec h
      exact ⟨hcount hc, (sameFlags_sendFrames hsend).trans hf⟩

/-- Replacing two hubs whose counts together do not grow. -/
theorem shrinks_setHub_setHub {h n : Nat} (hne : h ≠ n) {src dst : StreamHub} {w' : World}
    (hh : w'.hubs = (w.hubs.set n dst).set h src) (ht : w'.tasks = w.tasks)
    (hf : SameFlags w.chans w'.chans) (hp : w'.panic = w.panic)
    (hr : ∀ c, src.refs c + dst.refs c ≤ (w.hub h).refs c + (w.hub n).refs c) : Shrinks w w' := by
  refine w.shrinks_of_sameFlags (fun c => ?_) hf hp
  have h1 := w.refs_setHub_le n dst c
  have h2 := (w.setHub n dst).refs_setHub_le h src c
  rw [hub_setHub_ne _ (Ne.symm hne)] at h2
  rw [refs_congr ((w.setHub n dst).setHub h src) hh ht]
  have := hr c
  omega

theorem shrinks_transferClientsTo {h n : Nat} {w' : World} (hne : h ≠ n)
    (ht : w.transferClientsTo h n = .ok w') : Shrinks w w' := by
  unfold transferClientsTo at ht
  dsimp only at ht
  obtain ⟨_, -, ht⟩ := bind_eq_ok ht
  obtain ⟨_, -, ht⟩ := bind_eq_ok ht
  obtain ⟨_, -, ht⟩ := bind_eq_ok ht
  obtain ⟨_, -, ht⟩ := bind_eq_ok ht
  obtain ⟨⟨dstClients, chans⟩, he, ht⟩ := bind_eq_ok ht
  cases ht
  obtain ⟨hcount, hflags⟩ := transferEach_spec he
  refine shrinks_setHub_setHub hne rfl rfl hflags rfl fun c => ?_
  have h2 := hcount (·.ch == c)
  have h3 : (if (w.hub n).clients.isNone then GoMap.empty else (w.hub n).clients).values.countP
      (·.ch == c) ≤ (w.hub n).clients.values.countP (·.ch == c) := by split <;> simp [GoMap.values]
  simp only [StreamHub.refs, GoMap.values, GoMap.empty_entries, List.map_nil, List.countP_nil] at h2 h3 ⊢
  omega

/-- `run`'s remove branch, with `RemoveCh` popped first. -/
theorem shrinks_removeClient (hi : QueueInv w) {h : Nat} {connID : String} {rest : List String}
    {w' : World} {e : Bool}
    (hr : (w.setHub h { w.hub h with removeCh := rest }).runRemove h connID = .ok (w', e)) :
    Shrinks w w' :=
  have h₁ : Shrinks w (w.setHub h { w.hub h with removeCh := rest }) :=
    w.shrinks_setHub fun _ => le_rfl
  h₁.trans (shrinks_runRemove (hi.shrinks h₁) hr)

theorem noCloseOfClosed_removeClient (hi : QueueInv w) (h : Nat) (connID : String)
    (rest : List String) :
    NoCloseOfClosed ((w.setHub h { w.hub h with removeCh := rest }).runRemove h connID) :=
  have h₁ : Shrinks w (w.setHub h { w.hub h with removeCh := rest }) :=
    w.shrinks_setHub fun _ => le_rfl
  noCloseOfClosed_runRemove (hi.shrinks h₁) h connID

theorem shrinks_removeHubLocked {md5Hex : String → String} {udpAddr : String}
    {ifaces : List String} {w' : World} {r : Option Nat}
    (h : w.removeHubLocked md5Hex udpAddr ifaces = (w', r)) : Shrinks w w' := by
  have h₁ := w.removeHubLocked_fst md5Hex udpAddr ifaces
  rw [h] at h₁
  rw [show w' = _ from h₁]
  exact .of_eq rfl rfl rfl rfl

end World

/-! ## Steps -/

/-- A section, then an update of its result that shrinks, shrinks. -/
theorem World.shrinks_commit_bind {w : World} {x : Go World} {f : World → World}
    (hx : NoCloseOfClosed x) (hs : ∀ w₁, x = .ok w₁ → Shrinks w w₁)
    (hf : ∀ w₁, Shrinks w₁ (f w₁)) : Shrinks w (w.commit (x >>= fun w₁ => pure (f w₁))) :=
  w.shrinks_commit (hx.bind fun _ _ => noCloseOfClosed_ok _) fun _ e =>
    let ⟨w₁, h₁, h₂⟩ := bind_eq_ok e
    by cases h₂; exact (hs w₁ h₁).trans (hf w₁)

/-- A goroutine that ends up holding no queue. -/
theorem World.shrinks_setTask_zero (w : World) {i : Nat} {t : Task} (h : ∀ c, t.refs c = 0) :
    Shrinks w (w.setTask i t) :=
  w.shrinks_setTask fun c => (h c).trans_le (Nat.zero_le _)

section Steps

variable {md5Hex : String → String} {w w' : World} {t : Nat}

open World

theorem RunStep.shrinks (hi : QueueInv w) {h : Nat} {pc : RunPc} {i : Input}
    (hs : RunStep md5Hex w t h pc i w') : Shrinks w w' := by
  cases hs with
  | add hadd =>
    exact shrinks_commit_bind (noCloseOfClosed_runAdd _ _ _) (fun _ => shrinks_addClient hadd)
      fun _ => shrinks_spawn _ fun _ => rfl
  | remove =>
    refine shrinks_commit _ ((noCloseOfClosed_removeClient hi _ _ _).bind
      fun ⟨_, _⟩ _ => noCloseOfClosed_ok _) fun w' hw' => ?_
    obtain ⟨⟨w₁, e⟩, h₁, h₂⟩ := bind_eq_ok hw'
    cases e <;> cases h₂
    exacts [shrinks_removeClient hi h₁,
      (shrinks_removeClient hi h₁).trans (shrinks_setTask_zero _ fun _ => rfl)]
  | closed =>
    exact shrinks_commit_bind (noCloseOfClosed_runClosed hi _) (fun _ => shrinks_runClosed hi)
      fun _ => shrinks_setTask_zero _ fun _ => rfl
  | reap | closeRemoved =>
    exact shrinks_commit_bind (noCloseOfClosed_close hi _) (fun _ => shrinks_close hi)
      fun _ => shrinks_setTask_zero _ fun _ => rfl
  | onEmptyNil => exact shrinks_setTask_zero _ fun _ => rfl
  | onEmpty =>
    refine shrinks_commit _ ((noCloseOfClosed_index _ _).bind fun _ _ => by
      split <;> exact noCloseOfClosed_ok _) fun w' hw' => ?_
    obtain ⟨addr, -, h₂⟩ := bind_eq_ok hw'
    split at h₂ <;> cases h₂ <;>
      exact (shrinks_removeHubLocked ‹_›).trans (shrinks_setTask_zero _ fun _ => rfl)

/-- A send that did not panic kept the queue's flag. -/
theorem closed_trySend {c : Chan Frame} {f : Frame} {r : Option (Chan Frame)}
    (h : c.trySend f = .ok r) : (r.getD c).closed = c.closed := by
  cases r with
  | none => rfl
  | some c' => exact Chan.trySend_closed h

theorem ReadStep.shrinks {h sock : Nat} {hubAddr : String} {pc : ReadPc} {i : Input}
    (hs : ReadStep w t h sock hubAddr pc i w') : Shrinks w w' := by
  have hread : ∀ {w₁ : World} {pc'}, Shrinks w₁ (w₁.setTask t (.readLoop h sock hubAddr pc')) :=
    shrinks_setTask_zero _ fun _ => rfl
  cases hs with
  | resolve | skip | input | broadcastNil | fanoutDone | sendFull => exact hread
  | readError | stopped => exact shrinks_setTask_zero _ fun _ => rfl
  | resolveFail => exact shrinks_fail _ nofun
  | loop => exact shrinks_setTask_zero _ fun _ => by split <;> rfl
  | datagram | copy => exact hread.trans (.of_eq rfl rfl rfl rfl)
  | broadcastFail _ hb => exact shrinks_fail _ ((noCloseOfClosed_broadcastLocked _ _ _).ne hb)
  | broadcast _ hb => exact (shrinks_broadcastLocked hb).trans hread
  | sendFail _ hf | resendFail hf => exact shrinks_fail _ ((Chan.noCloseOfClosed_trySend _ _).ne hf)
  | send _ hf => exact (shrinks_setChan _ (Chan.trySend_closed hf)).trans hread
  | drop => refine (shrinks_setHub _ ?_).trans hread; exact fun _ => le_rfl
  | drainResend => exact (shrinks_setChan _ (Chan.tryRecv_closed _)).trans hread
  | drain =>
    refine (shrinks_setChan _ (Chan.tryRecv_closed _)).trans ((shrinks_setHub _ ?_).trans hread)
    exact fun _ => le_rfl
  | resend hf =>
    refine (shrinks_setChan _ (closed_trySend hf)).trans ((shrinks_setHub _ ?_).trans hread)
    exact fun _ => le_rfl

theorem PrimeStep.shrinks {h ch : Nat} {pc : PrimePc} {i : Input}
    (hs : PrimeStep w t h ch pc i w') : Shrinks w w' := by
  cases hs with
  | snapshot | done | sendFull => exact shrinks_setTask_zero _ fun _ => rfl
  | check => exact shrinks_setTask_zero _ fun _ => by split <;> rfl
  | snapshotFail _ hp => exact shrinks_fail _ ((noCloseOfClosed_snapshot _ _).ne hp)
  | sendFail hf => exact shrinks_fail _ ((Chan.noCloseOfClosed_trySend _ _).ne hf)
  | send hf =>
    exact (shrinks_setChan _ (Chan.trySend_closed hf)).trans (shrinks_setTask_zero _ fun _ => rfl)

/-- A session past its attach holds no queue. -/
theorem Task.refs_serve {s : Session} (h : s.pc ≠ .attach) (c : Nat) : Task.refs (.serve s) c = 0 :=
  if_neg fun hc => h hc.1

/-- The attach moves the session's queue from the call to `AddCh`. -/
theorem World.shrinks_attach {s : Session} (ht : w.task t = .serve s) (hpc : s.pc = .attach) :
    Shrinks w ((w.setHub s.hub { w.hub s.hub with
      addCh := (w.hub s.hub).addCh ++ [⟨s.ch, s.connID⟩] }).setTask t (.serve { s with pc := .headers })) := by
  set hub' : StreamHub := { w.hub s.hub with
    addCh := (w.hub s.hub).addCh ++ [⟨s.ch, s.connID⟩] } with hhub'
  refine w.shrinks_of_sameFlags (fun c => ?_) .rfl rfl
  have e1 : hub'.refs c = (w.hub s.hub).refs c + if s.ch = c then 1 else 0 := by
    simp only [StreamHub.refs, hhub', List.countP_append, List.countP_cons, List.countP_nil,
      beq_iff_eq]
    omega
  have e2 : Task.refs (.serve s) c = if s.ch = c then 1 else 0 := by simp [Task.refs, hpc]
  have h1 := w.refs_setHub_le s.hub hub' c
  have h2 := (w.setHub s.hub hub').refs_setTask_le t (.serve { s with pc := .headers }) c
  rw [show (w.setHub s.hub hub').task t = .serve s from ht, e2, Task.refs_serve (by simp) c] at h2
  omega

theorem ServeStep.shrinks {s : Session} {i : Input} (ht : w.task t = .serve s)
    (hs : ServeStep w t s i w') : Shrinks w w' := by
  have hdone : ∀ {w₁ : World} {s' : Session}, s'.pc ≠ .attach → Shrinks w₁ (w₁.setTask t (.serve s')) :=
    fun hpc => shrinks_setTask_zero _ (Task.refs_serve hpc)
  cases hs with
  | attach hpc => exact shrinks_attach ht hpc
  | headers => exact hdone (by split <;> simp)
  | playing | notPlaying | waitLoop | queueClosed | cancel | hubClosed => exact hdone (by simp)
  | writeFail _ hr => exact (shrinks_setChan w (Chan.recv_closed hr)).trans (hdone (by simp))
  | write _ hr => exact (shrinks_setChan w (Chan.recv_closed hr)).trans (hdone (by split <;> simp))
  | flushTick hpc => exact hdone (by split <;> simp [hpc])
  | detach =>
    refine (shrinks_setHub _ ?_).trans (hdone ?_)
    exacts [fun _ => le_rfl, by simp]

theorem CallStep.shrinks {udpAddr : String} {ifaces : List String} {pc : CallPc} {i : Input}
    (hs : CallStep w t udpAddr ifaces pc i w') : Shrinks w w' := by
  have hcall : ∀ {w₁ : World} {pc'}, Shrinks w₁ (w₁.setTask t (.call udpAddr ifaces pc')) :=
    shrinks_setTask_zero _ fun _ => rfl
  cases hs with
  | checkClosed | createError => exact hcall
  | createFail hn => exact shrinks_fail _ ((noCloseOfClosed_newStreamHub _ _ _ _).ne hn)
  | create hn =>
    refine (shrinks_newStreamHub hn).trans ((shrinks_setHub _ ?_).trans hcall)
    exact fun _ => le_rfl
  | insert => exact hcall.trans (.of_eq rfl rfl rfl rfl)

/-- `ServeHTTP` makes a queue that nothing else holds. -/
theorem QueueInv.newSession (hi : QueueInv w) {s : Session} (hch : s.ch = w.chans.length) :
    QueueInv ({ w with chans := w.chans ++ [Chan.make clientChanCap] }.spawn (.serve s)) := by
  have hr : ∀ c, ({ w with chans := w.chans ++ [Chan.make clientChanCap] }.spawn (.serve s)).refs c
      ≤ w.refs c + if s.ch = c then 1 else 0 := fun c => by
    rw [refs_spawn, show ({ w with chans := w.chans ++ [Chan.make clientChanCap] } : World).refs =
      w.refs from refs_congr w rfl rfl]
    have : Task.refs (.serve s) c ≤ if s.ch = c then 1 else 0 := by
      simp only [Task.refs]; split_ifs <;> simp_all
    omega
  have hfresh : w.refs w.chans.length = 0 :=
    Nat.eq_zero_of_not_pos fun h => absurd (hi.held_made _ h) (lt_irrefl _)
  have hold : ∀ c, s.ch ≠ c → 0 < ({ w with chans := w.chans ++ [Chan.make clientChanCap] }.spawn
      (.serve s)).refs c → 0 < w.refs c := fun c hc h => by have := hr c; simp [hc] at this; omega
  refine ⟨fun c => ?_, fun c hc => ?_, fun c hc => ?_, hi.no_double_close⟩
  · have := hr c; have := hi.refs_le_one c
    by_cases h : s.ch = c
    · subst h; rw [hch] at *; simp at *; omega
    · simp [h] at *; omega
  · by_cases h : s.ch = c
    · subst h; rw [hch]
      show ((w.chans ++ [Chan.make clientChanCap]).getD w.chans.length default).closed = false
      rw [List.getD_append_right _ _ _ _ le_rfl]; simp
    · have hw := hi.held_made c (hold c h hc)
      exact (congrArg Chan.closed (List.getD_append _ _ _ _ hw)).trans (hi.held_open c (hold c h hc))
  · by_cases h : s.ch = c
    · subst h; rw [hch]; simp
    · have := hi.held_made c (hold c h hc); simp; omega

theorem ActionStep.queueInv (hi : QueueInv w) {a : Action} (hs : ActionStep md5Hex w a w') :
    QueueInv w' := by
  cases hs with
  | getOrCreateFound | getOrCreateMissing | refused =>
    exact hi.shrinks (shrinks_spawn _ fun _ => rfl)
  | removeHubEx hr =>
    exact hi.shrinks ((shrinks_removeHubLocked hr).trans (shrinks_spawn _ fun _ => rfl))
  | removeHubExMissing hr => exact hi.shrinks (shrinks_removeHubLocked hr)
  | newStreamHubFail hn =>
    exact hi.shrinks (shrinks_fail _ ((noCloseOfClosed_newStreamHub _ _ _ _).ne hn))
  | newStreamHubError => exact hi
  | newStreamHub hn => exact hi.shrinks ((shrinks_newStreamHub hn).trans (.of_eq rfl rfl rfl rfl))
  | serveHTTP => exact hi.newSession rfl
  | close => exact hi.shrinks (shrinks_commit _ (noCloseOfClosed_close hi _) fun _ => shrinks_close hi)
  | @updateInterfaces h ifaces net =>
    refine hi.shrinks (shrinks_commit _ ((noCloseOfClosed_updateInterfaces w h ifaces net).map _)
      fun w' hw' => ?_)
    rcases hu : w.updateInterfaces h ifaces net with _ | ⟨w₁, r⟩ <;> rw [hu] at hw' <;> cases hw'
    exact shrinks_updateInterfaces hu
  | transferClientsTo _ _ hne =>
    exact hi.shrinks (shrinks_commit _ (noCloseOfClosed_transferClientsTo w _ _) fun _ =>
      shrinks_transferClientsTo hne)
  | run _ hs => exact hi.shrinks (hs.shrinks hi)
  | readLoop _ hs => exact hi.shrinks hs.shrinks
  | prime _ hs => exact hi.shrinks hs.shrinks
  | serve ht hs => exact hi.shrinks (hs.shrinks ht)
  | call _ hs => exact hi.shrinks hs.shrinks
  | closeRemoved =>
    exact hi.shrinks (shrinks_commit_bind (noCloseOfClosed_close hi _) (fun _ => shrinks_close hi)
      fun _ => shrinks_setTask_zero _ fun _ => rfl)

theorem QueueInv.init : QueueInv World.init :=
  ⟨fun _ => Nat.zero_le _, fun _ h => absurd h (lt_irrefl 0), fun _ h => absurd h (lt_irrefl 0),
    nofun⟩

/-- Every reachable state satisfies `QueueInv`. -/
theorem queueInv_of_reachable (hw : Reachable md5Hex w) : QueueInv w := by
  induction hw with
  | init => exact .init
  | step a _ hs ih => exact (step_cases hs).2.queueInv ih

end Steps

/-! ## Queues in tables -/

/-- **A client queue is held in one place.** In every reachable state, over any interleaving
of every goroutine and every call into the package: a queue sits in at most one hub's
table, under one connection id; every queue in a table is open; and no goroutine has
panicked closing a closed channel, so no queue has been closed twice. -/
theorem client_queue_exclusive {md5Hex : String → String} {w : World} (hw : Reachable md5Hex w) :
    (∀ i j k k' a b, (w.hub i).clients.get k = some a → (w.hub j).clients.get k' = some b →
      a.ch = b.ch → i = j ∧ k = k') ∧
    (∀ i k a, (w.hub i).clients.get k = some a → (w.chan a.ch).closed = false) ∧
    w.panic ≠ some .closeOfClosed := by
  have hi := queueInv_of_reachable hw
  refine ⟨fun i j k k' a b ha hb hab => ?_, fun _ _ _ => hi.get_open, hi.no_double_close⟩
  by_contra hne
  have := w.two_le_refs (not_and_or.mp hne) ha hb hab
  have := hi.refs_le_one a.ch
  omega

/-- A hub with two sessions attached, under connection ids `A` and `B`. -/
def twoSessions : List Action :=
  [.newStreamHub ["239.0.0.1:5000"] [] groupNet,
    .serveHTTP 0 "A" "" "video/mp2t" 0, .serveHTTP 0 "B" "" "video/mp2t" 0,
    .step 2 .go, .step 3 .go, .step 0 .add, .step 0 .add]

/-- The world `twoSessions` leaves. -/
def twoSessionsWorld : World := (run id World.init twoSessions).getD World.init

theorem twoSessions_queues_exclusive :
    Reachable id twoSessionsWorld ∧
    (∀ i j k k' a b, (twoSessionsWorld.hub i).clients.get k = some a →
      (twoSessionsWorld.hub j).clients.get k' = some b → a.ch = b.ch → i = j ∧ k = k') ∧
    (∀ i k a, (twoSessionsWorld.hub i).clients.get k = some a →
      (twoSessionsWorld.chan a.ch).closed = false) ∧
    twoSessionsWorld.panic ≠ some .closeOfClosed :=
  have hw : Reachable id twoSessionsWorld := reachable_run_getD rfl
  ⟨hw, client_queue_exclusive hw⟩

/-- Two sessions attach; the broadcast copies the table; `B` leaves, and `run` deletes its
entry and closes its queue. -/
def staleFanout : List Action :=
  twoSessions ++
  [.step 1 (.net groupNet), .step 1 .go, .step 1 (.datagram [0x47] none), .step 1 .go, .step 1 .go,
    .step 3 (.flushable false), .step 3 .go, .step 0 .remove]

/-- The invariant covers the tables, not the copy `broadcast` sends from: a receive loop's
fan-out still holds a client that `run` has deleted and whose queue it has closed, and the
next send panics. -/
theorem broadcast_sends_on_closed_queue (md5Hex : String → String) :
    ∃ w t, Reachable md5Hex w ∧
      (∃ h sock hubAddr dst data c rest,
        w.task t = .readLoop h sock hubAddr (.fanout dst data (c :: rest)) ∧
        (w.chan c.ch).closed = true ∧ (w.hub h).clients.get c.connID = none) ∧
      step md5Hex w (.step t (.client 0)) = some (w.fail .sendOnClosed) :=
  ⟨_, 1, @reachable_run_getD md5Hex staleFanout rfl,
    ⟨0, 0, "239.0.0.1:5000", _, _, _, _, rfl, rfl, rfl⟩, rfl⟩

/-- Two requests carry the same `X-ConnID`; the second's client replaces the first's in
the table; the first leaves. -/
def sharedConnID : List Action :=
  [.newStreamHub ["239.0.0.1:5000"] [] groupNet,
    .serveHTTP 0 "A" "" "video/mp2t" 0, .serveHTTP 0 "A" "" "video/mp2t" 0,
    .step 2 .go, .step 3 .go, .step 0 .add, .step 0 .add,
    .step 3 (.flushable true), .step 3 .go,
    .step 2 (.flushable false), .step 2 .go, .step 0 .remove]

/-- Connection ids are not unique: a session whose connection id another session shares
has its queue closed by the other's detach, while it is still serving on an open hub. -/
theorem detach_closes_other_sessions_queue (md5Hex : String → String) :
    ∃ w t s, Reachable md5Hex w ∧ w.task t = .serve s ∧ s.pc = .serving 0 ∧
      (w.hub s.hub).closed = false ∧ (w.chan s.ch).closed = true :=
  ⟨_, 3, _, @reachable_run_getD md5Hex sharedConnID rfl, rfl, rfl, rfl, rfl⟩

end TvGate.Stream
