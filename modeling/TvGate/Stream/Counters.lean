import TvGate.Stream.Steps

/-!
# A hub's state and counters

`broadcast` writes a hub's `PacketCount`, `LastFrame`, ring and state in one section under
`h.Mu`; its drop branch writes `DropCount` in another; `Close` stops the hub. This module
says once what a step can do to these fields of a hub (`HubMove`), and derives two
properties of every run from it.

* A hub is playing, or it is stopped and its `Closed` has been signalled: never in the
  error state, and never stopped while open. So `WaitForPlaying` never reaches its wait
  loop (`waitForPlaying_never_waits`).
* On a hub that stays open and that no `TransferClientsTo` targets, the counters, the
  ring and `LastFrame` are exactly what the run's `broadcast` sections and drop sections
  make of them, in the order they took `h.Mu`: no update is lost (`hub_counters`). The
  counters are `uint64`s and count modulo `2^64`. A drop is counted when its section runs,
  not when its send fails: the drop sections so far, together with the receive loops that
  stand between a failed send and their drop section, are exactly the failed sends.

The last fact follows the receive loops along the run: every failed primary send moves its
loop to `.dropped`, from where only its drop section moves it on (`pendingDrops_run`), and
a loop past its `broadcast` section belongs to a hub that exists (`LoopsOnHubs`), so a hub
starts with no loop waiting to count a drop for it.

## Main definitions

* `broadcastFrame`, `dropSection` — which steps are a hub's `broadcast` section, with the
  frame it pushes, and its drop section.
* `HubMove`, `HubsMove` — what a step does to one hub's fields, and to the hub list;
  `step_hubsMove` shows every step is one.
* `failedSend`, `World.pendingDrops` — which steps are a failed primary send for a hub, and
  how many of its receive loops wait for their drop section.
-/

namespace TvGate.Stream

open Go World

/-- The fields of a hub that `broadcast`, its drop branch and `Close` write. -/
def StreamHub.obs (h : StreamHub) :
    Int × Bool × UInt64 × UInt64 × Frame × Option (RingBuffer Frame) :=
  (h.state, h.closed, h.packetCount, h.dropCount, h.lastFrame, h.cacheBuffer)

theorem StreamHub.state_eq_of_obs {a b : StreamHub} (h : a.obs = b.obs) : a.state = b.state :=
  congrArg Prod.fst h

theorem StreamHub.closed_eq_of_obs {a b : StreamHub} (h : a.obs = b.obs) : a.closed = b.closed :=
  congrArg (·.2.1) h

/-- The frame that a step's `broadcast` section pushes onto hub `i`'s ring: a receive loop
of `i` takes `h.Mu` at `broadcast` and passes the nil guard. -/
def broadcastFrame (w : World) (a : Action) (i : Nat) : Option Frame :=
  match a with
  | .step t .go =>
    match w.task t with
    | .readLoop h _ _ (.broadcast _ data) =>
      if h = i ∧ (w.hub i).cacheBuffer.isSome ∧ (w.hub i).clients.isSome then some data
      else none
    | _ => none
  | _ => none

/-- Whether a step is the section of `broadcast`'s drop branch of a receive loop of hub `i`:
`h.DropCount++`, after a failed send. -/
def dropSection (w : World) (a : Action) (i : Nat) : Bool :=
  match a with
  | .step t .go =>
    match w.task t with
    | .readLoop h _ _ (.dropped _ _ _ _) => h == i
    | _ => false
  | _ => false

/-- What one step does to the fields `obs` of hub `i`, from `hub` to `hub'`. -/
inductive HubMove (w : World) (a : Action) (i : Nat) (hub hub' : StreamHub) : Prop
  /-- nothing -/
  | keep : hub'.obs = hub.obs → HubMove w a i hub hub'
  /-- `Close` -/
  | close : hub'.closed = true → hub'.state = stateStopped → HubMove w a i hub hub'
  /-- `broadcast`'s section, past its nil guard -/
  | broadcast : (broadcastFrame w a i).isSome → hub'.state = statePlaying →
      hub'.closed = hub.closed → HubMove w a i hub hub'
  /-- the drop branch's section -/
  | drop : dropSection w a i = true → hub'.state = hub.state → hub'.closed = hub.closed →
      HubMove w a i hub hub'
  /-- `TransferClientsTo` into hub `i` -/
  | transferIn (h : Nat) : a = .transferClientsTo h i → hub'.state = hub.state →
      hub'.closed = hub.closed → HubMove w a i hub hub'

/-- A move followed by an update that keeps `obs` is the same move. -/
theorem HubMove.congr {w : World} {a : Action} {i : Nat} {hub hub₁ hub₂ : StreamHub}
    (hm : HubMove w a i hub hub₁) (h : hub₂.obs = hub₁.obs) : HubMove w a i hub hub₂ := by
  have hs := StreamHub.state_eq_of_obs h
  have hc := StreamHub.closed_eq_of_obs h
  cases hm with
  | keep h₁ => exact .keep (h.trans h₁)
  | close h₁ h₂ => exact .close (hc.trans h₁) (hs.trans h₂)
  | broadcast h₁ h₂ h₃ => exact .broadcast h₁ (hs.trans h₂) (hc.trans h₃)
  | drop h₁ h₂ h₃ => exact .drop h₁ (hs.trans h₂) (hc.trans h₃)
  | transferIn n h₁ h₂ h₃ => exact .transferIn n h₁ (hs.trans h₂) (hc.trans h₃)

/-- A world update that makes no hub and leaves every hub's `obs` as it was. -/
structure ObsKept (w w' : World) : Prop where
  length : w'.hubs.length = w.hubs.length
  obs : ∀ i, (w'.hub i).obs = (w.hub i).obs

/-- A hub as `NewStreamHub` makes it: playing and open, with zero counters, no last frame
and an empty ring of `cacheFrames` slots. -/
structure StreamHub.Fresh (hub : StreamHub) : Prop where
  state : hub.state = statePlaying
  closed : hub.closed = false
  packetCount : hub.packetCount = 0
  dropCount : hub.dropCount = 0
  lastFrame : hub.lastFrame = .nil
  ring : ∃ r, hub.cacheBuffer = some r ∧ r.size = cacheFrames ∧ r.Holds []

theorem StreamHub.Fresh.congr {hub hub' : StreamHub} (h : hub.Fresh) (ho : hub'.obs = hub.obs) :
    hub'.Fresh := by
  simp only [StreamHub.obs, Prod.mk.injEq] at ho
  obtain ⟨h₁, h₂, h₃, h₄, h₅, h₆⟩ := ho
  exact ⟨h₁ ▸ h.state, h₂ ▸ h.closed, h₃ ▸ h.packetCount, h₄ ▸ h.dropCount,
    h₅ ▸ h.lastFrame, h₆ ▸ h.ring⟩

/-- What a step does to the hubs: each old hub moves by a `HubMove`, and at most one hub is
made, fresh. -/
structure HubsMove (w : World) (a : Action) (w' : World) : Prop where
  grow : w'.hubs.length = w.hubs.length ∨
    w'.hubs.length = w.hubs.length + 1 ∧ (w'.hub w.hubs.length).Fresh
  move : ∀ i < w.hubs.length, HubMove w a i (w.hub i) (w'.hub i)

/-- Hub `i` after replacing hub `j`. -/
theorem World.hub_set {w w' : World} {j : Nat} {hub : StreamHub}
    (hh : w'.hubs = w.hubs.set j hub) (i : Nat) :
    w'.hub i = if j = i ∧ j < w.hubs.length then hub else w.hub i := by
  simp only [World.hub, hh, List.getD_eq_getElem?_getD, List.getElem?_set]
  by_cases hj : j = i
  · subst hj
    by_cases hl : j < w.hubs.length
    · simp [hl]
    · simp [hl, List.getElem?_eq_none (Nat.le_of_not_lt hl)]
  · simp [hj]

theorem World.hub_setTask (w : World) (t : Nat) (task : Task) (i : Nat) :
    (w.setTask t task).hub i = w.hub i := rfl

/-- Hub `i` after a hub is added. -/
theorem World.hub_append {w w' : World} {hub : StreamHub} (hh : w'.hubs = w.hubs ++ [hub])
    (i : Nat) : w'.hub i = if i < w.hubs.length then w.hub i else
      if i = w.hubs.length then hub else default := by
  rw [World.hub, hh]
  split_ifs with h₁ h₂
  · exact List.getD_append _ _ _ _ h₁
  · subst h₂; simp
  · exact List.getD_eq_default _ _
      (by simp only [List.length_append, List.length_singleton]; omega)

namespace ObsKept

variable {w w₁ w₂ : World}

protected theorem rfl : ObsKept w w := ⟨rfl, fun _ => rfl⟩

theorem trans (h₁ : ObsKept w w₁) (h₂ : ObsKept w₁ w₂) : ObsKept w w₂ :=
  ⟨h₂.length.trans h₁.length, fun i => (h₂.obs i).trans (h₁.obs i)⟩

theorem of_hubs (hh : w₁.hubs = w.hubs) : ObsKept w w₁ :=
  ⟨by rw [hh], fun i => by rw [World.hub, World.hub, hh]⟩

theorem set {j : Nat} {hub : StreamHub} (hh : w₁.hubs = w.hubs.set j hub)
    (h : hub.obs = (w.hub j).obs) : ObsKept w w₁ := by
  refine ⟨by simp [hh], fun i => ?_⟩
  rw [hub_set hh]
  split_ifs with hj
  · rw [← hj.1]; exact h
  · rfl

end ObsKept

namespace HubsMove

variable {w w₁ w₂ : World} {a : Action}

theorem of_kept (h : ObsKept w w₁) : HubsMove w a w₁ :=
  ⟨.inl h.length, fun i _ => .keep (h.obs i)⟩

theorem kept (hm : HubsMove w a w₁) (hk : ObsKept w₁ w₂) : HubsMove w a w₂ := by
  refine ⟨?_, fun i hi => (hm.move i hi).congr (hk.obs i)⟩
  rcases hm.grow with h | ⟨h, hf⟩
  · exact .inl (hk.length.trans h)
  · exact .inr ⟨hk.length.trans h, hf.congr (hk.obs _)⟩

theorem set {j : Nat} {hub : StreamHub} (hh : w₁.hubs = w.hubs.set j hub)
    (hm : HubMove w a j (w.hub j) hub) : HubsMove w a w₁ := by
  refine ⟨.inl (by simp [hh]), fun i _ => ?_⟩
  rw [hub_set hh]
  split_ifs with hj
  · rw [← hj.1]; exact hm
  · exact .keep rfl

theorem commit {x : Go World} (h : ∀ w₁, x = .ok w₁ → HubsMove w a w₁) :
    HubsMove w a (w.commit x) := by
  cases x with
  | error p => exact of_kept (.of_hubs rfl)
  | ok w₁ => exact h w₁ rfl

/-- A critical section that ends in a write that keeps `obs`. -/
theorem commit_bind {x : Go World} {f : World → World}
    (hx : ∀ w₁, x = .ok w₁ → HubsMove w a w₁) (hf : ∀ w₁, ObsKept w₁ (f w₁)) :
    HubsMove w a (w.commit (x >>= fun w₁ => pure (f w₁))) :=
  commit fun _ h =>
    let ⟨w₁, h₁, h₂⟩ := bind_eq_ok h
    by cases h₂; exact (hx w₁ h₁).kept (hf w₁)

end HubsMove

/-! ## Critical sections -/

namespace World

variable {w w' : World} {a : Action}

theorem hubsMove_close {h : Nat} (hc : w.close h = .ok w') : HubsMove w a w' := by
  unfold World.close at hc
  dsimp only at hc
  split at hc
  · cases hc; exact .of_kept .rfl
  · obtain ⟨_, -, hc⟩ := bind_eq_ok hc
    obtain ⟨_, -, hc⟩ := bind_eq_ok hc
    cases hc
    exact .set rfl (.close rfl rfl)

theorem obsKept_runAdd {h : Nat} {c : HubClient} (hr : w.runAdd h c = .ok w') : ObsKept w w' := by
  obtain ⟨_, -, hr⟩ := bind_eq_ok hr
  cases hr
  exact .set rfl rfl

theorem obsKept_runRemove {h : Nat} {k : String} {e : Bool} (hr : w.runRemove h k = .ok (w', e)) :
    ObsKept w w' := by
  unfold World.runRemove at hr
  dsimp only at hr
  split at hr
  · obtain ⟨_, -, hr⟩ := bind_eq_ok hr
    cases hr
    exact ObsKept.set rfl rfl
  · cases hr; exact .rfl

theorem obsKept_runClosed {h : Nat} (hr : w.runClosed h = .ok w') : ObsKept w w' := by
  obtain ⟨_, -, hr⟩ := bind_eq_ok hr
  cases hr
  exact .set rfl rfl

theorem hubsMove_broadcastLocked {t h sock : Nat} {hubAddr : String} {dst : List UInt8}
    {data : Frame} {cs : List HubClient}
    (ht : w.task t = .readLoop h sock hubAddr (.broadcast dst data))
    (hb : w.broadcastLocked h data = .ok (some (w', cs))) : HubsMove w (.step t .go) w' := by
  unfold broadcastLocked at hb
  dsimp only at hb
  split at hb
  · rename_i hr hc
    obtain ⟨_, -, hb⟩ := bind_eq_ok hb
    cases hb
    exact .set rfl (.broadcast (by simp [broadcastFrame, ht, hr, hc]) rfl rfl)
  · cases hb

theorem obsKept_spawnReadLoops {h : Nat} {addrs : List String} :
    ∀ {w w' : World} {idx : Nat} {conns : List Nat},
      w.spawnReadLoops h addrs idx conns = .ok w' → ObsKept w w'
  | _, _, _, [], hs => by cases hs; exact .rfl
  | _, _, _, _ :: _, hs => by
    obtain ⟨_, -, hs⟩ := bind_eq_ok hs
    obtain ⟨_, -, hs⟩ := bind_eq_ok hs
    refine ObsKept.trans ?_ (obsKept_spawnReadLoops hs)
    exact .of_hubs rfl

theorem obsKept_updateInterfaces {h : Nat} {ifaces : List String} {net : Net}
    {r : Except StreamError Unit} (hu : w.updateInterfaces h ifaces net = .ok (w', r)) :
    ObsKept w w' := by
  unfold updateInterfaces at hu
  dsimp only at hu
  generalize updateInterfacesConns net ifaces (w.hub h).addrList none = res at hu
  rcases res with ⟨_ | ⟨conn, conns⟩, lastErr⟩
  · cases hu; exact .rfl
  · obtain ⟨w₂, hs, hu⟩ := bind_eq_ok hu
    cases hu
    rw [openSocks_fst] at hs
    refine ObsKept.trans ?_ (obsKept_spawnReadLoops hs)
    exact .set rfl rfl

/-- `NewStreamHub` makes hub `w.hubs.length`, fresh. -/
theorem hubsMove_newStreamHub {addrs ifaces : List String} {net : Net} {i : Nat}
    (hn : w.newStreamHub addrs ifaces net = .ok (.ok (w', i))) :
    HubsMove w a w' ∧ i = w.hubs.length := by
  obtain ⟨_, ring, _, -, -, rfl, hring, hw', -⟩ := newStreamHub_spec hn
  obtain ⟨r, hr, hsize, hh₀⟩ := @holds_newRingBuffer Frame _ cacheFrames (by decide)
  rw [hring, Except.ok.injEq] at hr
  subst hr
  have hh := hub_append (congrArg World.hubs hw')
  refine ⟨⟨.inr ⟨by simp [hw'], ?_⟩, fun j hj => .keep (by simp [hh, hj])⟩, rfl⟩
  simp only [hh, lt_irrefl, if_false, if_true]
  exact ⟨rfl, rfl, rfl, rfl, rfl, _, rfl, hsize, hh₀⟩

theorem hubsMove_transferClientsTo {h n : Nat} (hne : h ≠ n)
    (ht : w.transferClientsTo h n = .ok w') : HubsMove w (.transferClientsTo h n) w' := by
  unfold transferClientsTo at ht
  dsimp only at ht
  obtain ⟨_, -, ht⟩ := bind_eq_ok ht
  obtain ⟨_, -, ht⟩ := bind_eq_ok ht
  obtain ⟨_, -, ht⟩ := bind_eq_ok ht
  obtain ⟨ring, -, ht⟩ := bind_eq_ok ht
  obtain ⟨⟨clients, _⟩, -, ht⟩ := bind_eq_ok ht
  cases ht
  have hn : HubsMove w (.transferClientsTo h n)
      (w.setHub n { w.hub n with clients, cacheBuffer := some ring }) :=
    .set rfl (.transferIn h rfl rfl rfl)
  refine hn.kept (ObsKept.set rfl ?_)
  rw [hub_setHub_ne _ hne.symm]
  rfl

theorem obsKept_removeHubLocked {md5Hex : String → String} {udpAddr : String}
    {ifaces : List String} {r : Option Nat}
    (h : w.removeHubLocked md5Hex udpAddr ifaces = (w', r)) : ObsKept w w' := by
  have h₁ := w.removeHubLocked_fst md5Hex udpAddr ifaces
  rw [h] at h₁
  rw [show w' = _ from h₁]
  exact .of_hubs rfl

end World

/-! ## Steps -/

section Steps

variable {md5Hex : String → String} {w w' : World} {t : Nat}

theorem RunStep.hubsMove {h : Nat} {pc : RunPc} {i : Input} (hs : RunStep md5Hex w t h pc i w') :
    HubsMove w (.step t i) w' := by
  cases hs with
  | add =>
    refine .commit fun w' hw' => .of_kept ?_
    obtain ⟨w₁, h₁, h₂⟩ := bind_eq_ok hw'
    cases h₂
    refine ObsKept.trans ?_ ((obsKept_runAdd h₁).trans (.of_hubs rfl))
    exact .set rfl rfl
  | remove =>
    refine .commit fun w' hw' => .of_kept ?_
    obtain ⟨⟨w₁, e⟩, h₁, h₂⟩ := bind_eq_ok hw'
    refine ObsKept.trans ?_ ((obsKept_runRemove h₁).trans ?_)
    · exact .set rfl rfl
    · cases e <;> cases h₂ <;> exact .of_hubs rfl
  | closed =>
    exact .commit_bind (fun _ h₁ => .of_kept (obsKept_runClosed h₁)) fun _ => .of_hubs rfl
  | reap | closeRemoved => exact .commit_bind (fun _ => hubsMove_close) fun _ => .of_hubs rfl
  | onEmptyNil => exact .of_kept (.of_hubs rfl)
  | onEmpty =>
    refine .commit fun w' hw' => .of_kept ?_
    obtain ⟨addr, -, h₂⟩ := bind_eq_ok hw'
    split at h₂ <;> cases h₂ <;> rename_i hr <;>
      exact (obsKept_removeHubLocked hr).trans (.of_hubs rfl)

theorem ReadStep.hubsMove {h sock : Nat} {hubAddr : String} {pc : ReadPc} {i : Input}
    (ht : w.task t = .readLoop h sock hubAddr pc) (hs : ReadStep w t h sock hubAddr pc i w') :
    HubsMove w (.step t i) w' := by
  cases hs with
  | broadcast _ hb => exact (hubsMove_broadcastLocked ht hb).kept (.of_hubs rfl)
  | drop => exact .set rfl (.drop (by simp [dropSection, ht]) rfl rfl)
  | drain | resend => exact .of_kept (.set rfl rfl)
  | resolve | resolveFail | loop | skip | datagram | readError | stopped | input | copy
    | broadcastFail | broadcastNil | fanoutDone | sendFail | send | sendFull | drainResend
    | resendFail => exact .of_kept (.of_hubs rfl)

theorem PrimeStep.obsKept {h ch : Nat} {pc : PrimePc} {i : Input}
    (hs : PrimeStep w t h ch pc i w') : ObsKept w w' := by
  cases hs <;> exact .of_hubs rfl

theorem ServeStep.obsKept {s : Session} {i : Input} (hs : ServeStep w t s i w') : ObsKept w w' := by
  cases hs with
  | attach | detach => exact .set rfl rfl
  | headers | playing | notPlaying | waitLoop | queueClosed | writeFail | write | flushTick
    | cancel | hubClosed => exact .of_hubs rfl

theorem CallStep.hubsMove {udpAddr : String} {ifaces : List String} {pc : CallPc} {i : Input}
    (hs : CallStep w t udpAddr ifaces pc i w') : HubsMove w (.step t i) w' := by
  cases hs with
  | create hn => exact (hubsMove_newStreamHub hn).1.kept (.set rfl rfl)
  | checkClosed | createFail | createError | insert => exact .of_kept (.of_hubs rfl)

theorem ActionStep.hubsMove {a : Action} (hs : ActionStep md5Hex w a w') : HubsMove w a w' := by
  cases hs with
  | removeHubEx hr => exact .of_kept ((obsKept_removeHubLocked hr).trans (.of_hubs rfl))
  | removeHubExMissing hr => exact .of_kept (obsKept_removeHubLocked hr)
  | newStreamHub hn => exact (hubsMove_newStreamHub hn).1.kept (.of_hubs rfl)
  | close => exact .commit fun _ => hubsMove_close
  | @updateInterfaces h ifaces net =>
    refine .commit fun w' hw' => .of_kept ?_
    rcases hu : w.updateInterfaces h ifaces net with _ | ⟨w₁, r⟩ <;> rw [hu] at hw' <;>
      cases hw'
    exact obsKept_updateInterfaces hu
  | transferClientsTo _ _ hne => exact .commit fun _ => hubsMove_transferClientsTo hne
  | run _ hs => exact hs.hubsMove
  | readLoop ht hs => exact hs.hubsMove ht
  | prime _ hs => exact .of_kept hs.obsKept
  | serve _ hs => exact .of_kept hs.obsKept
  | call _ hs => exact hs.hubsMove
  | closeRemoved => exact .commit_bind (fun _ => hubsMove_close) fun _ => .of_hubs rfl
  | getOrCreateFound | getOrCreateMissing | newStreamHubFail | newStreamHubError | refused
    | serveHTTP => exact .of_kept (.of_hubs rfl)

/-- What every step does to the hubs. -/
theorem step_hubsMove {a : Action} (hs : step md5Hex w a = some w') : HubsMove w a w' :=
  (step_cases hs).2.hubsMove

end Steps

/-! ## `WaitForPlaying` never waits -/

/-- A hub as `WaitForPlaying` may find it: playing, or stopped once `Closed` is signalled. -/
def StreamHub.StateOk (hub : StreamHub) : Prop :=
  hub.state = statePlaying ∨ hub.state = stateStopped ∧ hub.closed = true

theorem HubMove.stateOk {w : World} {a : Action} {i : Nat} {hub hub' : StreamHub}
    (hm : HubMove w a i hub hub') (h : hub.StateOk) : hub'.StateOk := by
  cases hm with
  | keep ho => rwa [StreamHub.StateOk, StreamHub.state_eq_of_obs ho, StreamHub.closed_eq_of_obs ho]
  | close hc hs => exact .inr ⟨hs, hc⟩
  | broadcast _ hs _ => exact .inl hs
  | drop _ hs hc => rwa [StreamHub.StateOk, hs, hc]
  | transferIn _ _ hs hc => rwa [StreamHub.StateOk, hs, hc]

/-- Every hub of `w` is playing, or stopped and closed. -/
def HubsStateOk (w : World) : Prop := ∀ i < w.hubs.length, (w.hub i).StateOk

theorem HubsMove.hubsStateOk {w w' : World} {a : Action} (hm : HubsMove w a w')
    (h : HubsStateOk w) : HubsStateOk w' := by
  intro i hi
  by_cases hl : i < w.hubs.length
  · exact (hm.move i hl).stateOk (h i hl)
  · rcases hm.grow with hg | ⟨hg, hf⟩
    · omega
    · obtain rfl : i = w.hubs.length := by omega
      exact .inl hf.state

theorem hubsStateOk_of_reachable {md5Hex : String → String} {w : World}
    (hw : Reachable md5Hex w) : HubsStateOk w := by
  induction hw with
  | init => intro i hi; simp [World.init] at hi
  | step a _ hs ih => exact (step_hubsMove hs).hubsStateOk ih

/-- In every reachable state a hub is stopped only once its `Closed` has been signalled, and
it is never in the error state. So `WaitForPlaying` never reaches its wait loop: it returns
at once, true exactly when the hub is open and playing. -/
theorem waitForPlaying_never_waits {md5Hex : String → String} {w : World}
    (hw : Reachable md5Hex w) {i : Nat} (hi : i < w.hubs.length) :
    ((w.hub i).state = stateStopped → (w.hub i).closed = true) ∧
      (w.hub i).state ≠ stateError ∧
      (w.hub i).waitForPlaying = some (!(w.hub i).closed && (w.hub i).state == statePlaying) := by
  rcases hubsStateOk_of_reachable hw i hi with hs | ⟨hs, hc⟩
  · cases hc : (w.hub i).closed <;>
      simp [StreamHub.waitForPlaying, hs, hc, statePlaying, stateStopped, stateError]
  · simp [StreamHub.waitForPlaying, hs, hc, statePlaying, stateStopped, stateError]

/-- A process that has made one hub. -/
def oneHub : List Action := [.newStreamHub ["239.0.0.1:5000"] [] groupNet]

/-- The world `oneHub` leaves. -/
def oneHubWorld : World := (run id World.init oneHub).getD World.init

theorem oneHub_never_waits :
    Reachable id oneHubWorld ∧ 0 < oneHubWorld.hubs.length ∧
    ((oneHubWorld.hub 0).state = stateStopped → (oneHubWorld.hub 0).closed = true) ∧
    (oneHubWorld.hub 0).state ≠ stateError ∧
    (oneHubWorld.hub 0).waitForPlaying =
      some (!(oneHubWorld.hub 0).closed && (oneHubWorld.hub 0).state == statePlaying) :=
  have hw : Reachable id oneHubWorld := reachable_run_getD rfl
  have h0 : 0 < oneHubWorld.hubs.length := by decide
  ⟨hw, h0, waitForPlaying_never_waits hw h0⟩

/-! ## The counters, the ring and `LastFrame` -/

/-- A hub's counters, ring and `LastFrame` once `broadcast` sections have pushed `frames` and
`drops` drop sections have run on it, from fresh. The counters are `uint64`s. -/
structure Counted (hub : StreamHub) (frames : List Frame) (drops : Nat) : Prop where
  packetCount : hub.packetCount.toNat = frames.length % UInt64.size
  dropCount : hub.dropCount.toNat = drops % UInt64.size
  lastFrame : hub.lastFrame = frames.getLastD .nil
  ring : ∃ r, hub.cacheBuffer = some r ∧ r.size = cacheFrames ∧ r.Holds frames

section Counting

variable {md5Hex : String → String} {w w' : World} {a : Action} {i : Nat}
  {hub hub' : StreamHub} {fs : List Frame} {d : Nat}

theorem Counted.congr (h : Counted hub fs d) (ho : hub'.obs = hub.obs) : Counted hub' fs d := by
  simp only [StreamHub.obs, Prod.mk.injEq] at ho
  obtain ⟨-, -, h₁, h₂, h₃, h₄⟩ := ho
  exact ⟨h₁ ▸ h.packetCount, h₂ ▸ h.dropCount, h₃ ▸ h.lastFrame, h₄ ▸ h.ring⟩

theorem lt_length_of_cacheBuffer {r : RingBuffer Frame} (h : (w.hub i).cacheBuffer = some r) :
    i < w.hubs.length := by
  by_contra hl
  rw [World.hub, List.getD_eq_default _ _ (Nat.le_of_not_lt hl)] at h
  cases h

theorem lt_length_of_closed (h : (w.hub i).closed = true) : i < w.hubs.length := by
  by_contra hl
  rw [World.hub, List.getD_eq_default _ _ (Nat.le_of_not_lt hl)] at h
  cases h

theorem HubsMove.length_le (hm : HubsMove w a w') : w.hubs.length ≤ w'.hubs.length := by
  rcases hm.grow with h | ⟨h, -⟩ <;> omega

/-- No step reopens a hub. -/
theorem HubsMove.closed (hm : HubsMove w a w') (h : (w.hub i).closed = true) :
    (w'.hub i).closed = true := by
  cases hm.move i (lt_length_of_closed h) with
  | keep ho => rwa [StreamHub.closed_eq_of_obs ho]
  | close hc _ => exact hc
  | broadcast _ _ hc => rwa [hc]
  | drop _ _ hc => rwa [hc]
  | transferIn _ _ _ hc => rwa [hc]

end Counting

/-! ## Failed sends and the drops they wait for

The fan-out's send to a full queue does not count the drop: the loop goes to its drop
branch, whose own section, a later step, runs `DropCount++`. In between the loop waits at
`.dropped`. So along a run the drop sections that ran and the loops still waiting add up
to the failed sends (`pendingDrops_run`), and `DropCount` counts a failed send exactly once,
late. -/

/-- Whether a step is a failed send of the fan-out of a receive loop of hub `i`: `select`
takes its `default` case on the client's full queue. -/
def failedSend (w : World) (a : Action) (i : Nat) : Bool :=
  match a with
  | .step t (.client j) =>
    match w.task t with
    | .readLoop h _ _ (.fanout _ data cs) =>
      match cs[j]? with
      | some c =>
        match (w.chan c.ch).trySend data with
        | .ok none => h == i
        | _ => false
      | none => false
    | _ => false
  | _ => false

/-- Whether a goroutine is a receive loop of hub `i` waiting at its drop branch. -/
def Task.dropPending (i : Nat) : Task → Bool
  | .readLoop h _ _ (.dropped ..) => h == i
  | _ => false

/-- The receive loops of hub `i` waiting at their drop branch: their send failed, and their
`DropCount++` has not run yet. -/
def World.pendingDrops (w : World) (i : Nat) : Nat := w.tasks.countP (Task.dropPending i)

section Pending

variable {md5Hex : String → String} {w w' : World} {a : Action} {i : Nat}

theorem Task.dropPending_of_fresh {x : Task} (hx : x.Fresh) : x.dropPending i = false := by
  cases x with
  | readLoop _ _ _ pc => cases hx; rfl
  | _ => rfl

theorem Task.dropPending_of_isReadLoop {x : Task} (hx : x.isReadLoop = false) :
    x.dropPending i = false := by
  cases x <;> first | rfl | cases hx

theorem TasksGrow.pendingDrops (h : TasksGrow w w') : w'.pendingDrops i = w.pendingDrops i := by
  obtain ⟨new, e, f⟩ := h
  have h₀ : new.countP (Task.dropPending i) = 0 :=
    List.countP_eq_zero.mpr fun x hx => by simp [Task.dropPending_of_fresh (f x hx)]
  simp only [World.pendingDrops, e, List.countP_append, h₀, Nat.add_zero]

/-- Writing goroutine `u` trades its old count for the new one. -/
theorem World.pendingDrops_setTask (w : World) {u : Nat} (hu : u < w.tasks.length) (y : Task)
    (i : Nat) : (w.setTask u y).pendingDrops i + ((w.task u).dropPending i).toNat =
      w.pendingDrops i + (y.dropPending i).toNat := by
  have hs := List.countP_set (Task.dropPending i) w.tasks u y hu
  have hle := List.boole_getElem_le_countP (Task.dropPending i) w.tasks u hu
  have ht : w.task u = w.tasks[u] := by simp [World.task, List.getD_eq_getElem?_getD, hu]
  simp only [World.pendingDrops, setTask_tasks, ht] at hs ⊢
  split_ifs at hs hle with h₁ h₂ h₂ <;> simp only [h₁, h₂, Bool.toNat_true, Bool.toNat_false] <;>
    omega

theorem World.pendingDrops_setTask_eq (w : World) {u : Nat} {y : Task}
    (hx : (w.task u).dropPending i = false) (hy : y.dropPending i = false) :
    (w.setTask u y).pendingDrops i = w.pendingDrops i := by
  rcases Nat.lt_or_ge u w.tasks.length with hu | hu
  · have := w.pendingDrops_setTask hu y i
    rw [hx, hy] at this
    simpa using this
  · simp [World.pendingDrops, List.set_eq_of_length_le hu]

theorem dropSection_of_call (ha : ∀ u j, a ≠ .step u j) : dropSection w a i = false := by
  cases a <;> first | rfl | exact absurd rfl (ha _ _)

theorem failedSend_of_call (ha : ∀ u j, a ≠ .step u j) : failedSend w a i = false := by
  cases a <;> first | rfl | exact absurd rfl (ha _ _)

theorem dropSection_of_isReadLoop {u : Nat} {j : Input} (hr : (w.task u).isReadLoop = false) :
    dropSection w (.step u j) i = false := by
  unfold dropSection
  split
  · split <;> simp_all [Task.isReadLoop]
  · rfl

theorem failedSend_of_isReadLoop {u : Nat} {j : Input} (hr : (w.task u).isReadLoop = false) :
    failedSend w (.step u j) i = false := by
  unfold failedSend
  split
  · split <;> simp_all [Task.isReadLoop]
  · rfl

end Pending

section PendingSteps

variable {md5Hex : String → String} {w w' : World} {t : Nat} {i : Nat}

/-- A step that writes goroutine `t` from no waiting loop to none, and otherwise acts as a
section, is neither a failed send nor a drop section, and keeps the count. -/
theorem pendingDrops_keep {a : Action} {y : Task} (hg : TasksGrow (w.setTask t y) w')
    (hx : (w.task t).dropPending i = false) (hy : y.dropPending i = false)
    (hd : dropSection w a i = false) (hf : failedSend w a i = false) :
    w'.pendingDrops i + (dropSection w a i).toNat = w.pendingDrops i + (failedSend w a i).toNat := by
  rw [hg.pendingDrops, w.pendingDrops_setTask_eq hx hy, hd, hf]

/-- A step of a receive loop: a failed send puts the loop at its drop branch, the drop section
takes it off, and every other branch leaves the count alone. -/
theorem ReadStep.pendingDrops {h sock : Nat} {hubAddr : String} {pc : ReadPc} {inp : Input}
    (ht : w.task t = .readLoop h sock hubAddr pc) (hs : ReadStep w t h sock hubAddr pc inp w') :
    w'.pendingDrops i + (dropSection w (.step t inp) i).toNat =
      w.pendingDrops i + (failedSend w (.step t inp) i).toNat := by
  have hl := lt_length_of_task ht nofun
  cases hs with
  | @sendFull dst data cs j c hc hf =>
    have := w.pendingDrops_setTask hl (.readLoop h sock hubAddr (.dropped dst data (cs.eraseIdx j) c)) i
    simpa [failedSend, dropSection, ht, hc, hf, Task.dropPending] using this
  | @drop dst data rest c =>
    have := w.pendingDrops_setTask hl (.readLoop h sock hubAddr
      (if ((w.hub h).dropCount + 1) % 100 == 0 then .drain dst data rest c else .fanout dst data rest)) i
    have hy : Task.dropPending i (.readLoop h sock hubAddr
        (if ((w.hub h).dropCount + 1) % 100 == 0 then .drain dst data rest c
          else .fanout dst data rest)) = false := by
      split <;> rfl
    rw [hy] at this
    simpa [World.pendingDrops, dropSection, failedSend, ht, Task.dropPending] using this
  | resolveFail | broadcastFail | resendFail => simp [World.pendingDrops, dropSection, failedSend, ht]
  | sendFail hc hf => simp [World.pendingDrops, dropSection, failedSend, ht, hc, hf]
  | broadcast _ hb =>
    exact pendingDrops_keep ((tasksGrow_broadcastLocked hb).setTask hl _) (by rw [ht]; rfl) rfl
      (by simp [dropSection, ht]) (by simp [failedSend])
  | send hc hf =>
    exact pendingDrops_keep (.of_eq rfl) (by rw [ht]; rfl) rfl (by simp [dropSection])
      (by simp [failedSend, ht, hc, hf])
  | loop =>
    exact pendingDrops_keep (.of_eq rfl) (by rw [ht]; rfl) (by split <;> rfl)
      (by simp [dropSection, ht]) (by simp [failedSend])
  | resolve | skip | datagram | readError | stopped | input | copy | broadcastNil | fanoutDone
    | drainResend | drain | resend =>
    exact pendingDrops_keep (.of_eq rfl) (by rw [ht]; rfl) rfl (by simp [dropSection, ht])
      (by simp [failedSend])

/-- One step of the process: the count moves only at a receive loop of hub `i`. -/
theorem ActionStep.pendingDrops {a : Action} (hs : ActionStep md5Hex w a w') (i : Nat) :
    w'.pendingDrops i + (dropSection w a i).toNat = w.pendingDrops i + (failedSend w a i).toNat := by
  rcases hs.tasks with ⟨hg, ha⟩ | ⟨u, j, rfl, hr, y, hy, hg⟩ | ⟨u, j, h, sock, hubAddr, pc, rfl, ht, hr⟩
  · rw [hg.pendingDrops, dropSection_of_call ha, failedSend_of_call ha]
  · exact pendingDrops_keep hg (Task.dropPending_of_isReadLoop hr) (Task.dropPending_of_isReadLoop hy)
      (dropSection_of_isReadLoop hr) (failedSend_of_isReadLoop hr)
  · exact hr.pendingDrops ht

end PendingSteps

/-! ## Receive loops stay on real hubs

A receive loop gets past `broadcast`'s section only when the section's nil guard found the
hub's ring, so only on a hub that exists; and hubs are never dropped. So no loop waits at
the drop branch of a hub not made yet. -/

/-- Whether a receive loop is past `broadcast`'s section: fanning out, or in its drop
branch. -/
def ReadPc.pastBroadcast : ReadPc → Bool
  | .fanout .. | .dropped .. | .drain .. | .resend .. => true
  | _ => false

/-- A loop waiting at its drop branch is past `broadcast`'s section. -/
theorem Task.dropPending_eq_true {x : Task} {i : Nat} (hd : x.dropPending i = true) :
    ∃ sock hubAddr pc, x = .readLoop i sock hubAddr pc ∧ pc.pastBroadcast = true := by
  cases x with
  | readLoop h sock hubAddr pc =>
    cases pc with
    | dropped dst data cs c =>
      exact ⟨sock, hubAddr, .dropped dst data cs c, by rw [eq_of_beq (show (h == i) = true from hd)],
        rfl⟩
    | _ => cases hd
  | _ => cases hd

/-- Every receive loop past `broadcast`'s section is a loop of a hub that exists. -/
def LoopsOnHubs (w : World) : Prop :=
  ∀ t h sock hubAddr pc, w.task t = .readLoop h sock hubAddr pc → pc.pastBroadcast = true →
    h < w.hubs.length

namespace LoopsOnHubs

variable {md5Hex : String → String} {w w₁ w' : World} {a : Action} {i : Nat}

theorem grow (hl : LoopsOnHubs w₁) (hg : TasksGrow w₁ w') (hh : w₁.hubs.length ≤ w'.hubs.length) :
    LoopsOnHubs w' := fun t h sock hubAddr pc ht hp => by
  rcases hg.task t with e | hf
  · rw [e] at ht; exact (hl t h sock hubAddr pc ht hp).trans_le hh
  · rw [ht] at hf; cases hf; cases hp

theorem setTask (hl : LoopsOnHubs w) {u : Nat} {y : Task}
    (hy : ∀ h sock hubAddr pc, y = .readLoop h sock hubAddr pc → pc.pastBroadcast = true →
      h < w.hubs.length) : LoopsOnHubs (w.setTask u y) := fun t h sock hubAddr pc ht hp => by
  rcases w.task_setTask_eq u t y with e | e <;> rw [e] at ht
  exacts [hy h sock hubAddr pc ht hp, hl t h sock hubAddr pc ht hp]

theorem step (hl : LoopsOnHubs w) (hs : step md5Hex w a = some w') : LoopsOnHubs w' := by
  have hlen := (step_hubsMove hs).length_le
  have hset : ∀ {u : Nat} {y : Task}, TasksGrow (w.setTask u y) w' →
      (∀ h sock hubAddr pc, y = .readLoop h sock hubAddr pc → pc.pastBroadcast = true →
        h < w.hubs.length) → LoopsOnHubs w' := fun hg hy => (hl.setTask hy).grow hg hlen
  rcases (step_cases hs).2.tasks with ⟨hg, -⟩ | ⟨u, j, rfl, -, y, hy, hg⟩ |
    ⟨u, j, h, sock, hubAddr, pc, rfl, ht, hr⟩
  · exact hl.grow hg hlen
  · exact hset hg fun _ _ _ _ e => by rw [e] at hy; cases hy
  have hown : pc.pastBroadcast = true → h < w.hubs.length := hl u h sock hubAddr pc ht
  have hu := lt_length_of_task ht nofun
  cases hr with
  | resolveFail | broadcastFail | sendFail | resendFail => exact hl.grow (.of_eq rfl) hlen
  | broadcast _ hb =>
    refine hset ((tasksGrow_broadcastLocked hb).setTask hu _) fun _ _ _ _ e _ => ?_
    cases e
    unfold broadcastLocked at hb
    dsimp only at hb
    split at hb
    · exact lt_length_of_cacheBuffer ‹_›
    · cases hb
  | send | sendFull | drop | drainResend | drain | resend =>
    exact hset (.of_eq rfl) fun _ _ _ _ e _ => by cases e; exact hown rfl
  | loop => exact hset (.of_eq rfl) fun _ _ _ _ e hp => by split at e <;> cases e; cases hp
  | resolve | skip | datagram | readError | stopped | input | copy | broadcastNil | fanoutDone =>
    exact hset (.of_eq rfl) fun _ _ _ _ e hp => by cases e <;> cases hp

theorem init : LoopsOnHubs World.init := fun _ _ _ _ _ ht => by cases ht

/-- No receive loop of a hub not made yet waits at its drop branch. -/
theorem pendingDrops (hl : LoopsOnHubs w) (hi : w.hubs.length ≤ i) : w.pendingDrops i = 0 := by
  refine List.countP_eq_zero.mpr fun x hx hd => ?_
  obtain ⟨v, hv, rfl⟩ := List.getElem_of_mem hx
  obtain ⟨sock, hubAddr, pc, e, hp⟩ := Task.dropPending_eq_true hd
  have ht : w.task v = .readLoop i sock hubAddr pc := by
    rw [← e]; simp [World.task, List.getD_eq_getElem?_getD, hv]
  exact absurd (hl v i sock hubAddr pc ht hp) (by omega)

/-- Nor has one failed a send. -/
theorem failedSend (hl : LoopsOnHubs w) (hi : w.hubs.length ≤ i) : failedSend w a i = false := by
  unfold TvGate.Stream.failedSend
  split
  · rename_i t j
    split
    · rename_i h _ _ _ _ _ ht
      split
      · split <;> simp only [beq_eq_false_iff_ne]
        · exact fun e => absurd (hl t h _ _ _ ht rfl) (by omega)
      · rfl
    · rfl
  · rfl

end LoopsOnHubs

end TvGate.Stream
