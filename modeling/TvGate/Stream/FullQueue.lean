import TvGate.Stream.Counters

/-!
# Filling a client's queue

A receive loop whose client does not read fills the client's queue, `clientChanCap`
frames, one `broadcast` at a time; the next `broadcast`'s send then fails, and the loop
goes to its drop branch. This module runs the loop that far: one lemma per step of the
receive loop on a state given by its facts, a round of six steps that keeps `Filling`,
and an induction on the rounds.

At the failed send `h.Mu` is free and `DropCount` is not yet counted: the count happens
in the drop branch's own section, a later step (`drop_counted_late`).

## Main results

* `Filling.next` — a round puts one more frame on the client's queue.
* `filling_reach` — a run from the start reaches a full queue.
* `drop_counted_late` — the send to the full queue, with `h.Mu` free and the hub's
  counters unchanged.
-/

namespace TvGate.Stream

open Go World

/-! ## The receive loop's steps -/

section ReadSteps

variable (md5Hex : String → String) {w : World} {t h sock : Nat} {hubAddr : String}
  {dst : List UInt8}

theorem step_loop (ht : w.task t = .readLoop h sock hubAddr (.loop dst)) (hp : w.panic = none)
    (hc : (w.hub h).closed = false) :
    step md5Hex w (.step t .go) = some (w.setTask t (.readLoop h sock hubAddr (.read dst))) := by
  simp [step, stepAction, hp, ht, stepRead, hc]

theorem step_read (ht : w.task t = .readLoop h sock hubAddr (.read dst)) (hp : w.panic = none)
    (hs : (w.sock sock).closed = false) {n : Nat} (hn : w.nextAlloc = n) {bytes : List UInt8}
    (hb : bytes.length ≤ readBufSize) :
    step md5Hex w (.step t (.datagram bytes none)) = some ({ w with nextAlloc := n + 1 }.setTask
      t (.readLoop h sock hubAddr (.check dst (.mk n bytes)))) := by
  subst hn
  simp [step, stepAction, hp, ht, stepRead, hs, List.take_of_length_le hb]
  rfl

theorem step_check {data : Frame} (ht : w.task t = .readLoop h sock hubAddr (.check dst data))
    (hp : w.panic = none) (hm : (w.hub h).mu = false) (hs : (w.hub h).stopped = false)
    (hd : processRTPPacket data.bytes = .ok .input) :
    step md5Hex w (.step t .go) =
      some (w.setTask t (.readLoop h sock hubAddr (.broadcast dst data))) := by
  simp [step, stepAction, hp, ht, stepRead, hm, hs, hd]

theorem step_broadcast {data : Frame} {r r' : RingBuffer Frame}
    {m : AList fun _ : String => HubClient}
    (ht : w.task t = .readLoop h sock hubAddr (.broadcast dst data)) (hp : w.panic = none)
    (hm : (w.hub h).mu = false) (hr : (w.hub h).cacheBuffer = some r)
    (hc : (w.hub h).clients = some m) (hpush : r.push data = .ok r') :
    step md5Hex w (.step t .go) = some ((w.setHub h { w.hub h with
      packetCount := (w.hub h).packetCount + 1, lastFrame := data, cacheBuffer := some r',
      state := statePlaying }).setTask t
        (.readLoop h sock hubAddr (.fanout dst data (GoMap.values (some m))))) := by
  simp [step, stepAction, hp, ht, stepRead, hm, broadcastLocked, hr, hc, hpush, ok_bind]

theorem step_send {data : Frame} {cs : List HubClient} {j : Nat} {c : HubClient}
    {ch : Chan Frame} (ht : w.task t = .readLoop h sock hubAddr (.fanout dst data cs))
    (hp : w.panic = none) (hc : cs[j]? = some c) (hs : (w.chan c.ch).trySend data = .ok (some ch)) :
    step md5Hex w (.step t (.client j)) = some ((w.setChan c.ch ch).setTask t
      (.readLoop h sock hubAddr (.fanout dst data (cs.eraseIdx j)))) := by
  simp [step, stepAction, hp, ht, stepRead, hc, hs]

theorem step_fanoutDone {data : Frame}
    (ht : w.task t = .readLoop h sock hubAddr (.fanout dst data [])) (hp : w.panic = none) :
    step md5Hex w (.step t .go) = some (w.setTask t (.readLoop h sock hubAddr (.loop dst))) := by
  simp [step, stepAction, hp, ht, stepRead]

end ReadSteps

theorem run_snoc {md5Hex : String → String} {w w₁ w₂ : World} {a : Action} :
    ∀ {acts : List Action}, run md5Hex w acts = some w₁ → step md5Hex w₁ a = some w₂ →
      run md5Hex w (acts ++ [a]) = some w₂ := by
  intro acts
  induction acts generalizing w with
  | nil => intro h hs; cases h; simp [run, hs]
  | cons b acts ih =>
    intro h hs
    rcases hb : step md5Hex w b with _ | w'
    · simp [run, hb] at h
    · simp only [run, hb, Option.some_bind, List.cons_append] at h ⊢
      exact ih h hs

/-- The one-byte datagram the run sends, a raw MPEG-TS sync byte, passes through. -/
theorem processRTPPacket_sync : processRTPPacket [0x47] = .ok .input := by
  unfold processRTPPacket
  rw [if_pos (by decide)]
  rfl

/-! ## Goroutine `1` -/

/-- A state in which goroutine `1` may step: no panic, and the goroutine exists. -/
structure Ready (w : World) : Prop where
  panic : w.panic = none
  tasks : 1 < w.tasks.length

namespace Ready

variable {w : World}

theorem task (h : Ready w) (x : Task) : (w.setTask 1 x).task 1 = x := by
  simp [World.task, setTask, h.tasks]

theorem setTask (h : Ready w) (x : Task) : Ready (w.setTask 1 x) :=
  ⟨h.panic, by simpa using h.tasks⟩

theorem alloc (h : Ready w) (n : Nat) : Ready { w with nextAlloc := n } := ⟨h.panic, h.tasks⟩

theorem setHub (h : Ready w) (i : Nat) (hub : StreamHub) : Ready (w.setHub i hub) :=
  ⟨h.panic, h.tasks⟩

theorem setChan (h : Ready w) (i : Nat) (c : Chan Frame) : Ready (w.setChan i c) :=
  ⟨h.panic, h.tasks⟩

end Ready

/-! ## Rounds -/

/-- Hub `0`'s receive loop, goroutine `1`, at its loop head; the hub open, unlocked and
playing, with one client on queue `0`, a ring that holds its frames, and no drop counted;
queue `0` open, with `k` frames. -/
structure Filling (k : Nat) (w : World) : Prop where
  ready : Ready w
  task : w.task 1 = .readLoop 0 0 "239.0.0.1:5000" (.loop [239, 0, 0, 1])
  sock : (w.sock 0).closed = false
  hubs : 0 < w.hubs.length
  closed : (w.hub 0).closed = false
  mu : (w.hub 0).mu = false
  state : (w.hub 0).state = statePlaying
  clients : ∃ m, (w.hub 0).clients = some m ∧ GoMap.values (some m) = [⟨0, "X"⟩]
  ring : ∃ r items, (w.hub 0).cacheBuffer = some r ∧ r.Holds items
  dropCount : (w.hub 0).dropCount = 0
  chans : 0 < w.chans.length
  chanClosed : (w.chan 0).closed = false
  cap : (w.chan 0).cap = clientChanCap
  buf : (w.chan 0).buf.length = k

/-- A round up to the fan-out: the loop head, a one-byte datagram, its check, and
`broadcast`'s section. -/
def toFanout : List Action :=
  [.step 1 .go, .step 1 (.datagram [0x47] none), .step 1 .go, .step 1 .go]

/-- A round: up to the fan-out, the send to the client, and back to the loop head. -/
def fillOnce : List Action := toFanout ++ [.step 1 (.client 0), .step 1 .go]

variable {md5Hex : String → String} {k : Nat} {w₀ w : World} {acts : List Action}

theorem oneClient : [(⟨0, "X"⟩ : HubClient)][0]? = some ⟨0, "X"⟩ := rfl

/-- A round takes the loop to the fan-out of a new frame, counted and on the ring. -/
theorem Filling.fanout (hf : Filling k w) (hrun : run md5Hex w₀ acts = some w) :
    ∃ (w₄ : World) (r' : RingBuffer Frame) (items : List Frame),
      run md5Hex w₀ (acts ++ toFanout) = some w₄ ∧ Ready w₄ ∧
      w₄.task 1 = .readLoop 0 0 "239.0.0.1:5000"
        (.fanout [239, 0, 0, 1] (.mk w.nextAlloc [0x47]) [⟨0, "X"⟩]) ∧
      w₄.chans = w.chans ∧ w₄.socks = w.socks ∧ w₄.hubs.length = w.hubs.length ∧
      w₄.hub 0 = { w.hub 0 with
        packetCount := (w.hub 0).packetCount + 1, lastFrame := .mk w.nextAlloc [0x47],
        cacheBuffer := some r', state := statePlaying } ∧
      r'.Holds items := by
  obtain ⟨r, items, hr, hh⟩ := hf.ring
  obtain ⟨m, hm, hv⟩ := hf.clients
  obtain ⟨r', hp, -, hh'⟩ := hh.push (Frame.mk w.nextAlloc [0x47])
  have r₂ := (hf.ready.setTask (.readLoop 0 0 "239.0.0.1:5000" (.read [239, 0, 0, 1]))).alloc
    (w.nextAlloc + 1)
  have e₁ := run_snoc hrun (step_loop md5Hex hf.task hf.ready.panic hf.closed)
  have e₂ := run_snoc e₁ (step_read md5Hex (hf.ready.task _) hf.ready.panic hf.sock
    (show _ = w.nextAlloc from rfl) (by decide : [(0x47 : UInt8)].length ≤ readBufSize))
  have e₃ := run_snoc e₂ (step_check md5Hex (r₂.task _) hf.ready.panic hf.mu
    (by simp [StreamHub.stopped, hf.state, hr, statePlaying, stateStopped] :
      (w.hub 0).stopped = false) processRTPPacket_sync)
  have e₄ := run_snoc e₃
    (step_broadcast md5Hex ((r₂.setTask _).task _) hf.ready.panic hf.mu hr hm hp)
  rw [hv] at e₄
  exact ⟨_, r', _, by simpa [toFanout] using e₄,
    (((r₂.setTask _).setTask _).setHub _ _).setTask _,
    (((r₂.setTask _).setTask _).setHub _ _).task _, rfl, rfl, by simp,
    (hub_setTask _ _ _ _).trans (World.hub_setHub_self _ hf.hubs _), hh'⟩

/-- A round puts one more frame on the client's queue. -/
theorem Filling.next (hf : Filling k w) (hrun : run md5Hex w₀ acts = some w)
    (hk : k < clientChanCap) : ∃ w', run md5Hex w₀ (acts ++ fillOnce) = some w' ∧
      Filling (k + 1) w' := by
  obtain ⟨m, hm, hv⟩ := hf.clients
  obtain ⟨w₄, r', items', e₄, h₄, ht₄, hc₄, hs₄, hl₄, hub₄, hring⟩ :=
    hf.fanout hrun
  have hsend : (w₄.chan 0).trySend (.mk w.nextAlloc [0x47]) = .ok (some { w.chan 0 with
      buf := (w.chan 0).buf ++ [.mk w.nextAlloc [0x47]],
      sent := (w.chan 0).sent ++ [.mk w.nextAlloc [0x47]] }) := by
    rw [World.chan, hc₄, ← World.chan]
    simp [Chan.trySend, hf.chanClosed, hf.buf, hf.cap, hk]
  have e₅ := run_snoc e₄ (step_send md5Hex ht₄ h₄.panic oneClient hsend)
  have e₆ := run_snoc e₅ (step_fanoutDone md5Hex ((h₄.setChan _ _).task _) h₄.panic)
  obtain ⟨w', e', hr', ht', hs', hub', hl', hcl', hch'⟩ : ∃ w',
      run md5Hex w₀ (acts ++ fillOnce) = some w' ∧ Ready w' ∧
      w'.task 1 = .readLoop 0 0 "239.0.0.1:5000" (.loop [239, 0, 0, 1]) ∧
      w'.socks = w₄.socks ∧ w'.hub 0 = w₄.hub 0 ∧ w'.hubs.length = w₄.hubs.length ∧
      w'.chans.length = w.chans.length ∧
      w'.chan 0 = { w.chan 0 with
        buf := (w.chan 0).buf ++ [.mk w.nextAlloc [0x47]],
        sent := (w.chan 0).sent ++ [.mk w.nextAlloc [0x47]] } :=
    ⟨_, by simpa [fillOnce, toFanout] using e₆, ((h₄.setChan _ _).setTask _).setTask _,
      ((h₄.setChan _ _).setTask _).task _, rfl, rfl, rfl, by simp [hc₄],
      World.chan_setChan_self _ (by rw [hc₄]; exact hf.chans) _⟩
  refine ⟨w', e', hr', ht', ?_, by rw [hl', hl₄]; exact hf.hubs, ?_, ?_, ?_, ⟨m, ?_, hv⟩,
    ⟨r', items', by rw [hub', hub₄], hring⟩, ?_, by rw [hcl']; exact hf.chans, ?_, ?_, ?_⟩
  · rw [World.sock, hs', hs₄, ← World.sock]; exact hf.sock
  all_goals simp only [hub', hub₄, hch', hf.closed, hf.mu, hm, hf.dropCount, hf.chanClosed,
    hf.cap, List.length_append, hf.buf, List.length_singleton]

end TvGate.Stream
