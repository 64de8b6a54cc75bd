import TvGate.Stream.Sockets

/-!
# The steps, read off their branches

Each step function of the package is a nest of `match` and `if` whose enabled leaves are its
branches. This module names every branch once: one relation per step function, with one
constructor per branch that returns a world, carrying the guards the branch passed and the
world it leaves, and one `*_cases` lemma reading a step that returned `some w'` as one of
them. What a step keeps (the queues' owners, the hubs' counters, the invariant of every
reachable state) is then proved by `cases` on these relations, one line per branch, instead
of by taking the step functions apart again in every module.

A branch that ends in a section keeps the section's `commit` as the code writes it; a branch
that cannot be taken (a `processRTPPacket` that fails, which `processRTPPacket_spec` rules
out) has no constructor.

## Main definitions

* `RunStep`, `ReadStep`, `PrimeStep`, `ServeStep`, `CallStep` — the branches of `stepRun`,
  `stepRead`, `stepPrime`, `stepServe` and `stepCall`.
* `ActionStep` — the branches of `stepAction`: the calls into the package, and a step of a
  goroutine by its kind.
* `step_cases` — a step that returns a world is an `ActionStep` from a world with no panic.
* `TasksGrow`, `TasksStep`, `ActionStep.tasks` — what a step does to the goroutines: it keeps
  every one but the goroutine that steps, which stays a receive loop or not as it was, and
  starts new ones at their first statement.
-/

namespace TvGate.Stream

open Go

/-! ## `h.run()` -/

/-- The branches of `stepRun`. -/
inductive RunStep (md5Hex : String → String) (w : World) (t h : Nat) :
    RunPc → Input → World → Prop
  /-- `select` takes the client `c` from `AddCh` -/
  | add {c : HubClient} {rest : List HubClient} :
      (w.hub h).addCh = c :: rest → (w.hub h).mu = false →
      RunStep md5Hex w t h .select .add (w.commit do
        let w₁ ← (w.setHub h { w.hub h with addCh := rest }).runAdd h c
        pure (w₁.spawn (.prime h c.ch .snapshot)))
  /-- `select` takes `connID` from `RemoveCh` -/
  | remove {connID : String} {rest : List String} :
      (w.hub h).removeCh = connID :: rest → (w.hub h).mu = false →
      RunStep md5Hex w t h .select .remove (w.commit do
        let (w₁, empty) ← (w.setHub h { w.hub h with removeCh := rest }).runRemove h connID
        pure (if empty then w₁.setTask t (.run h .reap) else w₁))
  /-- `select` takes `h.Closed` -/
  | closed : (w.hub h).closed = true → (w.hub h).mu = false →
      RunStep md5Hex w t h .select .closed (w.commit do
        let w₁ ← w.runClosed h
        pure (w₁.setTask t .exited))
  /-- the table emptied: `h.Close()` -/
  | reap : (w.hub h).mu = false →
      RunStep md5Hex w t h .reap .go (w.commit do
        let w₁ ← w.close h
        pure (w₁.setTask t (.run h .onEmpty)))
  /-- no `OnEmpty` -/
  | onEmptyNil : (w.hub h).onEmpty = none → RunStep md5Hex w t h .onEmpty .go (w.setTask t .exited)
  /-- `h.OnEmpty(h)`: `RemoveHubEx` under the registry's lock -/
  | onEmpty {ifaces : List String} : (w.hub h).onEmpty = some ifaces →
      RunStep md5Hex w t h .onEmpty .go (w.commit do
        let addr ← index (w.hub h).addrList 0
        match w.removeHubLocked md5Hex addr ifaces with
        | (w₁, some h') => pure (w₁.setTask t (.run h (.closeRemoved h')))
        | (w₁, none) => pure (w₁.setTask t .exited))
  /-- `hub.Close()` on the hub `RemoveHubEx` took out -/
  | closeRemoved {h' : Nat} : (w.hub h').mu = false →
      RunStep md5Hex w t h (.closeRemoved h') .go (w.commit do
        let w₁ ← w.close h'
        pure (w₁.setTask t .exited))

theorem stepRun_cases {md5Hex : String → String} {w w' : World} {t h : Nat} {pc : RunPc}
    {i : Input} (hs : stepRun md5Hex w t h pc i = some w') : RunStep md5Hex w t h pc i w' := by
  unfold stepRun at hs
  split at hs
  · dsimp only at hs
    split at hs
    · cases hs
    · split at hs <;> cases hs
      exact .add ‹_› (Bool.eq_false_iff.mpr ‹_›)
  · dsimp only at hs
    split at hs
    · cases hs
    · split at hs <;> cases hs
      exact .remove ‹_› (Bool.eq_false_iff.mpr ‹_›)
  · split at hs <;> cases hs
    rename_i hc
    simp only [Bool.and_eq_true, Bool.not_eq_eq_eq_not, Bool.not_true] at hc
    exact .closed hc.1 hc.2
  · split at hs <;> cases hs
    exact .reap (Bool.eq_false_iff.mpr ‹_›)
  · split at hs <;> cases hs
    exacts [.onEmptyNil ‹_›, .onEmpty ‹_›]
  · split at hs <;> cases hs
    exact .closeRemoved (Bool.eq_false_iff.mpr ‹_›)
  · cases hs

/-! ## `h.readLoop(conn, hubAddr)` -/

/-- The branches of `stepRead`. -/
inductive ReadStep (w : World) (t h sock : Nat) (hubAddr : String) :
    ReadPc → Input → World → Prop
  /-- `net.ResolveUDPAddr` succeeds -/
  | resolve {net : Net} {a : UDPAddr} : net.resolveUDPAddr hubAddr = .ok a →
      ReadStep w t h sock hubAddr .start (.net net)
        (w.setTask t (.readLoop h sock hubAddr (.loop (ipText a.ip))))
  /-- it fails, and its nil result is dereferenced -/
  | resolveFail {net : Net} {e : String} : net.resolveUDPAddr hubAddr = .error e →
      ReadStep w t h sock hubAddr .start (.net net) (w.fail .nilDereference)
  /-- the check of `h.Closed` at the top of the loop -/
  | loop {dst : List UInt8} : ReadStep w t h sock hubAddr (.loop dst) .go
      (w.setTask t (if (w.hub h).closed then .exited else .readLoop h sock hubAddr (.read dst)))
  /-- a datagram for another group is skipped -/
  | skip {dst bytes : List UInt8} {cmDst : Option (List UInt8)} :
      (w.sock sock).closed = false → cmDst.any (fun d => ipText d != dst) = true →
      ReadStep w t h sock hubAddr (.read dst) (.datagram bytes cmDst)
        (w.setTask t (.readLoop h sock hubAddr (.loop dst)))
  /-- a datagram is read and copied out -/
  | datagram {dst bytes : List UInt8} {cmDst : Option (List UInt8)} :
      (w.sock sock).closed = false → cmDst.any (fun d => ipText d != dst) = false →
      ReadStep w t h sock hubAddr (.read dst) (.datagram bytes cmDst)
        { w.setTask t (.readLoop h sock hubAddr
            (.check dst (.mk w.nextAlloc (bytes.take readBufSize)))) with
          nextAlloc := w.nextAlloc + 1 }
  /-- `ReadFrom` fails: the loop returns -/
  | readError {dst : List UInt8} :
      ReadStep w t h sock hubAddr (.read dst) .readError (w.setTask t .exited)
  /-- the hub is stopped: the loop returns -/
  | stopped {dst : List UInt8} {data : Frame} : (w.hub h).mu = false → (w.hub h).stopped = true →
      ReadStep w t h sock hubAddr (.check dst data) .go (w.setTask t .exited)
  /-- `processRTPPacket` passes the datagram through -/
  | input {dst : List UInt8} {data : Frame} : (w.hub h).mu = false → (w.hub h).stopped = false →
      processRTPPacket data.bytes = .ok .input →
      ReadStep w t h sock hubAddr (.check dst data) .go
        (w.setTask t (.readLoop h sock hubAddr (.broadcast dst data)))
  /-- `processRTPPacket` copies an RTP payload out -/
  | copy {dst : List UInt8} {data : Frame} {b : List UInt8} : (w.hub h).mu = false →
      (w.hub h).stopped = false → processRTPPacket data.bytes = .ok (.copy b) →
      ReadStep w t h sock hubAddr (.check dst data) .go
        { w.setTask t (.readLoop h sock hubAddr (.broadcast dst (.mk w.nextAlloc b))) with
          nextAlloc := w.nextAlloc + 1 }
  /-- `broadcast`'s section panics -/
  | broadcastFail {dst : List UInt8} {data : Frame} {p : Panic} : (w.hub h).mu = false →
      w.broadcastLocked h data = .error p →
      ReadStep w t h sock hubAddr (.broadcast dst data) .go (w.fail p)
  /-- `broadcast` returns at its nil guard -/
  | broadcastNil {dst : List UInt8} {data : Frame} : (w.hub h).mu = false →
      w.broadcastLocked h data = .ok none →
      ReadStep w t h sock hubAddr (.broadcast dst data) .go
        (w.setTask t (.readLoop h sock hubAddr (.loop dst)))
  /-- `broadcast`'s section, with the copy of the table it fans out to -/
  | broadcast {dst : List UInt8} {data : Frame} {w₁ : World} {cs : List HubClient} :
      (w.hub h).mu = false → w.broadcastLocked h data = .ok (some (w₁, cs)) →
      ReadStep w t h sock hubAddr (.broadcast dst data) .go
        (w₁.setTask t (.readLoop h sock hubAddr (.fanout dst data cs)))
  /-- the fan-out is done -/
  | fanoutDone {dst : List UInt8} {data : Frame} :
      ReadStep w t h sock hubAddr (.fanout dst data []) .go
        (w.setTask t (.readLoop h sock hubAddr (.loop dst)))
  /-- the send to client `j` panics -/
  | sendFail {dst : List UInt8} {data : Frame} {cs : List HubClient} {j : Nat} {c : HubClient}
      {p : Panic} : cs[j]? = some c → (w.chan c.ch).trySend data = .error p →
      ReadStep w t h sock hubAddr (.fanout dst data cs) (.client j) (w.fail p)
  /-- the send to client `j` is taken -/
  | send {dst : List UInt8} {data : Frame} {cs : List HubClient} {j : Nat} {c : HubClient}
      {ch : Chan Frame} : cs[j]? = some c → (w.chan c.ch).trySend data = .ok (some ch) →
      ReadStep w t h sock hubAddr (.fanout dst data cs) (.client j)
        ((w.setChan c.ch ch).setTask t (.readLoop h sock hubAddr (.fanout dst data (cs.eraseIdx j))))
  /-- client `j`'s queue is full: the drop branch -/
  | sendFull {dst : List UInt8} {data : Frame} {cs : List HubClient} {j : Nat} {c : HubClient} :
      cs[j]? = some c → (w.chan c.ch).trySend data = .ok none →
      ReadStep w t h sock hubAddr (.fanout dst data cs) (.client j)
        (w.setTask t (.readLoop h sock hubAddr (.dropped dst data (cs.eraseIdx j) c)))
  /-- the drop branch's section: `DropCount++`, keeping `h.Mu` every 100th drop -/
  | drop {dst : List UInt8} {data : Frame} {rest : List HubClient} {c : HubClient} :
      (w.hub h).mu = false →
      ReadStep w t h sock hubAddr (.dropped dst data rest c) .go
        ((w.setHub h { w.hub h with
            dropCount := (w.hub h).dropCount + 1
            mu := ((w.hub h).dropCount + 1) % 100 == 0 }).setTask t (.readLoop h sock hubAddr
          (if ((w.hub h).dropCount + 1) % 100 == 0 then .drain dst data rest c
            else .fanout dst data rest)))
  /-- the resync drains a frame, and goes on to re-send `LastFrame` -/
  | drainResend {dst : List UInt8} {data : Frame} {rest : List HubClient} {c : HubClient} :
      ((w.hub h).lastFrame != .nil) = true →
      ReadStep w t h sock hubAddr (.drain dst data rest c) .go
        ((w.setChan c.ch (w.chan c.ch).tryRecv).setTask t
          (.readLoop h sock hubAddr (.resend dst data rest c)))
  /-- the resync drains a frame, with no `LastFrame` to re-send -/
  | drain {dst : List UInt8} {data : Frame} {rest : List HubClient} {c : HubClient} :
      ((w.hub h).lastFrame != .nil) = false →
      ReadStep w t h sock hubAddr (.drain dst data rest c) .go
        (((w.setChan c.ch (w.chan c.ch).tryRecv).setHub h { w.hub h with mu := false }).setTask t
          (.readLoop h sock hubAddr (.fanout dst data rest)))
  /-- the re-send of `LastFrame` panics -/
  | resendFail {dst : List UInt8} {data : Frame} {rest : List HubClient} {c : HubClient}
      {p : Panic} : (w.chan c.ch).trySend (w.hub h).lastFrame = .error p →
      ReadStep w t h sock hubAddr (.resend dst data rest c) .go (w.fail p)
  /-- the re-send of `LastFrame`, taken or dropped, and `h.Mu` released -/
  | resend {dst : List UInt8} {data : Frame} {rest : List HubClient} {c : HubClient}
      {r : Option (Chan Frame)} : (w.chan c.ch).trySend (w.hub h).lastFrame = .ok r →
      ReadStep w t h sock hubAddr (.resend dst data rest c) .go
        (((w.setChan c.ch (r.getD (w.chan c.ch))).setHub h { w.hub h with mu := false }).setTask t
          (.readLoop h sock hubAddr (.fanout dst data rest)))

theorem stepRead_cases {w w' : World} {t h sock : Nat} {hubAddr : String} {pc : ReadPc}
    {i : Input} (hs : stepRead w t h sock hubAddr pc i = some w') :
    ReadStep w t h sock hubAddr pc i w' := by
  unfold stepRead at hs
  split at hs
  · split at hs <;> cases hs
    exacts [.resolve ‹_›, .resolveFail ‹_›]
  · cases hs; exact .loop
  · split at hs
    · cases hs
    · split at hs <;> cases hs
      · exact .skip (Bool.eq_false_iff.mpr ‹_›) ‹_›
      · exact .datagram (Bool.eq_false_iff.mpr ‹_›) (Bool.eq_false_iff.mpr ‹_›)
  · cases hs; exact .readError
  · split at hs
    · cases hs
    · have hmu : (w.hub h).mu = false := Bool.eq_false_iff.mpr ‹_›
      split at hs
      · cases hs; exact .stopped hmu ‹_›
      · have hst : (w.hub h).stopped = false := Bool.eq_false_iff.mpr ‹_›
        split at hs <;> cases hs
        · rename_i p hp
          obtain ⟨_, hok, -⟩ := processRTPPacket_spec (Frame.bytes ‹_›)
          rw [hok] at hp
          cases hp
        · exact .input hmu hst ‹_›
        · exact .copy hmu hst ‹_›
  · split at hs
    · cases hs
    · have hmu : (w.hub h).mu = false := Bool.eq_false_iff.mpr ‹_›
      split at hs <;> cases hs
      exacts [.broadcastFail hmu ‹_›, .broadcastNil hmu ‹_›, .broadcast hmu ‹_›]
  · cases hs; exact .fanoutDone
  · split at hs
    · cases hs
    · split at hs <;> cases hs
      exacts [.sendFail ‹_› ‹_›, .send ‹_› ‹_›, .sendFull ‹_› ‹_›]
  · dsimp only at hs
    split at hs <;> cases hs
    exact .drop (Bool.eq_false_iff.mpr ‹_›)
  · dsimp only at hs
    split at hs <;> cases hs
    · exact .drainResend ‹_›
    · exact .drain (Bool.eq_false_iff.mpr ‹_›)
  · dsimp only at hs
    split at hs <;> cases hs
    exacts [.resendFail ‹_›, .resend ‹_›]
  · cases hs

/-! ## `h.sendInitial(ch)` -/

/-- The branches of `stepPrime`. -/
inductive PrimeStep (w : World) (t h ch : Nat) : PrimePc → Input → World → Prop
  /-- the snapshot of the ring under `h.Mu` -/
  | snapshot {frames : List Frame} : (w.hub h).mu = false → w.snapshot h = .ok frames →
      PrimeStep w t h ch .snapshot .go (w.setTask t (.prime h ch (.check frames)))
  /-- the snapshot panics -/
  | snapshotFail {p : Panic} : (w.hub h).mu = false → w.snapshot h = .error p →
      PrimeStep w t h ch .snapshot .go (w.fail p)
  /-- every frame is sent -/
  | done : PrimeStep w t h ch (.check []) .go (w.setTask t .exited)
  /-- the check of `h.Closed` before the next send -/
  | check {frames : List Frame} : frames ≠ [] →
      PrimeStep w t h ch (.check frames) .go
        (w.setTask t (if (w.hub h).closed then .exited else .prime h ch (.send frames)))
  /-- the send panics -/
  | sendFail {f : Frame} {frames : List Frame} {p : Panic} : (w.chan ch).trySend f = .error p →
      PrimeStep w t h ch (.send (f :: frames)) .go (w.fail p)
  /-- the queue is full: the goroutine returns -/
  | sendFull {f : Frame} {frames : List Frame} : (w.chan ch).trySend f = .ok none →
      PrimeStep w t h ch (.send (f :: frames)) .go (w.setTask t .exited)
  /-- the send is taken -/
  | send {f : Frame} {frames : List Frame} {c : Chan Frame} : (w.chan ch).trySend f = .ok (some c) →
      PrimeStep w t h ch (.send (f :: frames)) .go
        ((w.setChan ch c).setTask t (.prime h ch (.check frames)))

theorem stepPrime_cases {w w' : World} {t h ch : Nat} {pc : PrimePc} {i : Input}
    (hs : stepPrime w t h ch pc i = some w') : PrimeStep w t h ch pc i w' := by
  unfold stepPrime at hs
  split at hs
  · split at hs
    · cases hs
    · have hmu : (w.hub h).mu = false := Bool.eq_false_iff.mpr ‹_›
      split at hs <;> cases hs
      exacts [.snapshot hmu ‹_›, .snapshotFail hmu ‹_›]
  · cases hs; exact .done
  · cases hs
    exact .check ‹_›
  · split at hs <;> cases hs
    exacts [.sendFail ‹_›, .sendFull ‹_›, .send ‹_›]
  · cases hs

/-! ## `h.ServeHTTP` -/

/-- The branches of `stepServe` on session `s`. -/
inductive ServeStep (w : World) (t : Nat) (s : Session) : Input → World → Prop
  /-- the client is sent on `AddCh` -/
  | attach : s.pc = .attach → (w.hub s.hub).addCh.length < hubChanCap →
      ServeStep w t s .go ((w.setHub s.hub { w.hub s.hub with
        addCh := (w.hub s.hub).addCh ++ [⟨s.ch, s.connID⟩] }).setTask t (.serve { s with pc := .headers }))
  /-- the headers are set, and the writer is checked for `http.Flusher` -/
  | headers {ok : Bool} : s.pc = .headers →
      ServeStep w t s (.flushable ok) (w.setTask t (.serve
        (let s := { s with header := streamHeaders s.userAgent s.contentType }
          if ok then { s with pc := .waiting } else { s with status := 500, pc := .detach })))
  /-- `WaitForPlaying` finds the hub playing -/
  | playing : s.pc = .waiting → (w.hub s.hub).mu = false →
      (w.hub s.hub).waitForPlaying = some true →
      ServeStep w t s .go (w.setTask t (.serve { s with pc := .serving 0 }))
  /-- `WaitForPlaying` finds the hub closed or stopped -/
  | notPlaying : s.pc = .waiting → (w.hub s.hub).mu = false →
      (w.hub s.hub).waitForPlaying = some false →
      ServeStep w t s .go (w.setTask t (.serve { s with pc := .detach }))
  /-- `WaitForPlaying` waits -/
  | waitLoop : s.pc = .waiting → (w.hub s.hub).mu = false → (w.hub s.hub).waitForPlaying = none →
      ServeStep w t s .go (w.setTask t (.serve { s with pc := .waitLoop }))
  /-- the queue is closed -/
  | queueClosed {b : Nat} {ok : Bool} {c : Chan Frame} : s.pc = .serving b →
      (w.chan s.ch).recv = some (none, c) →
      ServeStep w t s (.frame ok) (w.setTask t (.serve { s with pc := .detach }))
  /-- a frame is taken, and `w.Write` fails -/
  | writeFail {b : Nat} {f : Frame} {c : Chan Frame} : s.pc = .serving b →
      (w.chan s.ch).recv = some (some f, c) →
      ServeStep w t s (.frame false) ((w.setChan s.ch c).setTask t (.serve { s with pc := .detach }))
  /-- a frame is taken and written, and flushed at `maxBufferSize` -/
  | write {b : Nat} {f : Frame} {c : Chan Frame} : s.pc = .serving b →
      (w.chan s.ch).recv = some (some f, c) →
      ServeStep w t s (.frame true) ((w.setChan s.ch c).setTask t (.serve
        (if b + f.len ≥ maxBufferSize then
          { s with body := s.body ++ [f], flushed := (s.body ++ [f]).length, pc := .serving 0 }
        else { s with body := s.body ++ [f], pc := .serving (b + f.len) })))
  /-- the flush ticker: what was written since the last flush, if anything, is flushed -/
  | flushTick {b : Nat} : s.pc = .serving b →
      ServeStep w t s .flushTick (w.setTask t (.serve
        (if b > 0 then { s with flushed := s.body.length, pc := .serving 0 } else s)))
  /-- the request is cancelled -/
  | cancel {b : Nat} : s.pc = .serving b →
      ServeStep w t s .cancel (w.setTask t (.serve { s with pc := .detach }))
  /-- `select` takes `h.Closed` -/
  | hubClosed {b : Nat} : s.pc = .serving b → (w.hub s.hub).closed = true →
      ServeStep w t s .closed (w.setTask t (.serve { s with pc := .detach }))
  /-- the deferred send on `RemoveCh` -/
  | detach : s.pc = .detach → (w.hub s.hub).removeCh.length < hubChanCap →
      ServeStep w t s .go ((w.setHub s.hub { w.hub s.hub with
        removeCh := (w.hub s.hub).removeCh ++ [s.connID] }).setTask t (.serve { s with pc := .done }))

theorem stepServe_cases {w w' : World} {t : Nat} {s : Session} {i : Input}
    (hs : stepServe w t s i = some w') : ServeStep w t s i w' := by
  unfold stepServe at hs
  dsimp only at hs
  split at hs
  · split at hs <;> cases hs
    exact .attach ‹_› ‹_›
  · cases hs; exact .headers ‹_›
  · split at hs
    · cases hs
    · have hmu : (w.hub s.hub).mu = false := Bool.eq_false_iff.mpr ‹_›
      split at hs <;> cases hs
      exacts [.playing ‹_› hmu ‹_›, .notPlaying ‹_› hmu ‹_›, .waitLoop ‹_› hmu ‹_›]
  · split at hs
    · cases hs
    · cases hs; exact .queueClosed ‹_› ‹_›
    · rename_i ok _ _ _ _ _
      split at hs <;> cases hs
      · rename_i hok
        obtain rfl : ok = false := by simpa using hok
        exact .writeFail ‹_› ‹_›
      · rename_i hok
        obtain rfl : ok = true := by simpa using hok
        exact .write ‹_› ‹_›
  · cases hs; exact .flushTick ‹_›
  · cases hs; exact .cancel ‹_›
  · split at hs <;> cases hs
    exact .hubClosed ‹_› ‹_›
  · split at hs <;> cases hs
    exact .detach ‹_› ‹_›
  · cases hs

/-! ## `m.GetOrCreateHub` -/

/-- The branches of `stepCall`. -/
inductive CallStep (w : World) (t : Nat) (udpAddr : String) (ifaces : List String) :
    CallPc → Input → World → Prop
  /-- `hub.IsClosed()` after the lookup found `hub` -/
  | checkClosed {hub : Nat} : CallStep w t udpAddr ifaces (.checkClosed hub) .go
      (w.setTask t (.call udpAddr ifaces
        (if (w.hub hub).closed then .create else .returned (.ok hub))))
  /-- `NewStreamHub` panics -/
  | createFail {net : Net} {p : Panic} : w.newStreamHub [udpAddr] ifaces net = .error p →
      CallStep w t udpAddr ifaces .create (.net net) (w.fail p)
  /-- `NewStreamHub` returns an error -/
  | createError {net : Net} {e : StreamError} :
      w.newStreamHub [udpAddr] ifaces net = .ok (.error e) →
      CallStep w t udpAddr ifaces .create (.net net)
        (w.setTask t (.call udpAddr ifaces (.returned (.error e))))
  /-- `NewStreamHub` makes hub `i`, and `OnEmpty` is set -/
  | create {net : Net} {w₁ : World} {i : Nat} :
      w.newStreamHub [udpAddr] ifaces net = .ok (.ok (w₁, i)) →
      CallStep w t udpAddr ifaces .create (.net net)
        ((w₁.setHub i { w₁.hub i with onEmpty := some ifaces }).setTask t
          (.call udpAddr ifaces (.insert i)))
  /-- the insert under the write lock -/
  | insert {i : Nat} : CallStep w t udpAddr ifaces (.insert i) .go
      { w.setTask t (.call udpAddr ifaces (.returned (.ok i))) with
        registry := w.registry.insert (hubKeyString udpAddr ifaces) i
        published := Function.update w.published i true }

theorem stepCall_cases {w w' : World} {t : Nat} {udpAddr : String} {ifaces : List String}
    {pc : CallPc} {i : Input} (hs : stepCall w t udpAddr ifaces pc i = some w') :
    CallStep w t udpAddr ifaces pc i w' := by
  unfold stepCall at hs
  split at hs
  · cases hs; exact .checkClosed
  · split at hs <;> cases hs
    exacts [.createFail ‹_›, .createError ‹_›, .create ‹_›]
  · cases hs; exact .insert
  · cases hs

/-! ## A step of the process -/

/-- The branches of `stepAction`: the calls into the package, and a step of goroutine `u` by
the kind of goroutine it is. -/
inductive ActionStep (md5Hex : String → String) (w : World) : Action → World → Prop
  /-- `GetOrCreateHub`'s lookup finds `hub` -/
  | getOrCreateFound {udpAddr : String} {ifaces : List String} {hub : Nat} :
      w.registry.lookup md5Hex (hubKeyString udpAddr ifaces) = some hub →
      ActionStep md5Hex w (.getOrCreateHub udpAddr ifaces)
        (w.spawn (.call udpAddr ifaces (.checkClosed hub)))
  /-- `GetOrCreateHub`'s lookup finds nothing -/
  | getOrCreateMissing {udpAddr : String} {ifaces : List String} :
      w.registry.lookup md5Hex (hubKeyString udpAddr ifaces) = none →
      ActionStep md5Hex w (.getOrCreateHub udpAddr ifaces) (w.spawn (.call udpAddr ifaces .create))
  /-- `RemoveHubEx` takes `hub` out, and closes it after its unlock -/
  | removeHubEx {udpAddr : String} {ifaces : List String} {w₁ : World} {hub : Nat} :
      w.removeHubLocked md5Hex udpAddr ifaces = (w₁, some hub) →
      ActionStep md5Hex w (.removeHubEx udpAddr ifaces) (w₁.spawn (.closeRemoved hub))
  /-- `RemoveHubEx` finds no hub -/
  | removeHubExMissing {udpAddr : String} {ifaces : List String} {w₁ : World} :
      w.removeHubLocked md5Hex udpAddr ifaces = (w₁, none) →
      ActionStep md5Hex w (.removeHubEx udpAddr ifaces) w₁
  /-- `NewStreamHub` panics -/
  | newStreamHubFail {addrs ifaces : List String} {net : Net} {p : Panic} :
      w.newStreamHub addrs ifaces net = .error p →
      ActionStep md5Hex w (.newStreamHub addrs ifaces net) (w.fail p)
  /-- `NewStreamHub` returns an error -/
  | newStreamHubError {addrs ifaces : List String} {net : Net} {e : StreamError} :
      w.newStreamHub addrs ifaces net = .ok (.error e) →
      ActionStep md5Hex w (.newStreamHub addrs ifaces net) w
  /-- `NewStreamHub` makes hub `i`, which its caller now holds -/
  | newStreamHub {addrs ifaces : List String} {net : Net} {w₁ : World} {i : Nat} :
      w.newStreamHub addrs ifaces net = .ok (.ok (w₁, i)) →
      ActionStep md5Hex w (.newStreamHub addrs ifaces net)
        { w₁ with published := Function.update w₁.published i true }
  /-- `ServeHTTP` on a closed hub answers 503 -/
  | refused {h : Nat} {xConnID userAgent contentType : String} {now : Int} :
      w.published h = true → (w.hub h).closed = true →
      ActionStep md5Hex w (.serveHTTP h xConnID userAgent contentType now) (w.spawn (.refused h))
  /-- `ServeHTTP` makes its queue and starts -/
  | serveHTTP {h : Nat} {xConnID userAgent contentType : String} {now : Int} :
      w.published h = true → (w.hub h).closed = false →
      ActionStep md5Hex w (.serveHTTP h xConnID userAgent contentType now)
        ({ w with chans := w.chans ++ [Chan.make clientChanCap] }.spawn
          (.serve ⟨h, if xConnID = "" then toString now else xConnID, w.chans.length, userAgent,
            contentType, .attach, [], 200, [], 0⟩))
  /-- `Close` -/
  | close {h : Nat} : w.published h = true → (w.hub h).mu = false →
      ActionStep md5Hex w (.close h) (w.commit (w.close h))
  /-- `UpdateInterfaces` -/
  | updateInterfaces {h : Nat} {ifaces : List String} {net : Net} :
      w.published h = true → (w.hub h).mu = false →
      ActionStep md5Hex w (.updateInterfaces h ifaces net)
        (w.commit ((w.updateInterfaces h ifaces net).map Prod.fst))
  /-- `TransferClientsTo` -/
  | transferClientsTo {h n : Nat} : w.published h = true → w.published n = true → h ≠ n →
      (w.hub h).mu = false → (w.hub n).mu = false →
      ActionStep md5Hex w (.transferClientsTo h n) (w.commit (w.transferClientsTo h n))
  /-- a step of `h.run()` -/
  | run {u h : Nat} {pc : RunPc} {i : Input} {w' : World} : w.task u = .run h pc →
      RunStep md5Hex w u h pc i w' → ActionStep md5Hex w (.step u i) w'
  /-- a step of a receive loop -/
  | readLoop {u h sock : Nat} {hubAddr : String} {pc : ReadPc} {i : Input} {w' : World} :
      w.task u = .readLoop h sock hubAddr pc → ReadStep w u h sock hubAddr pc i w' →
      ActionStep md5Hex w (.step u i) w'
  /-- a step of a priming goroutine -/
  | prime {u h ch : Nat} {pc : PrimePc} {i : Input} {w' : World} : w.task u = .prime h ch pc →
      PrimeStep w u h ch pc i w' → ActionStep md5Hex w (.step u i) w'
  /-- a step of a `ServeHTTP` call -/
  | serve {u : Nat} {s : Session} {i : Input} {w' : World} : w.task u = .serve s →
      ServeStep w u s i w' → ActionStep md5Hex w (.step u i) w'
  /-- a step of a `GetOrCreateHub` call -/
  | call {u : Nat} {udpAddr : String} {ifaces : List String} {pc : CallPc} {i : Input}
      {w' : World} : w.task u = .call udpAddr ifaces pc →
      CallStep w u udpAddr ifaces pc i w' → ActionStep md5Hex w (.step u i) w'
  /-- `hub.Close()` after `RemoveHubEx`'s unlock -/
  | closeRemoved {u h : Nat} : w.task u = .closeRemoved h → (w.hub h).mu = false →
      ActionStep md5Hex w (.step u .go) (w.commit do
        let w₁ ← w.close h
        pure (w₁.setTask u .exited))

theorem stepAction_cases {md5Hex : String → String} {w w' : World} {a : Action}
    (hs : stepAction md5Hex w a = some w') : ActionStep md5Hex w a w' := by
  cases a <;> dsimp only [stepAction] at hs
  case getOrCreateHub =>
    split at hs <;> cases hs
    exacts [.getOrCreateFound ‹_›, .getOrCreateMissing ‹_›]
  case removeHubEx =>
    split at hs <;> cases hs
    exacts [.removeHubEx ‹_›, .removeHubExMissing ‹_›]
  case newStreamHub =>
    split at hs <;> cases hs
    exacts [.newStreamHubFail ‹_›, .newStreamHubError ‹_›, .newStreamHub ‹_›]
  case serveHTTP h _ _ _ _ =>
    split at hs
    · cases hs
    · rename_i hg
      have hp : w.published h = true := by simpa using hg
      split at hs <;> cases hs
      exacts [.refused hp ‹_›, .serveHTTP hp (Bool.eq_false_iff.mpr ‹_›)]
  case close =>
    split at hs <;> cases hs
    rename_i hg
    simp only [Bool.or_eq_true, Bool.not_eq_true', not_or, Bool.not_eq_false, Bool.not_eq_true] at hg
    exact .close hg.1 hg.2
  case updateInterfaces =>
    split at hs <;> cases hs
    rename_i hg
    simp only [Bool.or_eq_true, Bool.not_eq_true', not_or, Bool.not_eq_false, Bool.not_eq_true] at hg
    exact .updateInterfaces hg.1 hg.2
  case transferClientsTo =>
    split at hs <;> cases hs
    rename_i hg
    simp only [Bool.or_eq_true, Bool.not_eq_true', not_or, Bool.not_eq_false, Bool.not_eq_true, beq_iff_eq] at hg
    exact .transferClientsTo hg.1.1.1.1 hg.1.1.1.2 hg.1.1.2 hg.1.2 hg.2
  case step =>
    split at hs
    · cases hs
    · cases hs
    · exact .run ‹_› (stepRun_cases hs)
    · exact .readLoop ‹_› (stepRead_cases hs)
    · exact .prime ‹_› (stepPrime_cases hs)
    · exact .serve ‹_› (stepServe_cases hs)
    · exact .call ‹_› (stepCall_cases hs)
    · split at hs
      · split at hs <;> cases hs
        exact .closeRemoved ‹_› (Bool.eq_false_iff.mpr ‹_›)
      · cases hs

/-- A step that returns a world was taken from a world with no panic, by one of the branches
of `stepAction`. -/
theorem step_cases {md5Hex : String → String} {w w' : World} {a : Action}
    (hs : step md5Hex w a = some w') : w.panic = none ∧ ActionStep md5Hex w a w' := by
  unfold step at hs
  split at hs
  · cases hs
  · rename_i hp
    exact ⟨by simpa using hp, stepAction_cases hs⟩

/-- A step of goroutine `t`, a `ServeHTTP` call, is one of `ServeStep`'s branches. -/
theorem ActionStep.serve_of_task {md5Hex : String → String} {w w' : World} {t : Nat}
    {s : Session} {i : Input} (hs : ActionStep md5Hex w (.step t i) w')
    (ht : w.task t = .serve s) : ServeStep w t s i w' := by
  cases hs with
  | serve ht' hr => rw [ht] at ht'; cases ht'; exact hr
  | run ht' | readLoop ht' | prime ht' | call ht' | closeRemoved ht' => rw [ht] at ht'; cases ht'

/-- With no goroutine panicked, a step of goroutine `t`, a `ServeHTTP` call, is its
`stepServe`. -/
theorem step_serve {md5Hex : String → String} {w : World} {t : Nat} {s : Session} (i : Input)
    (hp : w.panic = none) (ht : w.task t = .serve s) :
    step md5Hex w (.step t i) = stepServe w t s i := by
  simp [step, hp, stepAction, ht]

/-- The flush ticker's case is always taken in the serve loop. -/
theorem stepServe_flushTick {w : World} {t b : Nat} {s : Session} (hb : s.pc = .serving b) :
    stepServe w t s .flushTick = some (w.setTask t (.serve
      (if b > 0 then { s with flushed := s.body.length, pc := .serving 0 } else s))) := by
  unfold stepServe
  rw [hb]

/-! ## What a step does to the goroutines -/

/-- Whether a goroutine is a receive loop. -/
def Task.isReadLoop : Task → Bool
  | .readLoop .. => true
  | _ => false

/-- A goroutine as a step starts it: a receive loop only before it has resolved its
address. -/
def Task.Fresh : Task → Prop
  | .readLoop _ _ _ pc => pc = .start
  | _ => True

/-- A section keeps every goroutine and starts new ones, each fresh. -/
def TasksGrow (w w' : World) : Prop := ∃ new, w'.tasks = w.tasks ++ new ∧ ∀ x ∈ new, x.Fresh

namespace TasksGrow

variable {w w₁ w₂ : World}

protected theorem rfl : TasksGrow w w := ⟨[], by simp, nofun⟩

theorem of_eq (h : w₁.tasks = w.tasks) : TasksGrow w w₁ := ⟨[], by simp [h], nofun⟩

theorem trans (h₁ : TasksGrow w w₁) (h₂ : TasksGrow w₁ w₂) : TasksGrow w w₂ :=
  let ⟨n₁, e₁, f₁⟩ := h₁
  let ⟨n₂, e₂, f₂⟩ := h₂
  ⟨n₁ ++ n₂, by rw [e₂, e₁, List.append_assoc],
    fun x hx => (List.mem_append.mp hx).elim (f₁ x) (f₂ x)⟩

theorem spawn {x : Task} (hx : x.Fresh) : TasksGrow w (w.spawn x) :=
  ⟨[x], rfl, by simpa using hx⟩

theorem commit {x : Go World} (h : ∀ w₁, x = .ok w₁ → TasksGrow w w₁) :
    TasksGrow w (w.commit x) := by
  cases x with
  | error => exact of_eq rfl
  | ok w₁ => exact h w₁ rfl

/-- Each goroutine after a section is the one before, or fresh. -/
theorem task (h : TasksGrow w w₁) (v : Nat) : w₁.task v = w.task v ∨ (w₁.task v).Fresh := by
  obtain ⟨new, e, f⟩ := h
  rcases Nat.lt_or_ge v w.tasks.length with hv | hv
  · exact .inl (by rw [World.task, World.task, e, List.getD_append _ _ _ _ hv])
  · right
    rw [World.task, e, List.getD_append_right _ _ _ _ hv, List.getD_eq_getElem?_getD]
    cases hn : new[v - w.tasks.length]? with
    | none => trivial
    | some x => exact f x (List.getElem?_mem hn)

/-- A goroutine written after a section is written first: the section only appends. -/
theorem setTask (h : TasksGrow w w₁) {u : Nat} (hu : u < w.tasks.length) (y : Task) :
    TasksGrow (w.setTask u y) (w₁.setTask u y) :=
  let ⟨n, e, f⟩ := h
  ⟨n, by simp [e, List.set_append_left _ _ hu], f⟩

end TasksGrow

namespace World

variable {w w' : World}

theorem setTask_task_tasks (w : World) (t : Nat) : (w.setTask t (w.task t)).tasks = w.tasks := by
  refine List.ext_getElem? fun j => ?_
  simp only [setTask_tasks, task, List.getElem?_set, List.getD_eq_getElem?_getD]
  split_ifs with h₁ h₂
  · subst h₁; simp [List.getElem?_eq_getElem h₂]
  · subst h₁; simp [List.getElem?_eq_none (Nat.le_of_not_lt h₂)]
  · rfl

theorem tasksGrow_setHub (w : World) (i : Nat) (hub : StreamHub) : TasksGrow w (w.setHub i hub) :=
  .of_eq rfl

theorem task_setTask_eq (w : World) (t u : Nat) (x : Task) :
    (w.setTask t x).task u = x ∨ (w.setTask t x).task u = w.task u := by
  simp only [World.task, setTask, List.getD_eq_getElem?_getD, List.getElem?_set]
  split_ifs with h₁ h₂
  · exact .inl rfl
  · subst h₁; simp [List.getElem?_eq_none (Nat.le_of_not_lt h₂)]
  · exact .inr rfl

theorem lt_length_of_task {t : Nat} {x : Task} (ht : w.task t = x) (hx : x ≠ .exited) :
    t < w.tasks.length := by
  by_contra hl
  rw [task, List.getD_eq_default _ _ (Nat.le_of_not_lt hl)] at ht
  exact hx ht.symm

theorem task_setTask_self {t : Nat} (hl : t < w.tasks.length) (x : Task) :
    (w.setTask t x).task t = x := by
  simp [task, setTask, List.getD_eq_getElem?_getD, hl]

theorem tasksGrow_close {h : Nat} (hc : w.close h = .ok w') : TasksGrow w w' := by
  unfold World.close at hc
  dsimp only at hc
  split at hc
  · cases hc; exact .rfl
  · obtain ⟨_, -, hc⟩ := bind_eq_ok hc
    obtain ⟨_, -, hc⟩ := bind_eq_ok hc
    cases hc; exact .of_eq rfl

theorem tasksGrow_runAdd {h : Nat} {c : HubClient} (hr : w.runAdd h c = .ok w') :
    TasksGrow w w' := by
  obtain ⟨_, -, hr⟩ := bind_eq_ok hr
  cases hr; exact .of_eq rfl

theorem tasksGrow_runRemove {h : Nat} {k : String} {e : Bool}
    (hr : w.runRemove h k = .ok (w', e)) : TasksGrow w w' := by
  unfold World.runRemove at hr
  dsimp only at hr
  split at hr
  · obtain ⟨_, -, hr⟩ := bind_eq_ok hr
    cases hr; exact .of_eq rfl
  · cases hr; exact .rfl

theorem tasksGrow_runClosed {h : Nat} (hr : w.runClosed h = .ok w') : TasksGrow w w' := by
  obtain ⟨_, -, hr⟩ := bind_eq_ok hr
  cases hr; exact .of_eq rfl

theorem tasksGrow_broadcastLocked {h : Nat} {data : Frame} {cs : List HubClient}
    (hb : w.broadcastLocked h data = .ok (some (w', cs))) : TasksGrow w w' := by
  unfold broadcastLocked at hb
  dsimp only at hb
  split at hb
  · obtain ⟨_, -, hb⟩ := bind_eq_ok hb
    cases hb; exact .of_eq rfl
  · cases hb

theorem tasksGrow_transferClientsTo {h n : Nat} (ht : w.transferClientsTo h n = .ok w') :
    TasksGrow w w' := by
  unfold transferClientsTo at ht
  dsimp only at ht
  obtain ⟨_, -, ht⟩ := bind_eq_ok ht
  obtain ⟨_, -, ht⟩ := bind_eq_ok ht
  obtain ⟨_, -, ht⟩ := bind_eq_ok ht
  obtain ⟨_, -, ht⟩ := bind_eq_ok ht
  obtain ⟨⟨_, _⟩, -, ht⟩ := bind_eq_ok ht
  cases ht; exact .of_eq rfl

theorem tasksGrow_removeHubLocked {md5Hex : String → String} {udpAddr : String}
    {ifaces : List String} {r : Option Nat} (h : w.removeHubLocked md5Hex udpAddr ifaces = (w', r)) :
    TasksGrow w w' := by
  have h₁ := w.removeHubLocked_fst md5Hex udpAddr ifaces
  rw [h] at h₁
  rw [show w' = _ from h₁]
  exact .of_eq rfl

theorem tasksGrow_spawnReadLoops {h : Nat} {addrs : List String} :
    ∀ {w w' : World} {idx : Nat} {conns : List Nat},
      w.spawnReadLoops h addrs idx conns = .ok w' → TasksGrow w w'
  | _, _, _, [], hs => by cases hs; exact .rfl
  | _, _, _, _ :: _, hs => by
    obtain ⟨_, -, hs⟩ := bind_eq_ok hs
    obtain ⟨_, -, hs⟩ := bind_eq_ok hs
    exact (TasksGrow.spawn (show Task.Fresh (.readLoop h _ _ .start) from rfl)).trans
      (tasksGrow_spawnReadLoops hs)

theorem tasksGrow_updateInterfaces {h : Nat} {ifaces : List String} {net : Net}
    {r : Except StreamError Unit} (hu : w.updateInterfaces h ifaces net = .ok (w', r)) :
    TasksGrow w w' := by
  unfold updateInterfaces at hu
  dsimp only at hu
  generalize updateInterfacesConns net ifaces (w.hub h).addrList none = res at hu
  rcases res with ⟨_ | ⟨conn, conns⟩, lastErr⟩
  · cases hu; exact .rfl
  · obtain ⟨w₂, hs, hu⟩ := bind_eq_ok hu
    cases hu
    rw [openSocks_eq] at hs
    unfold startReadLoops at hs
    refine (TasksGrow.of_eq ?_).trans (tasksGrow_spawnReadLoops hs)
    rfl

theorem tasksGrow_newStreamHub {addrs ifaces : List String} {net : Net} {i : Nat}
    (hn : w.newStreamHub addrs ifaces net = .ok (.ok (w', i))) : TasksGrow w w' := by
  unfold newStreamHub at hn
  split at hn
  · cases hn
  split at hn
  · cases hn
  rw [openSocks_eq] at hn
  obtain ⟨_, -, hn⟩ := bind_eq_ok hn
  obtain ⟨w₂, hs, hn⟩ := bind_eq_ok hn
  cases hn
  unfold startReadLoops at hs
  refine ((TasksGrow.of_eq ?_).trans (TasksGrow.spawn ?_)).trans (tasksGrow_spawnReadLoops hs)
  exacts [rfl, trivial]

end World

/-- What a step of goroutine `t` that is not a receive loop does to the goroutines: `t` becomes
another goroutine that is not one, and the rest is as a section leaves it. -/
def TasksStep (w : World) (t : Nat) (w' : World) : Prop :=
  ∃ y, y.isReadLoop = false ∧ TasksGrow (w.setTask t y) w'

namespace TasksStep

variable {w w' : World} {t : Nat}

/-- A step that leaves goroutine `t` as it was. -/
theorem of_grow (ht : (w.task t).isReadLoop = false) (h : TasksGrow w w') : TasksStep w t w' :=
  ⟨w.task t, ht, (TasksGrow.of_eq (w.setTask_task_tasks t).symm).trans h⟩

theorem set {y : Task} (h : TasksGrow (w.setTask t y) w') (hy : y.isReadLoop = false) :
    TasksStep w t w' :=
  ⟨y, hy, h⟩

theorem commit (ht : (w.task t).isReadLoop = false) {x : Go World}
    (h : ∀ w₁, x = .ok w₁ → TasksStep w t w₁) : TasksStep w t (w.commit x) := by
  cases x with
  | error => exact of_grow ht (.of_eq rfl)
  | ok w₁ => exact h w₁ rfl

/-- A section, then the write of goroutine `t`. -/
theorem commit_bind (ht : (w.task t).isReadLoop = false) (hl : t < w.tasks.length)
    {x : Go World} (hx : ∀ w₁, x = .ok w₁ → TasksGrow w w₁) {y : Task}
    (hy : y.isReadLoop = false) : TasksStep w t (w.commit (x >>= fun w₁ => pure (w₁.setTask t y))) :=
  commit ht fun _ e =>
    let ⟨w₁, h₁, h₂⟩ := bind_eq_ok e
    by cases h₂; exact ⟨y, hy, (hx w₁ h₁).setTask hl y⟩

end TasksStep

section Goroutines

variable {md5Hex : String → String} {w w' : World} {t : Nat}

open World

theorem RunStep.tasksStep {h : Nat} {pc : RunPc} {i : Input} (ht : w.task t = .run h pc)
    (hs : RunStep md5Hex w t h pc i w') : TasksStep w t w' := by
  have hr : (w.task t).isReadLoop = false := by rw [ht]; rfl
  have hl := lt_length_of_task ht nofun
  cases hs with
  | add =>
    refine .commit hr fun _ e => .of_grow hr ?_
    obtain ⟨w₁, h₁, h₂⟩ := bind_eq_ok e
    cases h₂
    exact ((tasksGrow_setHub _ _ _).trans (tasksGrow_runAdd h₁)).trans (.spawn trivial)
  | remove =>
    refine .commit hr fun _ e => ?_
    obtain ⟨⟨w₁, b⟩, h₁, h₂⟩ := bind_eq_ok e
    have hg : TasksGrow w w₁ := (tasksGrow_setHub _ _ _).trans (tasksGrow_runRemove h₁)
    cases b <;> cases h₂
    exacts [.of_grow hr hg, .set (hg.setTask hl _) rfl]
  | closed => exact .commit_bind hr hl (fun _ => tasksGrow_runClosed) rfl
  | reap | closeRemoved => exact .commit_bind hr hl (fun _ => tasksGrow_close) rfl
  | onEmptyNil => exact .set .rfl rfl
  | onEmpty =>
    refine .commit hr fun _ e => ?_
    obtain ⟨addr, -, h₂⟩ := bind_eq_ok e
    split at h₂ <;> cases h₂ <;> exact .set ((tasksGrow_removeHubLocked ‹_›).setTask hl _) rfl

theorem PrimeStep.tasksStep {h ch : Nat} {pc : PrimePc} {i : Input} (ht : w.task t = .prime h ch pc)
    (hs : PrimeStep w t h ch pc i w') : TasksStep w t w' := by
  have hr : (w.task t).isReadLoop = false := by rw [ht]; rfl
  cases hs with
  | snapshot | done | sendFull | send => exact .set (.of_eq rfl) rfl
  | check => exact .set .rfl (by split <;> rfl)
  | snapshotFail | sendFail => exact .of_grow hr (.of_eq rfl)

theorem ServeStep.tasksStep {s : Session} {i : Input} (hs : ServeStep w t s i w') :
    TasksStep w t w' := by
  cases hs <;> exact .set (.of_eq rfl) rfl

theorem CallStep.tasksStep {udpAddr : String} {ifaces : List String} {pc : CallPc} {i : Input}
    (ht : w.task t = .call udpAddr ifaces pc) (hs : CallStep w t udpAddr ifaces pc i w') :
    TasksStep w t w' := by
  have hr : (w.task t).isReadLoop = false := by rw [ht]; rfl
  cases hs with
  | checkClosed | createError | insert => exact .set (.of_eq rfl) rfl
  | createFail => exact .of_grow hr (.of_eq rfl)
  | create hn =>
    exact .set (((tasksGrow_newStreamHub hn).setTask (lt_length_of_task ht nofun) _).trans
      (.of_eq rfl)) rfl

/-- What a step does to the goroutines: a call into the package keeps every goroutine and
starts new ones fresh; a step of a goroutine that is not a receive loop is a `TasksStep`; a
step of a receive loop is one of `ReadStep`'s branches. -/
theorem ActionStep.tasks {a : Action} (hs : ActionStep md5Hex w a w') :
    (TasksGrow w w' ∧ ∀ u i, a ≠ .step u i) ∨
    (∃ u i, a = .step u i ∧ (w.task u).isReadLoop = false ∧ TasksStep w u w') ∨
    ∃ u i h sock hubAddr pc, a = .step u i ∧ w.task u = .readLoop h sock hubAddr pc ∧
      ReadStep w u h sock hubAddr pc i w' := by
  cases hs with
  | getOrCreateFound | getOrCreateMissing | refused => exact .inl ⟨.spawn trivial, nofun⟩
  | removeHubEx hr => exact .inl ⟨(tasksGrow_removeHubLocked hr).trans (.spawn trivial), nofun⟩
  | removeHubExMissing hr => exact .inl ⟨tasksGrow_removeHubLocked hr, nofun⟩
  | newStreamHubFail | newStreamHubError => exact .inl ⟨.of_eq rfl, nofun⟩
  | newStreamHub hn => exact .inl ⟨(tasksGrow_newStreamHub hn).trans (.of_eq rfl), nofun⟩
  | serveHTTP => exact .inl ⟨.spawn trivial, nofun⟩
  | close => exact .inl ⟨.commit fun _ => tasksGrow_close, nofun⟩
  | @updateInterfaces h ifaces net =>
    refine .inl ⟨.commit fun w₁ e => ?_, nofun⟩
    rcases hu : w.updateInterfaces h ifaces net with _ | ⟨w₂, r⟩ <;> rw [hu] at e <;> cases e
    exact tasksGrow_updateInterfaces hu
  | transferClientsTo => exact .inl ⟨.commit fun _ => tasksGrow_transferClientsTo, nofun⟩
  | run ht hs => exact .inr (.inl ⟨_, _, rfl, by rw [ht]; rfl, hs.tasksStep ht⟩)
  | readLoop ht hs => exact .inr (.inr ⟨_, _, _, _, _, _, rfl, ht, hs⟩)
  | prime ht hs => exact .inr (.inl ⟨_, _, rfl, by rw [ht]; rfl, hs.tasksStep ht⟩)
  | serve ht hs => exact .inr (.inl ⟨_, _, rfl, by rw [ht]; rfl, hs.tasksStep⟩)
  | call ht hs => exact .inr (.inl ⟨_, _, rfl, by rw [ht]; rfl, hs.tasksStep ht⟩)
  | @closeRemoved u h ht _ =>
    have hr : (w.task u).isReadLoop = false := by rw [ht]; rfl
    exact .inr (.inl ⟨_, _, rfl, hr, .commit_bind hr (lt_length_of_task ht nofun)
      (fun _ => tasksGrow_close) rfl⟩)

end Goroutines

end TvGate.Stream
