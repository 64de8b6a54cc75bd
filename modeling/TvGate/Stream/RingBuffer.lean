import TvGate.Runtime

/-!
# The ring buffer

`RingBuffer` of `stream/udp_rtp.go`: `size` slots, of which `count` are in use from
`start` on, wrapping around. A hub keeps the last frames it broadcast in one, to prime
clients that attach later.

The slots are the slice `buf`, of length `bufLen`, made once by `NewRingBuffer`; it is
kept as a function of the index so that a ring of 8192 slots costs nothing to evaluate.
The ring's own mutex is not modelled: every caller already holds the hub's `Mu`, and
`TransferClientsTo` holds both hubs'.

## Main results

* `RingBuffer.Holds r items` — the ring keeps the last `size` of `items`, the items pushed
  so far, oldest first; `Holds.push` and `Holds.pushAll` keep it.
* `Holds.getAll_eq` — `GetAll` returns what the ring keeps.
* `getAll_last_pushes` — after any pushes into a new ring, `GetAll` returns the last
  `size` of them.
-/

namespace TvGate.Stream

open Go

/-- `RingBuffer`. -/
structure RingBuffer (α : Type) where
  buf : Nat → α
  bufLen : Nat
  size : Int
  start : Int
  count : Int

variable {α : Type}

/-- `NewRingBuffer(size)`: `make([][]byte, size)` panics on a negative size. -/
def newRingBuffer [Inhabited α] (size : Int) : Go (RingBuffer α) :=
  if 0 ≤ size then .ok ⟨fun _ => default, size.toNat, size, 0, 0⟩ else .error .makeSliceLen

namespace RingBuffer

/-- `r.buf[i]`. -/
def read (r : RingBuffer α) (i : Int) : Go α :=
  if 0 ≤ i ∧ i < r.bufLen then .ok (r.buf i.toNat) else .error .indexOutOfRange

/-- `r.buf[i] = v`. -/
def write (r : RingBuffer α) (i : Int) (v : α) : Go (RingBuffer α) :=
  if 0 ≤ i ∧ i < r.bufLen then .ok { r with buf := Function.update r.buf i.toNat v }
  else .error .indexOutOfRange

/-- `(*RingBuffer).Push`: append, or overwrite the oldest slot when full. -/
def push (r : RingBuffer α) (item : α) : Go (RingBuffer α) :=
  if r.count < r.size then do
    let i ← mod (r.start + r.count) r.size
    let r ← r.write i item
    pure { r with count := r.count + 1 }
  else do
    let r ← r.write r.start item
    let start ← mod (r.start + 1) r.size
    pure { r with start }

/-- The loop of `GetAll`: `out[i] = r.buf[(r.start+i)%r.size]` for `n` more values of `i`. -/
def fill (r : RingBuffer α) (out : List α) : Nat → Nat → Go (List α)
  | _, 0 => pure out
  | i, n + 1 => do
    let j ← mod (r.start + i) r.size
    let v ← r.read j
    let out ← set out i v
    r.fill out (i + 1) n

/-- `(*RingBuffer).GetAll`: the items oldest first, in a new slice. -/
def getAll [Inhabited α] (r : RingBuffer α) : Go (List α) := do
  let out ← make r.count
  r.fill out 0 r.count.toNat

@[simp] theorem fill_zero (r : RingBuffer α) (out : List α) (i : Nat) : r.fill out i 0 = pure out :=
  rfl

/-! The ring raises index, division and `make` panics only. -/

theorem noCloseOfClosed_read (r : RingBuffer α) (i : Int) : NoCloseOfClosed (r.read i) := by
  unfold read; split <;> exact nofun

theorem noCloseOfClosed_write (r : RingBuffer α) (i : Int) (v : α) :
    NoCloseOfClosed (r.write i v) := by
  unfold write; split <;> exact nofun

theorem noCloseOfClosed_push (r : RingBuffer α) (item : α) : NoCloseOfClosed (r.push item) := by
  unfold push
  split
  · exact (noCloseOfClosed_mod _ _).bind fun i _ =>
      (noCloseOfClosed_write _ _ _).bind fun _ _ => noCloseOfClosed_ok _
  · exact (noCloseOfClosed_write _ _ _).bind fun _ _ =>
      (noCloseOfClosed_mod _ _).bind fun _ _ => noCloseOfClosed_ok _

theorem noCloseOfClosed_pushAll :
    ∀ (r : RingBuffer α) (items : List α), NoCloseOfClosed (items.foldlM (fun r f => r.push f) r)
  | r, [] => noCloseOfClosed_ok r
  | r, _ :: items => (r.noCloseOfClosed_push _).bind fun r _ => noCloseOfClosed_pushAll r items

theorem noCloseOfClosed_fill (r : RingBuffer α) :
    ∀ (out : List α) (i n : Nat), NoCloseOfClosed (r.fill out i n)
  | out, _, 0 => noCloseOfClosed_ok out
  | _, i, n + 1 => (noCloseOfClosed_mod _ _).bind fun _ _ => (noCloseOfClosed_read _ _).bind
      fun _ _ => (noCloseOfClosed_set _ _ _).bind fun out _ => noCloseOfClosed_fill r out (i + 1) n

theorem noCloseOfClosed_getAll [Inhabited α] (r : RingBuffer α) : NoCloseOfClosed r.getAll :=
  (noCloseOfClosed_make _).bind fun out _ => noCloseOfClosed_fill r out 0 _

end RingBuffer

theorem noCloseOfClosed_newRingBuffer [Inhabited α] (size : Int) :
    NoCloseOfClosed (newRingBuffer size : Go (RingBuffer α)) := by
  unfold newRingBuffer; split <;> exact nofun

/-! ## What the ring holds

`RingBuffer.contents` reads the `count` slots in use from `start` on. `Holds r items` says
that `r` is what pushing `items` into a new ring made: its indices are in range, and its
contents are the last `size` items. `NewRingBuffer` establishes it, `Push` keeps it in
both branches, and `GetAll` returns the contents. -/

/-- `n` slots of `buf` from `s` on, wrapping around at `size`. -/
def slots (buf : Nat → α) (size s n : Nat) : List α :=
  (List.range n).map fun i => buf ((s + i) % size)

@[simp] theorem length_slots (buf : Nat → α) (size s n : Nat) :
    (slots buf size s n).length = n := by
  simp [slots]

/-- One more slot at the end. -/
theorem slots_succ (buf : Nat → α) (size s n : Nat) :
    slots buf size s (n + 1) = slots buf size s n ++ [buf ((s + n) % size)] := by
  simp [slots, List.range_succ]

/-- The first slot, then the others from the next one. -/
theorem slots_succ_cons (buf : Nat → α) (size s n : Nat) :
    slots buf size s (n + 1) = buf (s % size) :: slots buf size (s + 1) n := by
  simp only [slots, List.range_succ_eq_map, List.map_cons, List.map_map, Nat.add_zero]
  congr 2
  funext i
  simp only [Function.comp_apply, Nat.succ_eq_add_one, Nat.add_assoc, Nat.add_comm 1 i]

theorem slots_mod (buf : Nat → α) (size s n : Nat) :
    slots buf size (s % size) n = slots buf size s n := by
  simp only [slots, Nat.mod_add_mod]

/-- A write outside the slots leaves them as they were. -/
theorem slots_update_of_ne (buf : Nat → α) (size s n j : Nat) (v : α)
    (h : ∀ i < n, (s + i) % size ≠ j) :
    slots (Function.update buf j v) size s n = slots buf size s n :=
  List.map_congr_left fun i hi => Function.update_noteq (h i (List.mem_range.mp hi)) v buf

/-- Going round once from `s + 1` meets `s` only at the last step. -/
theorem add_one_add_mod_ne {size s i : Nat} (hs : s < size) (hi : i + 1 < size) :
    (s + 1 + i) % size ≠ s := by
  rcases Nat.lt_or_ge (s + 1 + i) size with h | h
  · rw [Nat.mod_eq_of_lt h]; omega
  · rw [Nat.mod_eq_sub_mod h, Nat.mod_eq_of_lt (by omega)]; omega

/-- The last `n` of `items ++ [x]`: the last `n` of `items` but the oldest, then `x`. -/
theorem drop_append_singleton {items : List α} {n : Nat} (hn : 0 < n) (hL : n ≤ items.length)
    (x : α) :
    (items ++ [x]).drop (items.length + 1 - n) = (items.drop (items.length - n)).tail ++ [x] := by
  have hne : items.drop (items.length - n) ≠ [] := by
    rw [← List.length_pos, List.length_drop]; omega
  rw [show items.length + 1 - n = items.length - n + 1 by omega, ← List.drop_drop,
    List.drop_append_of_le_length (by omega), List.drop_one, List.tail_append_of_ne_nil hne]

namespace RingBuffer

/-- The slots in use, oldest first: `r.buf[(r.start+i)%r.size]` for `i < r.count`. -/
def contents (r : RingBuffer α) : List α :=
  slots r.buf r.size.toNat r.start.toNat r.count.toNat

/-- `r` is a ring into which `items` were pushed, oldest first: its indices are in range and
it holds the last `r.size` of them. -/
structure Holds (r : RingBuffer α) (items : List α) : Prop where
  size_pos : 0 < r.size
  bufLen_eq : (r.bufLen : Int) = r.size
  start_nonneg : 0 ≤ r.start
  start_lt_size : r.start < r.size
  count_eq : r.count = min (items.length : Int) r.size
  start_eq_zero : r.count < r.size → r.start = 0
  contents_eq : r.contents = items.drop (items.length - r.size.toNat)

/-- `r.buf[i]` in range. -/
theorem read_eq {r : RingBuffer α} {i : Int} (h0 : 0 ≤ i) (h : i < r.bufLen) :
    r.read i = .ok (r.buf i.toNat) := if_pos ⟨h0, h⟩

/-- `r.buf[i] = v` in range. -/
theorem write_eq {r : RingBuffer α} {i : Int} (v : α) (h0 : 0 ≤ i) (h : i < r.bufLen) :
    r.write i v = .ok { r with buf := Function.update r.buf i.toNat v } := if_pos ⟨h0, h⟩

variable {r : RingBuffer α} {items : List α}

theorem Holds.count_nonneg (h : r.Holds items) : 0 ≤ r.count := by
  have := h.count_eq; have := h.size_pos; omega

/-- `Push` on a ring that is not full writes the slot after the last and counts it. -/
theorem Holds.push_of_lt (h : r.Holds items) (hc : r.count < r.size) (x : α) :
    r.push x =
      .ok { r with buf := Function.update r.buf r.count.toNat x, count := r.count + 1 } := by
  have hi : (r.start + r.count).tmod r.size = r.count := by
    rw [h.start_eq_zero hc, Int.zero_add, Int.tmod_eq_of_lt h.count_nonneg hc]
  have hw := write_eq x h.count_nonneg (h.bufLen_eq ▸ hc)
  simp only [push, if_pos hc, mod_eq (Int.ne_of_gt h.size_pos), hi, ok_bind, hw]
  rfl

/-- `Push` on a full ring overwrites the oldest slot and moves `start` past it. -/
theorem Holds.push_of_ge (h : r.Holds items) (hc : ¬ r.count < r.size) (x : α) :
    r.push x = .ok { r with buf := Function.update r.buf r.start.toNat x,
                            start := (r.start + 1).tmod r.size } := by
  have hw := write_eq x h.start_nonneg (h.bufLen_eq ▸ h.start_lt_size)
  simp only [push, if_neg hc, hw, ok_bind, mod_eq (Int.ne_of_gt h.size_pos)]
  rfl

/-- The ring's sizes as naturals. -/
theorem Holds.toNat (h : r.Holds items) :
    ∃ n s c : Nat, r.size = n ∧ r.start = s ∧ r.count = c ∧ 0 < n ∧ s < n ∧
      c = min items.length n ∧ (c < n → s = 0) ∧
      slots r.buf n s c = items.drop (items.length - n) := by
  obtain ⟨n, hn⟩ := Int.eq_ofNat_of_zero_le h.size_pos.le
  obtain ⟨s, hs⟩ := Int.eq_ofNat_of_zero_le h.start_nonneg
  obtain ⟨c, hc⟩ := Int.eq_ofNat_of_zero_le h.count_nonneg
  have := h.count_eq; have := h.start_eq_zero; have := h.size_pos; have := h.start_lt_size
  refine ⟨n, s, c, hn, hs, hc, by omega, by omega, by omega, by omega, ?_⟩
  simpa [contents, hn, hs, hc] using h.contents_eq

/-- The invariant after a `Push` on a ring that is not full. -/
theorem Holds.push_lt (h : r.Holds items) (hc : r.count < r.size) (x : α) :
    { r with buf := Function.update r.buf r.count.toNat x, count := r.count + 1 }.Holds
      (items ++ [x]) := by
  obtain ⟨n, s, c, hn, hs, hc', hn0, hsn, hcm, hs0, hsl⟩ := h.toNat
  have hcn : c < n := by omega
  have hL : items.length < n := by omega
  have hs0 := hs0 hcn
  subst hs0
  refine ⟨h.size_pos, h.bufLen_eq, h.start_nonneg, h.start_lt_size, ?_,
    fun _ => h.start_eq_zero hc, ?_⟩
  · simp only [List.length_append, List.length_singleton, hc', hn]; omega
  · have hupd : ∀ i < c, (0 + i) % n ≠ c := fun i hi => by
      rw [Nat.zero_add, Nat.mod_eq_of_lt (by omega)]; omega
    have h1 : ((c : Int) + 1).toNat = c + 1 := by omega
    simp only [contents, hn, hs, hc', Int.toNat_ofNat, h1]
    rw [slots_succ, slots_update_of_ne _ _ _ _ _ _ hupd, hsl, Nat.zero_add, Nat.mod_eq_of_lt hcn,
      Function.update_same, Nat.sub_eq_zero_of_le hL.le, List.length_append, List.length_singleton,
      Nat.sub_eq_zero_of_le hL]
    rfl

/-- The invariant after a `Push` on a full ring. -/
theorem Holds.push_ge (h : r.Holds items) (hc : ¬ r.count < r.size) (x : α) :
    { r with buf := Function.update r.buf r.start.toNat x,
             start := (r.start + 1).tmod r.size }.Holds (items ++ [x]) := by
  obtain ⟨n, s, c, hn, hs, hc', hn0, hsn, hcm, -, hsl⟩ := h.toNat
  have hcn : c = n := by omega
  subst hcn
  have hL : c ≤ items.length := by omega
  have ht : (r.start + 1).tmod r.size = ((s + 1) % c : Nat) := by
    rw [hs, hn]; exact (Int.ofNat_tmod (s + 1) c).symm
  have hlt := Nat.mod_lt (s + 1) hn0
  refine ⟨h.size_pos, h.bufLen_eq, by dsimp only; rw [ht]; omega,
    by dsimp only; rw [ht, hn]; omega, ?_, ?_, ?_⟩
  · simp only [List.length_append, List.length_singleton, hc', hn]; omega
  · intro h'; exact absurd h' hc
  · obtain ⟨m, rfl⟩ : ∃ m, c = m + 1 := ⟨c - 1, by omega⟩
    rw [slots_succ_cons] at hsl
    have hupd : ∀ i < m, (s + 1 + i) % (m + 1) ≠ s := fun i hi =>
      add_one_add_mod_ne hsn (by omega)
    have hlast : (s + 1 + m) % (m + 1) = s := by
      rw [Nat.add_assoc, Nat.add_comm 1 m, Nat.add_mod_right, Nat.mod_eq_of_lt hsn]
    rw [Nat.mod_eq_of_lt hsn] at hsl
    simp only [contents, ht]
    simp only [hn, hs, hc', Int.toNat_ofNat]
    rw [slots_mod, slots_succ, slots_update_of_ne _ _ _ _ _ _ hupd, hlast, Function.update_same,
      List.length_append, List.length_singleton, drop_append_singleton hn0 hL, ← hsl,
      List.tail_cons]

/-- `Push` keeps the invariant, and its indices are in range. -/
theorem Holds.push (h : r.Holds items) (x : α) :
    ∃ r', r.push x = .ok r' ∧ r'.size = r.size ∧ r'.Holds (items ++ [x]) := by
  by_cases hc : r.count < r.size
  · exact ⟨_, h.push_of_lt hc x, rfl, h.push_lt hc x⟩
  · exact ⟨_, h.push_of_ge hc x, rfl, h.push_ge hc x⟩

/-- Pushing `xs` one after another. -/
theorem Holds.pushAll (h : r.Holds items) (xs : List α) :
    ∃ r', xs.foldlM (fun r f => r.push f) r = .ok r' ∧ r'.size = r.size ∧
      r'.Holds (items ++ xs) := by
  induction xs generalizing r items with
  | nil => exact ⟨r, rfl, rfl, by simpa using h⟩
  | cons x xs ih =>
    obtain ⟨r₁, h₁, hs₁, hr₁⟩ := h.push x
    obtain ⟨r', h', hs', hr'⟩ := ih hr₁
    refine ⟨r', ?_, hs'.trans hs₁, by simpa using hr'⟩
    rw [List.foldlM_cons, h₁, ok_bind, h']

/-- The loop of `GetAll` fills the rest of `out` with the slots from `start + pre.length` on. -/
theorem Holds.fill_eq (h : r.Holds items) (rest pre : List α) :
    r.fill (pre ++ rest) pre.length rest.length =
      .ok (pre ++ slots r.buf r.size.toNat (r.start.toNat + pre.length) rest.length) := by
  obtain ⟨n, s, c, hn, hs, -, hn0, -⟩ := h.toNat
  induction rest generalizing pre with
  | nil => simp [slots]; rfl
  | cons y rest ih =>
    have hj : (r.start + pre.length).tmod r.size = ((s + pre.length) % n : Nat) := by
      rw [hs, hn]; rfl
    have hread : r.read ((s + pre.length) % n : Nat) = .ok (r.buf ((s + pre.length) % n)) :=
      read_eq (by omega) (by rw [h.bufLen_eq, hn]; exact Int.ofNat_lt.mpr (Nat.mod_lt _ hn0))
    have hset : Go.set (pre ++ y :: rest) pre.length (r.buf ((s + pre.length) % n)) =
        .ok ((pre ++ [r.buf ((s + pre.length) % n)]) ++ rest) := by
      rw [Go.set, if_pos (by simp only [List.length_append, List.length_cons]; omega)]
      simp
    have ih' := ih (pre ++ [r.buf ((s + pre.length) % n)])
    rw [List.length_append, List.length_singleton] at ih'
    rw [List.length_cons, RingBuffer.fill, mod_eq (by omega), hj, ok_bind, hread, ok_bind, hset,
      ok_bind, ih', slots_succ_cons]
    simp [hn, hs, Nat.add_assoc]

/-- `GetAll` returns the slots in use, oldest first: the last `r.size` items pushed. -/
theorem Holds.getAll_eq [Inhabited α] (h : r.Holds items) :
    r.getAll = .ok (items.drop (items.length - r.size.toNat)) := by
  obtain ⟨n, s, c, hn, hs, hc, -⟩ := h.toNat
  have hf := h.fill_eq (List.replicate c default) []
  rw [List.nil_append, List.length_replicate, List.length_nil, Nat.add_zero] at hf
  rw [RingBuffer.getAll, make_eq h.count_nonneg, ok_bind, hc, Int.toNat_ofNat, hf,
    ← h.contents_eq]
  simp [contents, hn, hs, hc]

end RingBuffer

/-- A new ring of `n > 0` slots holds no item. -/
theorem holds_newRingBuffer [Inhabited α] {n : Int} (hn : 0 < n) :
    ∃ r, (newRingBuffer n : Go (RingBuffer α)) = .ok r ∧ r.size = n ∧ r.Holds [] :=
  ⟨_, if_pos hn.le, rfl, hn, Int.toNat_of_nonneg hn.le, le_refl _, hn, by simp [hn.le],
    fun _ => rfl, by simp [RingBuffer.contents, slots]⟩

/-- Pushes into `NewRingBuffer(n)`, for `n ≥ 1`: no index panics, the fields stay in range,
and `GetAll` returns the last `min(k, n)` of the `k` items pushed, oldest first. `GetAll`
leaves the ring as it is, so a call between pushes sees the ring after the pushes before it,
which the statement covers by ranging over every list of pushes. -/
theorem getAll_last_pushes [Inhabited α] (n : Int) (hn : 1 ≤ n) (items : List α) :
    ∃ r, (newRingBuffer n >>= fun r => items.foldlM (fun r f => r.push f) r) = .ok r ∧
      0 ≤ r.start ∧ r.start < n ∧ 0 ≤ r.count ∧ r.count ≤ n ∧
      (r.count < n → r.start = 0) ∧
      r.getAll = .ok (items.drop (items.length - n.toNat)) := by
  obtain ⟨r₀, h₀, hs₀, hr₀⟩ := @holds_newRingBuffer α _ n (by omega)
  obtain ⟨r, hr, hs, hh⟩ := hr₀.pushAll items
  rw [hs₀] at hs
  have hc := hh.count_eq
  refine ⟨r, by rw [h₀, ok_bind, hr], hh.start_nonneg, hs ▸ hh.start_lt_size, hh.count_nonneg,
    by omega, hs ▸ hh.start_eq_zero, by rw [hh.getAll_eq, hs, List.nil_append]⟩

theorem getAll_last_pushes_three :
    1 ≤ (2 : Int) ∧
      ∃ r, (newRingBuffer 2 >>= fun r => [1, 2, 3].foldlM (fun r f => r.push f) r) = .ok r ∧
        0 ≤ r.start ∧ r.start < 2 ∧ 0 ≤ r.count ∧ r.count ≤ 2 ∧
        (r.count < 2 → r.start = 0) ∧
        r.getAll = .ok (([1, 2, 3] : List Nat).drop (3 - (2 : Int).toNat)) :=
  ⟨by decide, getAll_last_pushes 2 (by decide) [1, 2, 3]⟩

example : (newRingBuffer 2 >>= fun r => [1, 2, 3].foldlM (fun r f => r.push f) r >>=
    RingBuffer.getAll) = .ok [2, 3] := by decide

end TvGate.Stream
