import Mathlib.Data.List.AList

/-!
# The Go run time, as far as the stream package uses it

The package is written against a handful of Go primitives: slice indexing and slicing,
`make` and `copy`, `%`, `binary.BigEndian.Uint16`, buffered channels and maps. Each is
modelled here together with its run-time check, so that a function of the package is a
Lean function into `Go` and a panic is a value, not a crash.

Go's `int` is 64 bits wide. The package only computes offsets and lengths inside one
datagram and counts of frames, all far below `2 ^ 63`, so `Int` stands for it without
wrapping; the two counters the source declares `uint64` are `UInt64`.
-/

namespace TvGate

/-- The run-time errors a Go program stops with. -/
inductive Panic where
  /-- `index out of range` -/
  | indexOutOfRange
  /-- `slice bounds out of range` -/
  | sliceBoundsOutOfRange
  /-- `makeslice: len out of range` -/
  | makeSliceLen
  /-- `integer divide by zero` -/
  | divideByZero
  /-- `invalid memory address or nil pointer dereference` -/
  | nilDereference
  /-- `assignment to entry in nil map` -/
  | nilMapAssignment
  /-- `send on closed channel` -/
  | sendOnClosed
  /-- `close of closed channel` -/
  | closeOfClosed
  deriving DecidableEq, Repr

/-- Whether a panic is one of Go's run-time checks on an index, a slice, a `make` length or a
divisor. -/
def Panic.boundsCheck : Panic → Bool
  | .indexOutOfRange | .sliceBoundsOutOfRange | .makeSliceLen | .divideByZero => true
  | _ => false

/-- A computation that may panic. -/
abbrev Go := Except Panic

/-- Outcomes compare by constructor and payload. -/
instance instDecidableEqExcept {ε α : Type} [DecidableEq ε] [DecidableEq α] :
    DecidableEq (Except ε α)
  | .error a, .error b => decidable_of_iff (a = b) ⟨congrArg _, Except.error.inj⟩
  | .ok a, .ok b => decidable_of_iff (a = b) ⟨congrArg _, Except.ok.inj⟩
  | .error _, .ok _ => isFalse nofun
  | .ok _, .error _ => isFalse nofun

namespace Go

variable {α : Type}

/-- `s[i]`. -/
def index (s : List α) (i : Int) : Go α :=
  if 0 ≤ i then (s[i.toNat]?).elim (.error .indexOutOfRange) .ok else .error .indexOutOfRange

/-- `s[lo:hi]`. Every slice the package cuts was made by `make`, so its capacity is its
length. -/
def slice (s : List α) (lo hi : Int) : Go (List α) :=
  if 0 ≤ lo ∧ lo ≤ hi ∧ hi ≤ s.length then .ok ((s.take hi.toNat).drop lo.toNat)
  else .error .sliceBoundsOutOfRange

/-- `s[i] = v`. -/
def set (s : List α) (i : Int) (v : α) : Go (List α) :=
  if 0 ≤ i ∧ i < s.length then .ok (s.set i.toNat v) else .error .indexOutOfRange

/-- `make([]T, n)`: `n` zero values. -/
def make [Inhabited α] (n : Int) : Go (List α) :=
  if 0 ≤ n then .ok (List.replicate n.toNat default) else .error .makeSliceLen

/-- `copy(dst, src)`: the first `min (len dst) (len src)` elements of `dst` replaced. -/
def copy (dst src : List α) : List α := src.take dst.length ++ dst.drop src.length

/-- `a % b` on `int`: the remainder truncated towards zero. -/
def mod (a b : Int) : Go Int := if b = 0 then .error .divideByZero else .ok (a.tmod b)

/-- `binary.BigEndian.Uint16(b)`: `_ = b[1]`, then `uint16(b[1]) | uint16(b[0])<<8`. -/
def bigEndianUint16 (b : List UInt8) : Go UInt16 := do
  let b1 ← index b 1
  let b0 ← index b 0
  pure (b1.toUInt16 ||| (b0.toUInt16 <<< 8))

theorem index_eq {s : List α} {i : Int} {a : α} (h0 : 0 ≤ i) (h : s[i.toNat]? = some a) :
    index s i = .ok a := by
  simp [index, h0, h]

theorem index_ok (s : List α) (i : Int) (h0 : 0 ≤ i) (h : i < s.length) :
    ∃ a, index s i = .ok a := by
  have h' : i.toNat < s.length := by omega
  exact ⟨s[i.toNat], index_eq h0 (List.getElem?_eq_getElem h')⟩

theorem index_concat_last (l : List α) (a : α) :
    index (l ++ [a]) ((l ++ [a]).length - 1) = .ok a := by
  apply index_eq (by simp only [List.length_append, List.length_singleton]; omega)
  rw [show (((l ++ [a]).length : Int) - 1).toNat = l.length by simp, List.getElem?_concat_length]

@[simp] theorem slice_eq {s : List α} {lo hi : Int} (h : 0 ≤ lo ∧ lo ≤ hi ∧ hi ≤ s.length) :
    slice s lo hi = .ok ((s.take hi.toNat).drop lo.toNat) := if_pos h

@[simp] theorem make_eq [Inhabited α] {n : Int} (h : 0 ≤ n) :
    (make n : Go (List α)) = .ok (List.replicate n.toNat default) := if_pos h

theorem copy_of_length_eq {dst src : List α} (h : dst.length = src.length) :
    copy dst src = src := by
  simp [copy, h]

@[simp] theorem mod_eq {a b : Int} (h : b ≠ 0) : mod a b = .ok (a.tmod b) := if_neg h

/-- A step that returned `a` goes on with `a`. -/
theorem ok_bind {β : Type} (a : α) (f : α → Go β) : (Except.ok a >>= f : Go β) = f a := rfl

/-- The two bytes `[hi, lo]` read big-endian. -/
theorem bigEndianUint16_pair (hi lo : UInt8) :
    ∃ v, bigEndianUint16 [hi, lo] = .ok v ∧ v.toNat = hi.toNat * 256 + lo.toNat := by
  refine ⟨_, by simp [bigEndianUint16, index]; rfl, ?_⟩
  have hlo : lo.toNat < 2 ^ 8 := lo.toNat_lt_size
  have hhi : hi.toNat < 256 := hi.toNat_lt_size
  show (lo.toUInt16.toBitVec ||| (hi.toUInt16.toBitVec <<< ((8 : UInt16) % 16).toBitVec)).toNat = _
  simp only [BitVec.toNat_or, BitVec.toNat_shiftLeft, UInt8.toUInt16]
  show lo.toNat ||| (hi.toNat <<< 8) % 2 ^ 16 = _
  rw [Nat.shiftLeft_eq, Nat.mod_eq_of_lt (by omega), Nat.or_comm, Nat.mul_comm,
    ← Nat.mul_add_lt_is_or hlo]

/-! ### Which panics a computation raises

Only `close` raises `closeOfClosed`. `NoCloseOfClosed x` says that `x` does not; it is
closed under `bind`, and every primitive above has it. -/

/-- `x` does not panic by closing a closed channel. -/
def NoCloseOfClosed {β : Type} (x : Go β) : Prop := x ≠ .error .closeOfClosed

theorem noCloseOfClosed_ok (a : α) : NoCloseOfClosed (.ok a : Go α) := nofun

theorem noCloseOfClosed_of_ne {x : Go α} {p : Panic} (h : x = .error p) (hp : p ≠ .closeOfClosed) :
    NoCloseOfClosed x := by
  rw [h]; exact fun e => hp (Except.error.inj e)

theorem NoCloseOfClosed.ne {β : Type} {x : Go β} {p : Panic} (hx : NoCloseOfClosed x)
    (h : x = .error p) : p ≠ .closeOfClosed :=
  fun e => hx (e ▸ h)

theorem NoCloseOfClosed.bind {β : Type} {x : Go α} {f : α → Go β} (hx : NoCloseOfClosed x)
    (hf : ∀ a, x = .ok a → NoCloseOfClosed (f a)) : NoCloseOfClosed (x >>= f) := by
  cases x with
  | error p => exact fun e => hx (by cases e; rfl)
  | ok a => exact hf a rfl

theorem bind_eq_ok {β : Type} {x : Go α} {f : α → Go β} {b : β} (h : (x >>= f) = .ok b) :
    ∃ a, x = .ok a ∧ f a = .ok b := by
  cases x with
  | error p => cases h
  | ok a => exact ⟨a, rfl, h⟩

theorem NoCloseOfClosed.map {β : Type} {x : Go α} (hx : NoCloseOfClosed x) (f : α → β) :
    NoCloseOfClosed (x.map f) := by
  cases x with
  | error p => exact fun e => hx (by cases e; rfl)
  | ok a => exact nofun

theorem noCloseOfClosed_index (s : List α) (i : Int) : NoCloseOfClosed (index s i) := by
  unfold index
  split
  · cases s[i.toNat]? <;> exact nofun
  · exact nofun

theorem noCloseOfClosed_set (s : List α) (i : Int) (v : α) : NoCloseOfClosed (set s i v) := by
  unfold set; split <;> exact nofun

theorem noCloseOfClosed_make [Inhabited α] (n : Int) : NoCloseOfClosed (make n : Go (List α)) := by
  unfold make; split <;> exact nofun

theorem noCloseOfClosed_mod (a b : Int) : NoCloseOfClosed (mod a b) := by
  unfold mod; split <;> exact nofun

/-! ### Bounds and division checks

`NoBoundsPanic x` says that `x` fails none of the checks Go makes on an index, a slice, a
`make` length or a divisor. Channels, maps and `nil` raise other panics, so their
operations have it outright; `index`, `mod` and `make` have it where their checks pass. -/

/-- `x` does not panic on a bounds, `make` or division check. -/
def NoBoundsPanic {β : Type} (x : Go β) : Prop := ∀ p, x = .error p → p.boundsCheck = false

theorem noBoundsPanic_of_ok {x : Go α} {a : α} (h : x = .ok a) : NoBoundsPanic x :=
  fun _ e => by rw [h] at e; cases e

theorem noBoundsPanic_error {p : Panic} (hp : p.boundsCheck = false) :
    NoBoundsPanic (.error p : Go α) :=
  fun _ e => by cases e; exact hp

theorem NoBoundsPanic.bind {β : Type} {x : Go α} {f : α → Go β} (hx : NoBoundsPanic x)
    (hf : ∀ a, x = .ok a → NoBoundsPanic (f a)) : NoBoundsPanic (x >>= f) := by
  cases x with
  | error p => exact fun _ e => by cases e; exact hx p rfl
  | ok a => exact hf a rfl

end Go

/-! ## Channels

A buffered channel of capacity `cap`. `sent` is a history variable: every value a send
ever put in, oldest first. The code never reads it; statements about what a client was
sent are stated with it. -/

/-- A buffered Go channel. -/
structure Chan (α : Type) where
  cap : Nat
  buf : List α
  closed : Bool
  sent : List α
  deriving Repr

namespace Chan

variable {α : Type}

/-- `make(chan T, cap)`. -/
def make (cap : Nat) : Chan α := ⟨cap, [], false, []⟩

instance : Inhabited (Chan α) := ⟨make 0⟩

/-- `select { case c <- v: default: }`: the channel with `v` queued, `none` when the buffer
is full. A send on a closed channel panics, `default` branch or not. -/
def trySend (c : Chan α) (v : α) : Go (Option (Chan α)) :=
  if c.closed then .error .sendOnClosed
  else if c.buf.length < c.cap then .ok (some { c with buf := c.buf ++ [v], sent := c.sent ++ [v] })
  else .ok none

/-- `select { case <-c: default: }`: drops the oldest queued value, if any. A closed, empty
channel is ready and yields the zero value; an open, empty one takes `default`. -/
def tryRecv (c : Chan α) : Chan α := { c with buf := c.buf.tail }

/-- `v, ok := <-c`: `none` while it would block; `some (none, c)` once closed and drained. -/
def recv (c : Chan α) : Option (Option α × Chan α) :=
  match c.buf with
  | v :: rest => some (some v, { c with buf := rest })
  | [] => if c.closed then some (none, c) else none

/-- `close(c)`. -/
def close (c : Chan α) : Go (Chan α) :=
  if c.closed then .error .closeOfClosed else .ok { c with closed := true }

@[simp] theorem make_closed (cap : Nat) : (make cap : Chan α).closed = false := rfl

theorem trySend_closed {c : Chan α} {v : α} {c' : Chan α} (h : c.trySend v = .ok (some c')) :
    c'.closed = c.closed := by
  unfold trySend at h
  split at h
  · cases h
  · split at h <;> cases h; rfl

theorem trySend_open {c : Chan α} (h : c.closed = false) (v : α) :
    ∃ r, c.trySend v = .ok r := by
  unfold trySend
  rw [if_neg (by simp [h])]
  split <;> exact ⟨_, rfl⟩

@[simp] theorem tryRecv_closed (c : Chan α) : c.tryRecv.closed = c.closed := rfl

@[simp] theorem close_ok {c : Chan α} (h : c.closed = false) :
    c.close = .ok { c with closed := true } := by
  simp [close, h]

theorem noCloseOfClosed_trySend (c : Chan α) (v : α) : Go.NoCloseOfClosed (c.trySend v) := by
  unfold trySend; split
  · exact nofun
  · split <;> exact nofun

theorem recv_closed {c c' : Chan α} {v : Option α} (h : c.recv = some (v, c')) :
    c'.closed = c.closed := by
  unfold recv at h
  split at h
  · cases h; rfl
  · split at h <;> cases h; rfl

/-- A value received was the head of the queue; receiving sends nothing. -/
theorem recv_some {c c' : Chan α} {v : α} (h : c.recv = some (some v, c')) :
    c.buf = v :: c'.buf ∧ c'.sent = c.sent := by
  unfold recv at h
  split at h
  · cases h; exact ⟨‹_›, rfl⟩
  · split at h <;> cases h

theorem noBoundsPanic_trySend (c : Chan α) (v : α) : Go.NoBoundsPanic (c.trySend v) := by
  unfold trySend; split
  · exact Go.noBoundsPanic_error rfl
  · split <;> exact Go.noBoundsPanic_of_ok rfl

theorem noBoundsPanic_close (c : Chan α) : Go.NoBoundsPanic c.close := by
  unfold close; split
  · exact Go.noBoundsPanic_error rfl
  · exact Go.noBoundsPanic_of_ok rfl

/-! ### What a queue delivers -/

/-- `c'` is `c` after sends, receives, drains or a close: whatever `L` a receiver took from `c`,
followed by what is still queued, stays, in order, among the values ever sent. -/
def Extends (c c' : Chan α) : Prop :=
  ∀ L, (L ++ c.buf).Sublist c.sent → (L ++ c'.buf).Sublist c'.sent

namespace Extends

variable {c c₁ c₂ : Chan α}

protected theorem rfl : c.Extends c := fun _ h => h

theorem trans (h₁ : c.Extends c₁) (h₂ : c₁.Extends c₂) : c.Extends c₂ := fun L h => h₂ L (h₁ L h)

theorem trySend {v : α} (h : c.trySend v = .ok (some c₁)) : c.Extends c₁ := by
  unfold Chan.trySend at h
  split at h
  · cases h
  split at h <;> cases h
  intro L hL
  simpa only [← List.append_assoc] using hL.append (List.Sublist.refl [v])

theorem trySend_getD {v : α} {r : Option (Chan α)} (h : c.trySend v = .ok r) :
    c.Extends (r.getD c) := by
  cases r with
  | none => exact .rfl
  | some _ => exact trySend h

theorem tryRecv : c.Extends c.tryRecv := fun L h =>
  ((List.tail_sublist c.buf).append_left L).trans h

theorem recv {v : Option α} (h : c.recv = some (v, c₁)) : c.Extends c₁ := by
  unfold Chan.recv at h
  split at h
  · cases h
    rename_i hb
    exact fun L hL => ((List.sublist_cons_self _ _).append_left L).trans (hb ▸ hL)
  · split at h <;> cases h
    exact .rfl

theorem close (h : c.close = .ok c₁) : c.Extends c₁ := by
  unfold Chan.close at h
  split at h <;> cases h
  exact .rfl

end Extends

end Chan

/-! ## Maps -/

/-- A Go map. `none` is the nil map: it reads as empty, and assigning to it panics. -/
abbrev GoMap (κ ν : Type) [DecidableEq κ] := Option (AList fun _ : κ => ν)

namespace GoMap

variable {κ ν : Type} [DecidableEq κ]

/-- `make(map[κ]ν)`. -/
def empty : GoMap κ ν := some ∅

/-- `v, ok := m[k]`. -/
def get (m : GoMap κ ν) (k : κ) : Option ν := m.bind (·.lookup k)

/-- `m[k] = v`. -/
def set (m : GoMap κ ν) (k : κ) (v : ν) : Go (GoMap κ ν) :=
  match m with
  | none => .error .nilMapAssignment
  | some a => .ok (some (a.insert k v))

/-- `delete(m, k)`. -/
def delete (m : GoMap κ ν) (k : κ) : GoMap κ ν := m.map (·.erase k)

/-- The entries a `range` over `m` visits. Go visits them in an unspecified order; where
the order matters, the model lets the environment choose. -/
def entries (m : GoMap κ ν) : List (Sigma fun _ : κ => ν) := m.elim [] (·.entries)

/-- The values a `range` over `m` visits. -/
def values (m : GoMap κ ν) : List ν := m.entries.map (·.2)

/-- `len(m)`. -/
def len (m : GoMap κ ν) : Nat := m.entries.length

@[simp] theorem get_none (k : κ) : get (none : GoMap κ ν) k = none := rfl
@[simp] theorem get_some (a : AList fun _ : κ => ν) (k : κ) : get (some a) k = a.lookup k := rfl
@[simp] theorem entries_none : entries (none : GoMap κ ν) = [] := rfl
@[simp] theorem entries_some (a : AList fun _ : κ => ν) : entries (some a) = a.entries := rfl
@[simp] theorem delete_none (k : κ) : delete (none : GoMap κ ν) k = none := rfl
@[simp] theorem delete_some (a : AList fun _ : κ => ν) (k : κ) :
    delete (some a) k = some (a.erase k) := rfl
theorem entries_erase (a : AList fun _ : κ => ν) (k : κ) : (a.erase k).entries = a.entries.kerase k :=
  rfl
@[simp] theorem set_none (k : κ) (v : ν) : set (none : GoMap κ ν) k v = .error .nilMapAssignment :=
  rfl
@[simp] theorem set_some (a : AList fun _ : κ => ν) (k : κ) (v : ν) :
    set (some a) k v = .ok (some (a.insert k v)) := rfl
@[simp] theorem empty_entries : entries (empty : GoMap κ ν) = [] := rfl

theorem len_eq_zero {m : GoMap κ ν} : m.len = 0 ↔ ∀ k, m.get k = none := by
  rcases m with _ | a
  · simp [len]
  · simp only [len, entries_some, List.length_eq_zero, get_some]
    constructor
    · intro h k
      exact AList.lookup_eq_none.mpr (fun hk => by simp [AList.mem_keys, AList.keys, h] at hk)
    · intro h
      rcases ha : a.entries with _ | ⟨⟨k, v⟩, rest⟩
      · rfl
      · have : k ∈ a := by simp [AList.mem_keys, AList.keys, ha]
        exact absurd (h k) (by simpa [AList.lookup_eq_none] using this)

theorem noCloseOfClosed_set (m : GoMap κ ν) (k : κ) (v : ν) : Go.NoCloseOfClosed (m.set k v) := by
  cases m <;> exact nofun

theorem noBoundsPanic_set (m : GoMap κ ν) (k : κ) (v : ν) : Go.NoBoundsPanic (m.set k v) := by
  cases m
  · exact Go.noBoundsPanic_error rfl
  · exact Go.noBoundsPanic_of_ok rfl

/-- `m[k] = v` keeps `v` and drops at most the value `k` held: a count over the values
grows by at most one, for `v`. -/
theorem countP_values_set {m m' : GoMap κ ν} {k : κ} {v : ν} (h : m.set k v = .ok m')
    (p : ν → Bool) : m'.values.countP p ≤ m.values.countP p + (if p v then 1 else 0) := by
  rcases m with _ | a
  · cases h
  · simp only [set_some, Except.ok.injEq] at h
    subst h
    have := ((List.kerase_sublist k a.entries).map (·.2)).countP_le p
    simp only [values, entries_some, AList.insert_entries, List.map_cons, List.countP_cons]
    omega

/-- `delete(m, k)` drops exactly the value `k` held. -/
theorem countP_values_delete {m : GoMap κ ν} {k : κ} {v : ν} (h : m.get k = some v)
    (p : ν → Bool) : (m.delete k).values.countP p + (if p v then 1 else 0) = m.values.countP p := by
  rcases m with _ | a
  · cases h
  · have hl : a.entries.dlookup k = some v := h
    have hk : k ∈ a.entries.keys := List.dlookup_isSome.mp (by rw [hl]; rfl)
    obtain ⟨b, l₁, l₂, -, he, hke⟩ := List.exists_of_kerase hk
    have hb : b = v := by
      have := List.mem_dlookup a.nodupKeys (he ▸ List.mem_append_right l₁ (List.mem_cons_self _ _))
      rw [hl] at this; exact (Option.some.inj this).symm
    simp only [values, delete_some, entries_some, entries_erase]
    rw [hke, he, hb]
    simp only [List.map_append, List.map_cons, List.countP_append, List.countP_cons]
    omega

theorem get_delete_ne {m : GoMap κ ν} {k k' : κ} (h : k' ≠ k) : (m.delete k).get k' = m.get k' := by
  cases m
  · rfl
  · exact AList.lookup_erase_ne h

/-- A read is a lookup among the entries a `range` visits, which have distinct keys. -/
theorem get_eq_dlookup (m : GoMap κ ν) (k : κ) : m.get k = m.entries.dlookup k := by
  cases m <;> rfl

theorem nodupKeys_entries (m : GoMap κ ν) : m.entries.NodupKeys := by
  cases m
  · exact List.nodupKeys_nil
  · exact AList.nodupKeys _

/-- `m[k] = v` answers `v` for `k` and what `m` answered for every other key. -/
theorem get_set {m m' : GoMap κ ν} {k : κ} {v : ν} (h : m.set k v = .ok m') (k' : κ) :
    m'.get k' = if k' = k then some v else m.get k' := by
  rcases m with _ | a
  · cases h
  · simp only [set_some, Except.ok.injEq] at h
    subst h
    split
    · subst_vars; exact AList.lookup_insert a
    · exact AList.lookup_insert_ne ‹_›

end GoMap

end TvGate
