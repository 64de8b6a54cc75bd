import TvGate.Runtime

/-!
# RTP payload extraction

`rtpPayloadGet` and `processRTPPacket` of `stream/udp_rtp.go`. The receive loop runs every
datagram through `processRTPPacket` before broadcasting it: a raw MPEG-TS datagram, or one
that does not parse as RTP, passes through unchanged; otherwise the RTP header, extension
and padding are cut off and the payload is copied into a new slice.

`processRTPPacket_in_bounds` is the safety statement: on every byte sequence, both
functions stay within bounds, and what comes back is the input or a copy of one window of
it past the fixed header.
-/

namespace TvGate.Stream

open Go

/-- `P_MPGA`: the RTP payload type of MPEG audio. -/
def pMPGA : UInt8 := 0x0E

/-- `P_MPGV`: the RTP payload type of MPEG video. -/
def pMPGV : UInt8 := 0x20

/-- `RTP_VERSION`. -/
def rtpVersion : UInt8 := 2

/-! ## `rtpPayloadGet` -/

/-- The extension step of `rtpPayloadGet`: when the `X` bit of the first byte is set, the
4-byte extension header and its `extLen` words are skipped. -/
def rtpSkipExtension (buf : List UInt8) (startOff : Int) : Go (Except String Int) := do
  let b0 ← index buf 0
  if (b0 >>> 4) &&& 0x01 = 1 then
    if startOff + 4 > buf.length then pure (.error "buffer too small for extension header")
    else do
      let extLen ← bigEndianUint16 (← slice buf (startOff + 2) (startOff + 4))
      pure (.ok (startOff + 4 + 4 * extLen.toNat))
  else pure (.ok startOff)

/-- The padding step of `rtpPayloadGet`: when the `P` bit is set, the last byte counts the
padding. -/
def rtpPadding (buf : List UInt8) : Go Int := do
  let b0 ← index buf 0
  if (b0 >>> 5) &&& 0x01 = 1 then
    if buf.length > 0 then pure ((← index buf (buf.length - 1)).toNat : Int) else pure 0
  else pure 0

/-- `rtpPayloadGet`: the offset of the payload, and the number of padding bytes after it.
The inner `Except` is the function's `error` result. -/
def rtpPayloadGet (buf : List UInt8) : Go (Except String (Int × Int)) :=
  if (buf.length : Int) < 12 then pure (.error "buffer too small") else do
  let b0 ← index buf 0
  if (b0 >>> 6) &&& 0x03 ≠ rtpVersion then pure (.error "invalid RTP version") else do
  let b0 ← index buf 0
  match ← rtpSkipExtension buf (12 + 4 * (b0 &&& 0x0F).toNat) with
  | .error e => pure (.error e)
  | .ok startOff => do
    let endOff ← rtpPadding buf
    if startOff + endOff > buf.length then pure (.error "invalid RTP packet structure")
    else pure (.ok (startOff, endOff))

/-! ## `processRTPPacket` -/

/-- What `processRTPPacket` returns: the slice it was passed, or a slice it made with
`make` and filled with `copy`. -/
inductive Payload where
  | input
  | copy (bytes : List UInt8)
  deriving DecidableEq, Repr

/-- The bytes a `Payload` holds, given the input. -/
def Payload.bytes (data : List UInt8) : Payload → List UInt8
  | .input => data
  | .copy b => b

/-- The MPEG-on-RTP skip of `processRTPPacket`: for payload types `P_MPGA` and `P_MPGV`,
four more header bytes, when that leaves a non-empty window. -/
def mpegSkip (payloadType : UInt8) (startOff endOff : Int) (len : Int) : Int :=
  if (payloadType = pMPGA ∨ payloadType = pMPGV) ∧ startOff + 4 < len - endOff then startOff + 4
  else startOff

/-- `processRTPPacket`. -/
def processRTPPacket (data : List UInt8) : Go Payload :=
  if (data.length : Int) < 188 then pure .input else do
  let d0 ← index data 0
  if d0 = 0x47 then pure .input else
  if (data.length : Int) < 12 then pure .input else do
  let d0 ← index data 0
  if (d0 >>> 6) &&& 0x03 ≠ rtpVersion then pure .input else do
  match ← rtpPayloadGet data with
  | .error _ => pure .input
  | .ok (startOff, endOff) => do
    let payloadType := (← index data 1) &&& 0x7F
    let startOff := mpegSkip payloadType startOff endOff data.length
    if startOff < data.length ∧ endOff < data.length ∧ startOff < data.length - endOff then
      if (data.length : Int) - startOff - endOff < 188 then pure .input else do
      let payload ← make (data.length - startOff - endOff)
      let window ← slice data startOff (data.length - endOff)
      pure (.copy (Go.copy payload window))
    else pure .input

/-! ## Bounds

Each step's lemma says the step does not panic and bounds what it returns; the theorem
for `processRTPPacket` puts them together. -/

/-- The padding count `rtpPadding` may read: zero, or the last byte. -/
def PadCount (buf : List UInt8) (e : Int) : Prop :=
  e = 0 ∨ buf.getLast?.map (fun b => (b.toNat : Int)) = some e

theorem PadCount.nonneg {buf : List UInt8} {e : Int} (h : PadCount buf e) : 0 ≤ e := by
  rcases h with rfl | h
  · exact le_rfl
  · rcases hb : buf.getLast? with _ | b <;> simp [hb] at h; omega

theorem rtpSkipExtension_spec (buf : List UInt8) (startOff : Int) (h0 : 0 ≤ startOff)
    (hlen : 1 ≤ buf.length) :
    ∃ r, rtpSkipExtension buf startOff = .ok r ∧ ∀ s, r = .ok s → startOff ≤ s := by
  obtain ⟨b0, hb0⟩ := index_ok buf 0 le_rfl (by omega)
  unfold rtpSkipExtension
  simp only [hb0, bind, Except.bind]
  split
  · split
    · exact ⟨_, rfl, by simp⟩
    · rw [slice_eq ⟨by omega, by omega, by omega⟩]
      have h2 : ((buf.take (startOff + 4).toNat).drop (startOff + 2).toNat).length = 2 := by
        simp; omega
      obtain ⟨hi, lo, hhl⟩ : ∃ hi lo, (buf.take (startOff + 4).toNat).drop (startOff + 2).toNat
          = [hi, lo] := by
        rcases hl : (buf.take (startOff + 4).toNat).drop (startOff + 2).toNat with
          _ | ⟨hi, _ | ⟨lo, _ | ⟨_, _⟩⟩⟩ <;> simp_all
      obtain ⟨v, hv, -⟩ := bigEndianUint16_pair hi lo
      simp only [hhl, hv]
      exact ⟨_, rfl, by simp; omega⟩
  · exact ⟨_, rfl, by simp⟩

theorem rtpPadding_spec (buf : List UInt8) (hlen : 1 ≤ buf.length) :
    ∃ e, rtpPadding buf = .ok e ∧ PadCount buf e := by
  obtain ⟨b0, hb0⟩ := index_ok buf 0 le_rfl (by omega)
  unfold rtpPadding
  simp only [hb0, bind, Except.bind]
  split
  · have hlast : buf[buf.length - 1]? = buf.getLast? := by
      rw [List.getLast?_eq_getElem?]
    obtain ⟨b, hb⟩ : ∃ b, buf.getLast? = some b := by
      rcases h : buf.getLast? with _ | b
      · simp [List.getLast?_eq_none_iff] at h; simp [h] at hlen
      · exact ⟨b, rfl⟩
    have hidx : index buf ((buf.length : Int) - 1) = .ok b := by
      apply index_eq (by omega)
      rw [← hb, ← hlast]; congr 1; omega
    rw [if_pos (by omega), hidx]
    exact ⟨_, rfl, .inr (by simp [hb])⟩
  · exact ⟨0, rfl, .inl rfl⟩

/-- `rtpPayloadGet` never panics, and a payload offset it reports lies past the fixed
header, with the padding count read from the last byte. -/
theorem rtpPayloadGet_spec (buf : List UInt8) :
    ∃ r, rtpPayloadGet buf = .ok r ∧
      ∀ s e, r = .ok (s, e) → 12 ≤ s ∧ PadCount buf e ∧ s + e ≤ buf.length := by
  unfold rtpPayloadGet
  split
  · exact ⟨_, rfl, by simp⟩
  obtain ⟨b0, hb0⟩ := index_ok buf 0 le_rfl (by omega)
  simp only [hb0, bind, Except.bind]
  split
  · exact ⟨_, rfl, by simp⟩
  obtain ⟨r, hr, hs⟩ := rtpSkipExtension_spec buf (12 + 4 * ((b0 &&& 0x0F).toNat : Int))
    (by omega) (by omega)
  obtain ⟨e, he, hpad⟩ := rtpPadding_spec buf (by omega)
  rw [hr]
  rcases r with msg | s
  · exact ⟨_, rfl, by simp⟩
  · simp only [he]
    have h12 := hs s rfl
    split
    · exact ⟨_, rfl, by simp⟩
    · exact ⟨_, rfl, fun s' e' h => by
        simp only [Except.ok.injEq, Prod.mk.injEq] at h
        obtain ⟨rfl, rfl⟩ := h
        exact ⟨by omega, hpad, by omega⟩⟩

/-- `processRTPPacket` never panics, and returns its input or a copy of one window of it. -/
theorem processRTPPacket_spec (d : List UInt8) :
    ∃ p, processRTPPacket d = .ok p ∧
      (p = .input ∨ ∃ s e window, 12 ≤ s ∧ PadCount d e ∧ 188 ≤ d.length - s - e ∧
        slice d s (d.length - e) = .ok window ∧ p = .copy window) := by
  obtain ⟨r, hr, hspec⟩ := rtpPayloadGet_spec d
  unfold processRTPPacket
  split
  · exact ⟨_, rfl, .inl rfl⟩
  obtain ⟨d0, hd0⟩ := index_ok d 0 le_rfl (by omega)
  obtain ⟨d1, hd1⟩ := index_ok d 1 (by omega) (by omega)
  simp only [hd0, bind, Except.bind]
  split
  · exact ⟨_, rfl, .inl rfl⟩
  split
  · exact ⟨_, rfl, .inl rfl⟩
  split
  · exact ⟨_, rfl, .inl rfl⟩
  rw [hr]
  rcases r with msg | ⟨s, e⟩
  · exact ⟨_, rfl, .inl rfl⟩
  obtain ⟨h12, hpad, hle⟩ := hspec s e rfl
  have he0 := hpad.nonneg
  simp only [hd1]
  generalize hs' : mpegSkip (d1 &&& 0x7F) s e d.length = s'
  have hs's : s ≤ s' := by rw [← hs']; unfold mpegSkip; split <;> omega
  split
  · split
    · exact ⟨_, rfl, .inl rfl⟩
    · rename_i hwin hsize
      rw [make_eq (by omega), slice_eq ⟨by omega, by omega, by omega⟩]
      refine ⟨_, rfl, .inr ⟨s', e, _, by omega, hpad, by omega,
        slice_eq ⟨by omega, by omega, by omega⟩, ?_⟩⟩
      rw [copy_of_length_eq]
      simp; omega
  · exact ⟨_, rfl, .inl rfl⟩

/-- **Extraction stays in bounds.** For every byte sequence `d`, `rtpPayloadGet` and
`processRTPPacket` index and slice `d` within bounds, and `processRTPPacket d` is `d`
itself or a fresh copy of the window `d[s : len d - e]`, where `s` is past the fixed
header, `e` is the last byte or zero, and the window holds at least one TS packet. -/
theorem processRTPPacket_in_bounds (d : List UInt8) :
    (∃ r, rtpPayloadGet d = .ok r) ∧
    ∃ p, processRTPPacket d = .ok p ∧
      (p = .input ∨ ∃ s e window, 12 ≤ s ∧ PadCount d e ∧ 188 ≤ d.length - s - e ∧
        slice d s (d.length - e) = .ok window ∧ p = .copy window) :=
  ⟨(rtpPayloadGet_spec d).imp fun _ h => h.1, processRTPPacket_spec d⟩

/-- Datagrams shorter than one TS packet, and raw MPEG-TS datagrams (sync byte `0x47`
first), pass through `processRTPPacket` as they are. -/
theorem processRTPPacket_passthrough (data : List UInt8)
    (h : data.length < 188 ∨ data.head? = some 0x47) : processRTPPacket data = .ok .input := by
  unfold processRTPPacket
  by_cases hs : (data.length : Int) < 188
  · rw [if_pos hs]; rfl
  · have hd : data[0]? = some 0x47 := by
      rw [← List.head?_eq_getElem?]; exact h.resolve_left (by omega)
    rw [if_neg hs, index_eq le_rfl hd]
    rfl

end TvGate.Stream
