import TvGate.Stream.Rtp

/-!
# Well-formed RTP datagrams

An RTP version-2 datagram (RFC 3550 §5.1) as a sender lays it out: the 12-byte fixed
header, `CC` CSRC words, an optional header extension, the payload, and optional padding
whose last byte counts it. `RtpPacket` carries the layout's length constraints as fields,
so every value is a well-formed datagram, and `RtpPacket.encode` gives its bytes.

`processRTPPacket_encode` is the round trip: on every encoded datagram the extractor
returns exactly the payload (less the 4-byte MPEG header for `P_MPGA` and `P_MPGV`), or
the datagram itself when that payload is shorter than one TS packet.
-/

namespace TvGate.Stream

open Go

/-- A 16-bit field, big-endian. -/
def be16 (v : UInt16) : List UInt8 := [(v >>> 8).toUInt8, v.toUInt8]

theorem be16_toNat (v : UInt16) :
    (v >>> 8).toUInt8.toNat * 256 + v.toUInt8.toNat = v.toNat := by
  have hv : v.toNat < 65536 := v.toNat_lt_size
  show (v.toNat >>> 8) % 256 * 256 + v.toNat % 256 = v.toNat
  rw [Nat.shiftRight_eq_div_pow]
  omega

/-- A header extension: a profile-defined 16-bit field, a length `L` in 32-bit words, and
`L` words. -/
structure RtpExtension where
  profile : UInt16
  length : UInt16
  body : List UInt8
  body_length : body.length = 4 * length.toNat

/-- The bytes of a header extension. -/
def RtpExtension.bytes (e : RtpExtension) : List UInt8 := be16 e.profile ++ be16 e.length ++ e.body

/-- Padding of `count` bytes, the last of which is `count` itself. -/
structure RtpPadding where
  filler : List UInt8
  count : UInt8
  count_eq : count.toNat = filler.length + 1

/-- The bytes of the padding. -/
def RtpPadding.bytes (q : RtpPadding) : List UInt8 := q.filler ++ [q.count]

/-- A well-formed RTP version-2 datagram. `fixed` holds the sequence number, timestamp and
SSRC; the `P` and `X` bits of the header are set exactly when there is padding and an
extension. -/
structure RtpPacket where
  marker : Bool
  payloadType : Fin 128
  csrcCount : Fin 16
  fixed : List UInt8
  fixed_length : fixed.length = 10
  csrc : List UInt8
  csrc_length : csrc.length = 4 * csrcCount.val
  extension : Option RtpExtension
  payload : List UInt8
  padding : Option RtpPadding

/-- The first header byte: version 2, then the `P` and `X` bits, then `CC`. -/
def rtpByte0 (padding extension : Bool) (cc : Fin 16) : UInt8 :=
  0x80 ||| (if padding then 0x20 else 0) ||| (if extension then 0x10 else 0) ||| cc.val.toUInt8

/-- The second header byte: the marker bit, then the payload type. -/
def rtpByte1 (marker : Bool) (pt : Fin 128) : UInt8 := (if marker then 0x80 else 0) ||| pt.val.toUInt8

namespace RtpPacket

/-- Everything before the payload. -/
def header (p : RtpPacket) : List UInt8 :=
  rtpByte0 p.padding.isSome p.extension.isSome p.csrcCount :: rtpByte1 p.marker p.payloadType ::
    (p.fixed ++ p.csrc ++ (p.extension.map RtpExtension.bytes).getD [])

/-- The padding bytes, if any. -/
def paddingBytes (p : RtpPacket) : List UInt8 := (p.padding.map RtpPadding.bytes).getD []

/-- The datagram's bytes. -/
def encode (p : RtpPacket) : List UInt8 := p.header ++ p.payload ++ p.paddingBytes

/-- Where the payload starts. -/
def headerLength (p : RtpPacket) : Nat :=
  12 + 4 * p.csrcCount.val + (p.extension.elim 0 fun e => 4 + 4 * e.length.toNat)

/-- How many padding bytes end the datagram. -/
def padLength (p : RtpPacket) : Nat := p.padding.elim 0 fun q => q.count.toNat

theorem header_length (p : RtpPacket) : p.header.length = p.headerLength := by
  rcases hext : p.extension with _ | e
  · simp [header, headerLength, hext, p.fixed_length, p.csrc_length]; omega
  · simp [header, headerLength, hext, p.fixed_length, p.csrc_length, RtpExtension.bytes, be16,
      e.body_length]; omega

theorem paddingBytes_length (p : RtpPacket) : p.paddingBytes.length = p.padLength := by
  rcases hpad : p.padding with _ | q
  · simp [paddingBytes, padLength, hpad]
  · simp [paddingBytes, padLength, hpad, RtpPadding.bytes, q.count_eq]

theorem encode_length (p : RtpPacket) :
    p.encode.length = p.headerLength + p.payload.length + p.padLength := by
  simp [encode, header_length, paddingBytes_length, Nat.add_assoc]

/-! ## Reading the header back -/

@[simp] theorem rtpByte0_version (pd x : Bool) (cc : Fin 16) :
    (rtpByte0 pd x cc >>> 6) &&& 0x03 = rtpVersion := by
  revert pd x cc; decide

@[simp] theorem rtpByte0_xbit (pd x : Bool) (cc : Fin 16) :
    (rtpByte0 pd x cc >>> 4) &&& 0x01 = if x then 1 else 0 := by
  revert pd x cc; decide

@[simp] theorem rtpByte0_pbit (pd x : Bool) (cc : Fin 16) :
    (rtpByte0 pd x cc >>> 5) &&& 0x01 = if pd then 1 else 0 := by
  revert pd x cc; decide

@[simp] theorem rtpByte0_cc (pd x : Bool) (cc : Fin 16) :
    (rtpByte0 pd x cc &&& 0x0F).toNat = cc.val := by
  revert pd x cc; decide

@[simp] theorem rtpByte0_ne_sync (pd x : Bool) (cc : Fin 16) : rtpByte0 pd x cc ≠ 0x47 := by
  revert pd x cc; decide

/-- The payload types the extractor treats as MPEG are `0x0E` and `0x20`. -/
theorem rtpByte1_mpeg (m : Bool) (pt : Fin 128) :
    (rtpByte1 m pt &&& 0x7F = pMPGA ∨ rtpByte1 m pt &&& 0x7F = pMPGV) ↔
      (pt.val = 0x0E ∨ pt.val = 0x20) := by
  revert m pt; decide

theorem index_encode_zero (p : RtpPacket) :
    index p.encode 0 = .ok (rtpByte0 p.padding.isSome p.extension.isSome p.csrcCount) :=
  index_eq le_rfl (by simp [encode, header])

theorem index_encode_one (p : RtpPacket) :
    index p.encode 1 = .ok (rtpByte1 p.marker p.payloadType) :=
  index_eq (by omega) (by simp [encode, header])

/-- The two bytes at `pre.length + 2` of a list. -/
theorem take_drop_mid {α : Type} (pre rest : List α) (a b c d : α) :
    ((pre ++ a :: b :: c :: d :: rest).take (pre.length + 4)).drop (pre.length + 2) = [c, d] := by
  induction pre with
  | nil => rfl
  | cons x pre ih => simpa [Nat.add_right_comm _ 1] using ih

theorem rtpSkipExtension_encode (p : RtpPacket) :
    rtpSkipExtension p.encode (12 + 4 * (p.csrcCount.val : Int)) = .ok (.ok p.headerLength) := by
  have hlen := encode_length p
  unfold rtpSkipExtension
  simp only [index_encode_zero, bind, Except.bind, rtpByte0_xbit]
  rcases hext : p.extension with _ | e
  · simp [headerLength, hext, pure, Except.pure]
  obtain ⟨pre, hsplit, hpre⟩ : ∃ pre : List UInt8, p.encode = pre ++
      (e.profile >>> 8).toUInt8 :: e.profile.toUInt8 :: (e.length >>> 8).toUInt8 ::
        e.length.toUInt8 :: (e.body ++ (p.payload ++ p.paddingBytes)) ∧
      pre.length = 12 + 4 * p.csrcCount.val :=
    ⟨rtpByte0 p.padding.isSome true p.csrcCount :: rtpByte1 p.marker p.payloadType ::
        (p.fixed ++ p.csrc), by simp [encode, header, hext, RtpExtension.bytes, be16],
      by simp [p.fixed_length, p.csrc_length]; omega⟩
  simp only [headerLength, hext, Option.elim] at hlen ⊢
  have hslice : slice p.encode (12 + 4 * (p.csrcCount.val : Int) + 2)
      (12 + 4 * (p.csrcCount.val : Int) + 4) = .ok (be16 e.length) := by
    rw [slice_eq ⟨by omega, by omega, by omega⟩,
      show (12 + 4 * (p.csrcCount.val : Int) + 4).toNat = pre.length + 4 by omega,
      show (12 + 4 * (p.csrcCount.val : Int) + 2).toNat = pre.length + 2 by omega, hsplit,
      take_drop_mid]
    rfl
  obtain ⟨v, hv, hvn⟩ := bigEndianUint16_pair (e.length >>> 8).toUInt8 e.length.toUInt8
  rw [if_pos (by simp), if_neg (by omega), hslice]
  simp only [be16, hv, pure, Except.pure, Except.ok.injEq]
  rw [hvn, be16_toNat]
  omega

theorem rtpPadding_encode (p : RtpPacket) : rtpPadding p.encode = .ok p.padLength := by
  unfold rtpPadding
  simp only [index_encode_zero, bind, Except.bind, rtpByte0_pbit]
  rcases hpad : p.padding with _ | q
  · simp [padLength, hpad, pure, Except.pure]
  have hsplit : p.encode = (p.header ++ p.payload ++ q.filler) ++ [q.count] := by
    simp [encode, paddingBytes, hpad, RtpPadding.bytes]
  have hlast : index p.encode (p.encode.length - 1) = .ok q.count := by
    rw [hsplit]
    exact index_concat_last _ _
  rw [if_pos (by simp), if_pos (by simp [encode, header]), hlast]
  simp [padLength, hpad, pure, Except.pure]

theorem rtpPayloadGet_encode (p : RtpPacket) :
    rtpPayloadGet p.encode = .ok (.ok (p.headerLength, p.padLength)) := by
  have hlen := encode_length p
  unfold rtpPayloadGet
  rw [if_neg (by simp [headerLength] at hlen ⊢; omega)]
  simp only [index_encode_zero, bind, Except.bind, rtpByte0_version, rtpByte0_cc, ne_eq,
    not_true_eq_false, if_false, rtpSkipExtension_encode, rtpPadding_encode]
  rw [if_neg (by omega)]
  rfl

/-- The window `processRTPPacket` copies out of an encoded datagram. -/
theorem slice_encode (p : RtpPacket) (k : Nat) (hk : k ≤ p.payload.length) :
    slice p.encode (p.headerLength + k) (p.encode.length - p.padLength) = .ok (p.payload.drop k) := by
  have hlen := encode_length p
  rw [slice_eq ⟨by omega, by omega, by omega⟩]
  have htake : p.encode.take ((p.encode.length : Int) - p.padLength).toNat =
      p.header ++ p.payload := by
    rw [show ((p.encode.length : Int) - p.padLength).toNat = (p.header ++ p.payload).length by
      simp [header_length]; omega]
    exact List.take_left _ _
  rw [htake, show ((p.headerLength : Int) + k).toNat = p.header.length + k by
    rw [header_length]; omega]
  simp [List.drop_append_eq_append_drop, ← List.drop_drop]

/-- **The extractor returns the payload of every well-formed RTP datagram**: the payload
itself when it holds a TS packet (188 bytes) or more; for MPEG audio or video, the payload
less its 4-byte MPEG header when that still holds 188 bytes; otherwise the datagram. -/
theorem processRTPPacket_encode (p : RtpPacket) :
    processRTPPacket p.encode = .ok
      (if p.payloadType.val = 0x0E ∨ p.payloadType.val = 0x20 then
        if 192 ≤ p.payload.length then .copy (p.payload.drop 4) else .input
      else if 188 ≤ p.payload.length then .copy p.payload else .input) := by
  have hlen := encode_length p
  unfold processRTPPacket
  by_cases hshort : (p.encode.length : Int) < 188
  · rw [if_pos hshort]
    split_ifs <;> first | rfl | omega
  rw [if_neg hshort]
  simp only [index_encode_zero, index_encode_one, bind, Except.bind, rtpByte0_ne_sync, if_false,
    rtpByte0_version, ne_eq, not_true_eq_false, rtpPayloadGet_encode]
  rw [if_neg (by omega)]
  have hskip : mpegSkip (rtpByte1 p.marker p.payloadType &&& 0x7F) p.headerLength p.padLength
      p.encode.length = p.headerLength + (if (p.payloadType.val = 0x0E ∨ p.payloadType.val = 0x20) ∧
        4 < p.payload.length then 4 else 0 : Nat) := by
    unfold mpegSkip
    simp only [rtpByte1_mpeg]
    split_ifs <;> first | rfl | omega
  have hcopy : ∀ k, k ≤ p.payload.length → 188 ≤ p.payload.length - k →
      (do let v ← make (p.encode.length - (p.headerLength + k : Int) - p.padLength)
          let w ← slice p.encode (p.headerLength + k : Int) (p.encode.length - p.padLength)
          pure (Payload.copy (Go.copy v w)) : Go Payload) = .ok (.copy (p.payload.drop k)) := by
    intro k hk h188
    rw [make_eq (by omega)]
    simp only [bind, Except.bind, slice_encode p k hk, pure, Except.pure]
    rw [copy_of_length_eq (by simp; omega)]
  rw [hskip]
  by_cases hpt : p.payloadType.val = 0x0E ∨ p.payloadType.val = 0x20
  · by_cases h4 : 4 < p.payload.length
    · simp only [hpt, h4, and_self, if_true, Int.Nat.cast_ofNat_Int]
      rw [if_pos (by omega)]
      by_cases h192 : 192 ≤ p.payload.length
      · rw [if_neg (by omega), if_pos h192]
        exact_mod_cast hcopy 4 (by omega) (by omega)
      · rw [if_pos (by omega), if_neg h192]; rfl
    · simp only [hpt, h4, and_false, if_false, if_true, Int.Nat.cast_ofNat_Int, Int.add_zero]
      split_ifs <;> first | rfl | omega
  · simp only [hpt, false_and, if_false, Int.Nat.cast_ofNat_Int, Int.add_zero]
    by_cases h188 : 188 ≤ p.payload.length
    · rw [if_pos (by omega), if_neg (by omega), if_pos h188]
      exact_mod_cast hcopy 0 (by omega) (by omega)
    · rw [if_neg h188]
      split_ifs <;> first | rfl | omega

end RtpPacket

end TvGate.Stream
