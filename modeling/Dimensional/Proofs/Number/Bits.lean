import Mathlib
import Dimensional.Number.Binary

/-!
# Doubles and their bits

A double is its bits, with one pattern for what is not a number. So what the bits stand for determines
the double: the exponent and the mantissa of a finite one stand side by side below the sign.
-/

namespace Dimensional.Number

open Float.Model Float.Model.UnpackedFloat

/-- The layout of 64 bits. -/
abbrev binary64 : Float.Model.Format := Format.binary64

/-! ## The three fields -/

theorem toNat_unpackMantissa (b : BitVec binary64.numBits) :
    (unpackMantissa b).toNat = b.toNat % 2 ^ 52 := by
  simp [unpackMantissa]

theorem toNat_unpackExponent (b : BitVec binary64.numBits) :
    (unpackExponent b).toNat = b.toNat / 2 ^ 52 % 2 ^ 11 := by
  simp [unpackExponent, Nat.shiftRight_eq_div_pow]

theorem toNat_unpackSign (b : BitVec binary64.numBits) :
    (unpackSign b).toNat = b.toNat / 2 ^ 63 % 2 := by
  simp [unpackSign, Nat.shiftRight_eq_div_pow]

theorem toNat_packComponents (s : Sign) (e : BitVec 11) (m : BitVec 52) :
    (packComponents binary64 s e m).toNat =
      s.toBitVec.toNat * 2 ^ 63 + e.toNat * 2 ^ 52 + m.toNat := by
  rw [packComponents, BitVec.toNat_append, BitVec.toNat_append,
    ← Nat.shiftLeft_add_eq_or_of_lt m.isLt, ← Nat.shiftLeft_add_eq_or_of_lt e.isLt,
    Nat.shiftLeft_eq, Nat.shiftLeft_eq]
  omega

@[simp]
theorem toBitVec_ofBitVec : ∀ b : BitVec 1, (Sign.ofBitVec b).toBitVec = b := by
  decide

theorem packComponents_unpack (b : BitVec binary64.numBits) :
    packComponents binary64 (.ofBitVec (unpackSign b)) (unpackExponent b) (unpackMantissa b) = b := by
  apply BitVec.eq_of_toNat_eq
  rw [toNat_packComponents, toBitVec_ofBitVec, toNat_unpackSign, toNat_unpackExponent,
    toNat_unpackMantissa]
  have : b.toNat < 2 ^ 64 := b.isLt
  omega

/-! ## Packing what was unpacked -/

theorem log2_eq {m k : Nat} (hlow : 2 ^ k ≤ m) (hhigh : m < 2 ^ (k + 1)) : m.log2 = k := by
  have hne : m ≠ 0 := by
    have := Nat.two_pow_pos k
    omega
  have := (Nat.le_log2 hne).mpr hlow
  have := (Nat.log2_lt hne).mpr hhigh
  omega

theorem toNat_leading (m : BitVec 52) : (1#1 ++ m).toNat = 2 ^ 52 + m.toNat := by
  rw [BitVec.toNat_append, ← Nat.shiftLeft_add_eq_or_of_lt m.isLt]
  rfl

theorem pack_subnormal (s : Sign) (m : BitVec 52) (h : 0 < m.toNat) :
    UnpackedFloat.pack binary64 (.finite s m.toNat (-1074) h) = packComponents binary64 s 0 m := by
  have hlog : m.toNat.log2 + 1 ≠ binary64.mantissaBits := by
    have := (Nat.log2_lt (Nat.ne_of_gt h)).mpr m.isLt
    change m.toNat.log2 + 1 ≠ 53
    omega
  rw [UnpackedFloat.pack]
  dsimp only
  rw [if_neg (by decide), if_neg hlog, BitVec.ofNat_toNat, BitVec.setWidth_eq]
  rfl

theorem pack_normal (s : Sign) (e : BitVec 11) (m : BitVec 52) (hne : e ≠ -1)
    (h : 0 < (1#1 ++ m).toNat) :
    UnpackedFloat.pack binary64 (.finite s (1#1 ++ m).toNat (e.toNat - 1075) h) =
      packComponents binary64 s e m := by
  have hm := m.isLt
  have he : e.toNat + 1 < 2 ^ 11 := by
    have : e.toNat ≠ 2 ^ 11 - 1 := fun h => hne (BitVec.eq_of_toNat_eq h)
    have := e.isLt
    omega
  have hlog : (1#1 ++ m).toNat.log2 + 1 = binary64.mantissaBits := by
    have h52 : (1#1 ++ m).toNat.log2 = 52 := by
      apply log2_eq <;> rw [toNat_leading] <;> omega
    rw [h52]
    rfl
  have hbiased : ((e.toNat - 1075 : Int) + binary64.exponentBias +
      binary64.mantissaBitsWithoutImplicit).toNat = e.toNat := by
    change ((e.toNat - 1075 : Int) + (1023 : Nat) + (52 : Nat)).toNat = e.toNat
    omega
  rw [UnpackedFloat.pack]
  dsimp only
  rw [hbiased, if_neg (Nat.not_le.mpr he), if_pos hlog, BitVec.ofNat_toNat, BitVec.setWidth_eq]
  congr 1
  apply BitVec.eq_of_toNat_eq
  rw [BitVec.toNat_ofNat, toNat_leading]
  omega

theorem pack_unpack {b : BitVec binary64.numBits} (h : binary64.Valid b) :
    UnpackedFloat.pack binary64 (UnpackedFloat.unpack binary64 b) = b := by
  have hb := packComponents_unpack b
  unfold UnpackedFloat.unpack
  dsimp only
  split_ifs with hexp hmant hexp0 hmant0
  · rw [hexp, hmant] at hb
    exact hb
  · -- the only pattern that is left for what is not a number
    exact (h.eq_packedNaN hexp hmant).symm
  · rw [hexp0, hmant0] at hb
    exact hb
  · rw [hexp0] at hb ⊢
    exact (pack_subnormal _ _ _).trans hb
  · exact (pack_normal _ _ _ hexp _).trans hb

@[simp]
theorem ofBits_toBits (x : Float) : Float.ofBits x.toBits = x := by
  obtain ⟨bits, hvalid⟩ := x
  simp only [Float.ofBits, Float.toBits, Float.Model.ofBits, Float.Model.pack, pack_unpack hvalid,
    UInt64.ofBitVec_toBitVec]

/-! ## What the bits stand for -/

/-- The bit of a sign. -/
def signBit (negative : Bool) : Nat :=
  if negative then 2 ^ 63 else 0

/-- The mantissa and the exponent of a double. Only at the least exponent the mantissa may be small. -/
structure Stored (m : Nat) (e : Int) : Prop where
  mantissa_lt : m < 2 ^ 53
  exponent_ge : -1074 ≤ e
  exponent_le : e ≤ 971
  normal : 2 ^ 52 ≤ m ∨ e = -1074

theorem signBit_eq {bits : Nat} (h : bits < 2 ^ 64) :
    signBit (bits / 2 ^ 63 % 2 = 1) = bits / 2 ^ 63 * 2 ^ 63 := by
  unfold signBit
  simp only [decide_eq_true_eq]
  split <;> omega

theorem ofBits_infinite {bits : Nat} (h64 : bits < 2 ^ 64) {negative : Bool}
    (h : Binary.ofBits bits = .infinite negative) : bits = 2047 * 2 ^ 52 + signBit negative := by
  unfold Binary.ofBits at h
  dsimp only at h
  split_ifs at h
  cases h
  rw [signBit_eq h64]
  omega

theorem ofBits_finite {bits : Nat} (h64 : bits < 2 ^ 64) {negative : Bool} {m : Nat} {e : Int}
    (h : Binary.ofBits bits = .finite negative m e) :
    bits = (e + 1074).toNat * 2 ^ 52 + m + signBit negative ∧ Stored m e := by
  unfold Binary.ofBits at h
  dsimp only at h
  split_ifs at h <;> cases h <;> rw [signBit_eq h64]
  · exact ⟨by omega, by omega, by omega, by omega, by omega⟩
  · exact ⟨by omega, by omega, by omega, by omega, by omega⟩

theorem ofBits_nan {bits : Nat} (h : Binary.ofBits bits = .nan) :
    bits / 2 ^ 52 % 2 ^ 11 = 2 ^ 11 - 1 ∧ bits % 2 ^ 52 ≠ 0 := by
  unfold Binary.ofBits at h
  dsimp only at h
  split_ifs at h with hexp hmant
  exact ⟨hexp, hmant⟩

/-! ## Doubles from their values -/

theorem toNat_toBits_lt (x : Float) : x.toBits.toNat < 2 ^ 64 := x.toBits.toBitVec.isLt

theorem toFloat_of_nan {x : Float} (h : Binary.ofFloat x = .nan) : Binary.nan.toFloat = x := by
  obtain ⟨hexp, hmant⟩ := ofBits_nan h
  have hbits : x.toBits.toBitVec = packedNaN binary64 := by
    apply x.toModel.valid.eq_packedNaN
    · apply BitVec.eq_of_toNat_eq
      rw [toNat_unpackExponent]
      exact hexp
    · intro h0
      have := congrArg BitVec.toNat h0
      rw [toNat_unpackMantissa] at this
      exact hmant this
  rw [← ofBits_toBits x, ← UInt64.ofBitVec_toBitVec x.toBits, hbits]
  rfl

theorem ofBits_ofNat_of_eq {x : Float} {bits : Nat} (h : x.toBits.toNat = bits) :
    Float.ofBits (.ofNat bits) = x := by
  rw [← h, UInt64.ofNat_toNat, ofBits_toBits]

theorem toFloat_of_infinite {x : Float} {negative : Bool} (h : Binary.ofFloat x = .infinite negative) :
    (Binary.infinite negative).toFloat = x := by
  rw [← ofBits_ofNat_of_eq (ofBits_infinite (toNat_toBits_lt x) h)]
  cases negative <;> rfl

theorem nearest_of_finite {x : Float} {negative : Bool} {m : Nat} {e : Int}
    (h : Binary.ofFloat x = .finite negative m e) {n d : Nat}
    (hbits : Binary.nearestBits n d = (e + 1074).toNat * 2 ^ 52 + m) :
    Binary.nearest negative n d = x := by
  rw [← ofBits_ofNat_of_eq (ofBits_finite (toNat_toBits_lt x) h).1, Binary.nearest, hbits, signBit]

theorem stored_of_finite {x : Float} {negative : Bool} {m : Nat} {e : Int}
    (h : Binary.ofFloat x = .finite negative m e) : Stored m e :=
  (ofBits_finite (toNat_toBits_lt x) h).2

end Dimensional.Number
