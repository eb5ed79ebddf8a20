import ExtensionHost.Memory.Slice

/-!
# Packed slices

A slice travels to the guest as one word, and nothing of it is lost.

## Main definitions

* `Slice.Covers`, the positions of a slice

## Main results

* `Slice.unpack_pack`
-/

namespace ExtensionHost

namespace Slice

/-- The positions of a slice. -/
def Covers (s : Slice) (i : Nat) : Prop := s.ptr.toNat ≤ i ∧ i < s.ptr.toNat + s.len.toNat

instance (s : Slice) (i : Nat) : Decidable (s.Covers i) :=
  inferInstanceAs (Decidable (_ ∧ _))

/-- The two halves of a packed slice do not overlap, so that they add up. -/
theorem toNat_pack (s : Slice) : s.pack.toNat = s.ptr.toNat * UInt32.size + s.len.toNat := by
  have hptr := s.ptr.toNat_lt
  have hlen : s.len.toNat < 2 ^ 32 := s.len.toNat_lt
  have hshift : (s.ptr.toUInt64 <<< 32).toNat = s.ptr.toNat <<< 32 := by
    rw [UInt64.toNat_shiftLeft, UInt32.toNat_toUInt64]
    refine Nat.mod_eq_of_lt ?_
    show s.ptr.toNat <<< 32 < 2 ^ 64
    rw [Nat.shiftLeft_eq]
    omega
  rw [pack, UInt64.toNat_or, hshift, UInt32.toNat_toUInt64, ← Nat.shiftLeft_add_eq_or_of_lt hlen]
  exact congrArg (· + s.len.toNat) (Nat.shiftLeft_eq ..)

/-- A slice is unpacked as it was packed. -/
theorem unpack_pack (s : Slice) : unpack s.pack = s := by
  have hptr := s.ptr.toNat_lt
  have hlen : s.len.toNat < 2 ^ 32 := s.len.toNat_lt
  have hleft : (s.pack >>> 32).toUInt32 = s.ptr := by
    refine UInt32.toNat_inj.mp ?_
    rw [UInt64.toNat_toUInt32, UInt64.toNat_shiftRight, toNat_pack]
    show (s.ptr.toNat * 2 ^ 32 + s.len.toNat) >>> 32 % 2 ^ 32 = s.ptr.toNat
    rw [Nat.shiftRight_eq_div_pow]
    omega
  have hright : s.pack.toUInt32 = s.len := by
    refine UInt32.toNat_inj.mp ?_
    rw [UInt64.toNat_toUInt32, toNat_pack]
    show (s.ptr.toNat * 2 ^ 32 + s.len.toNat) % 2 ^ 32 = s.len.toNat
    omega
  rw [unpack, hleft, hright]

theorem pack_inj {s t : Slice} (h : s.pack = t.pack) : s = t := by
  rw [← unpack_pack s, h, unpack_pack]

end Slice

end ExtensionHost
