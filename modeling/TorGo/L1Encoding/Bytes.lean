import Mathlib.Data.List.Basic
import Mathlib.Algebra.Group.Nat.Basic

/-!
# Byte strings, big-endian fields, Go's `copy` and XOR

Every wire object of the client (cells, relay payloads, handshake data) is a
Go `[]byte`; here it is a `List UInt8`. This module holds the few operations
on them that the Go code takes from `encoding/binary` and the language:

* `putUint16` / `uint16`, `putUint32` / `uint32`, `putUint64`:
  `binary.BigEndian`'s `PutUint16`, `Uint16`, `PutUint32`, `Uint32`,
  `PutUint64`, on naturals;
* `slice`: `b[lo:hi]`; `copyInto`: the destination after Go's `copy(dst, src)`;
* `xorBytes`, `keyBytes`: `XORKeyStream` against a position-indexed keystream.

Results: the decoders invert the encoders at any offset (`uint16_putUint16`,
`uint32_putUint32`), and XOR against the same key bytes twice is the identity
(`xorBytes_xorBytes`), which is all the onion layering needs.
-/
namespace TorGo

/-- A Go `[]byte`. -/
abbrev Bytes := List UInt8

theorem UInt8.toNat_ofNat' (n : Nat) : (UInt8.ofNat n).toNat = n % 256 := by
  simp [UInt8.toNat, UInt8.ofNat]

theorem UInt16.toNat_ofNat' (n : Nat) : (UInt16.ofNat n).toNat = n % 65536 := by
  simp [UInt16.toNat, UInt16.ofNat]

theorem UInt32.toNat_ofNat' (n : Nat) : (UInt32.ofNat n).toNat = n % 2 ^ 32 := by
  simp [UInt32.toNat, UInt32.ofNat]

theorem UInt32.toNat_add' (a b : UInt32) : (a + b).toNat = (a.toNat + b.toNat) % 2 ^ 32 := rfl

theorem UInt32.toUInt16_toNat' (a : UInt32) : a.toUInt16.toNat = a.toNat % 65536 := by
  simp [UInt32.toUInt16, Nat.toUInt16, UInt16.toNat_ofNat']

/-! ## Big-endian fields -/

/-- `binary.BigEndian.PutUint16`: `b[0] = byte(v >> 8)`, `b[1] = byte(v)`. -/
def putUint16 (v : UInt16) : Bytes := [UInt8.ofNat (v.toNat / 256), UInt8.ofNat v.toNat]

/-- `binary.BigEndian.Uint16(b)`: `uint16(b[1]) | uint16(b[0])<<8`. -/
def uint16 (b : Bytes) : UInt16 := UInt16.ofNat ((b.getD 0 0).toNat * 256 + (b.getD 1 0).toNat)

/-- `binary.BigEndian.PutUint32`. -/
def putUint32 (v : UInt32) : Bytes :=
  [UInt8.ofNat (v.toNat / 2 ^ 24), UInt8.ofNat (v.toNat / 2 ^ 16), UInt8.ofNat (v.toNat / 2 ^ 8),
    UInt8.ofNat v.toNat]

/-- `binary.BigEndian.Uint32(b)`. -/
def uint32 (b : Bytes) : UInt32 :=
  UInt32.ofNat ((b.getD 0 0).toNat * 2 ^ 24 + (b.getD 1 0).toNat * 2 ^ 16 +
    (b.getD 2 0).toNat * 2 ^ 8 + (b.getD 3 0).toNat)

@[simp] theorem putUint16_length (v : UInt16) : (putUint16 v).length = 2 := rfl

@[simp] theorem putUint32_length (v : UInt32) : (putUint32 v).length = 4 := rfl

theorem uint16_putUint16 (v : UInt16) (rest : Bytes) : uint16 (putUint16 v ++ rest) = v := by
  apply UInt16.toNat.inj
  have h := v.toNat_lt_size
  simp only [uint16, putUint16, List.cons_append, List.getD_cons_zero, List.getD_cons_succ,
    UInt8.toNat_ofNat', UInt16.toNat_ofNat']
  simp only [UInt16.size] at h
  omega

theorem uint32_putUint32 (v : UInt32) (rest : Bytes) : uint32 (putUint32 v ++ rest) = v := by
  apply UInt32.toNat.inj
  have h := v.toNat_lt_size
  simp only [uint32, putUint32, List.cons_append, List.getD_cons_zero, List.getD_cons_succ,
    UInt8.toNat_ofNat', UInt32.toNat_ofNat']
  simp only [UInt32.size] at h
  omega

/-- `uint16` reads the first two bytes only. -/
theorem uint16_append (b rest : Bytes) (h : 2 ≤ b.length) : uint16 (b ++ rest) = uint16 b := by
  match b, h with
  | _ :: _ :: _, _ => rfl

/-- `binary.BigEndian.PutUint64`. -/
def putUint64 (v : UInt64) : Bytes :=
  (List.range 8).reverse.map fun i => UInt8.ofNat (v.toNat / 2 ^ (8 * i))

@[simp] theorem putUint64_length (v : UInt64) : (putUint64 v).length = 8 := rfl

/-! ## Slices and `copy` -/

/-- `b[lo:hi]`, within bounds. -/
def slice (b : Bytes) (lo hi : Nat) : Bytes := (b.drop lo).take (hi - lo)

@[simp] theorem slice_length (b : Bytes) (lo hi : Nat) :
    (slice b lo hi).length = min (hi - lo) (b.length - lo) := by
  simp [slice]

/-- A slice that ends at the end of a prefix lies inside that prefix. -/
theorem slice_append_left (a c : Bytes) (lo hi : Nat) (h : hi ≤ a.length) :
    slice (a ++ c) lo hi = slice a lo hi := by
  simp only [slice, List.drop_append_eq_append_drop, List.take_append_eq_append_take,
    List.length_drop]
  rw [Nat.sub_eq_zero_of_le (by omega : hi - lo ≤ a.length - lo)]
  simp

/-- A slice that starts after a prefix skips it. -/
theorem slice_append_right (a c : Bytes) (lo hi : Nat) (h : a.length ≤ lo) :
    slice (a ++ c) lo hi = slice c (lo - a.length) (hi - a.length) := by
  simp only [slice, List.drop_append_eq_append_drop, List.drop_eq_nil_of_le (by omega : a.length ≤ lo),
    List.nil_append]
  congr 1; omega

/-- The slice over the first part of a concatenation. -/
theorem slice_append_first (a c : Bytes) {n : Nat} (h : a.length = n) : slice (a ++ c) 0 n = a := by
  simp [slice, ← h]

/-- The slice over the second part of a concatenation. -/
theorem slice_append_second (a c : Bytes) {n hi : Nat} (ha : a.length = n) (hc : c.length = hi - n) :
    slice (a ++ c) n hi = c := by
  rw [slice_append_right _ _ _ _ (by omega)]
  simp [slice, ha, ← hc]

/-- `dst` after `copy(dst, src)`: the first `min(len(dst), len(src))` bytes
are replaced. -/
def copyInto (dst src : Bytes) : Bytes := src.take dst.length ++ dst.drop src.length

@[simp] theorem copyInto_length (dst src : Bytes) : (copyInto dst src).length = dst.length := by
  simp only [copyInto, List.length_append, List.length_take, List.length_drop]; omega

theorem copyInto_of_length_eq (dst src : Bytes) (h : src.length = dst.length) :
    copyInto dst src = src := by
  simp [copyInto, ← h]

/-! ## XOR against a keystream -/

theorem UInt8.xor_xor_cancel (a b : UInt8) : a ^^^ b ^^^ b = a := by
  apply UInt8.eq_of_toBitVec_eq
  show (a.toBitVec ^^^ b.toBitVec) ^^^ b.toBitVec = a.toBitVec
  rw [BitVec.xor_assoc, BitVec.xor_self, BitVec.xor_zero]

/-- `dst[i] = a[i] ^ b[i]`, as `XORKeyStream(dst, a)` with key bytes `b`. -/
def xorBytes (a b : Bytes) : Bytes := List.zipWith (· ^^^ ·) a b

/-- The `n` keystream bytes from position `pos` on. -/
def keyBytes (ks : Nat → UInt8) (pos n : Nat) : Bytes := (List.range n).map fun i => ks (pos + i)

@[simp] theorem keyBytes_length (ks : Nat → UInt8) (pos n : Nat) :
    (keyBytes ks pos n).length = n := by
  simp [keyBytes]

/-- Slicing the bytes a keystream produces reads the keystream further on. -/
theorem keyBytes_slice (ks : Nat → UInt8) (pos n lo hi : Nat) (h : hi ≤ n) :
    slice (keyBytes ks pos n) lo hi = keyBytes ks (pos + lo) (hi - lo) := by
  apply List.ext_getElem
  · simp; omega
  · intro i _ _
    simp [slice, keyBytes, Nat.add_assoc]

@[simp] theorem xorBytes_length (a b : Bytes) : (xorBytes a b).length = min a.length b.length := by
  simp [xorBytes]

/-- XOR against the same key bytes twice is the identity. -/
theorem xorBytes_xorBytes : ∀ (a b : Bytes), a.length ≤ b.length → xorBytes (xorBytes a b) b = a
  | [], _, _ => rfl
  | _ :: _, [], h => by simp at h
  | x :: a, y :: b, h => by
    simp only [xorBytes, List.zipWith_cons_cons, List.cons.injEq] at *
    exact ⟨UInt8.xor_xor_cancel x y, xorBytes_xorBytes a b (by simpa using h)⟩

theorem xorBytes_append (a1 a2 b1 b2 : Bytes) (h : a1.length = b1.length) :
    xorBytes (a1 ++ a2) (b1 ++ b2) = xorBytes a1 b1 ++ xorBytes a2 b2 :=
  List.zipWith_append _ _ _ _ _ h

theorem xorBytes_take (a b : Bytes) (n : Nat) : (xorBytes a b).take n = xorBytes (a.take n) (b.take n) :=
  List.take_zipWith

theorem xorBytes_drop (a b : Bytes) (n : Nat) : (xorBytes a b).drop n = xorBytes (a.drop n) (b.drop n) :=
  List.drop_zipWith

/-- XOR into zeros copies the key bytes. -/
theorem zeros_xorBytes : ∀ b : Bytes, xorBytes (List.replicate b.length 0) b = b
  | [] => rfl
  | x :: b => by
    have hx : (0 : UInt8) ^^^ x = x := by
      apply UInt8.eq_of_toBitVec_eq
      show 0#8 ^^^ x.toBitVec = x.toBitVec
      exact BitVec.zero_xor
    simp only [List.length_cons, List.replicate_succ, xorBytes, List.zipWith_cons_cons, hx,
      List.cons.injEq, true_and]
    exact zeros_xorBytes b

/-! ## `Except`, the Go `(value, error)` pair -/

section Except

variable {ε ε' α β : Type}

@[simp] theorem except_pure_eq (a : α) : (pure a : Except ε α) = .ok a := rfl

@[simp] theorem except_map_ok (f : α → β) (a : α) : (Except.ok a : Except ε α).map f = .ok (f a) := rfl

@[simp] theorem except_map_error (f : α → β) (e : ε) :
    (Except.error e : Except ε α).map f = .error e := rfl

@[simp] theorem except_ok_bind (a : α) (f : α → Except ε β) : (Except.ok a >>= f) = f a := rfl

@[simp] theorem except_error_bind (e : ε) (f : α → Except ε β) :
    (Except.error e >>= f) = Except.error e := rfl

@[simp] theorem except_mapError_ok (g : ε → ε') (a : α) : (Except.ok a : Except ε α).mapError g = .ok a := rfl

@[simp] theorem except_mapError_error (g : ε → ε') (e : ε) :
    (Except.error e : Except ε α).mapError g = .error (g e) := rfl

theorem except_bind_eq_ok {x : Except ε α} {f : α → Except ε β} {b : β} :
    x >>= f = .ok b ↔ ∃ a, x = .ok a ∧ f a = .ok b := by
  cases x <;> simp

theorem except_mapError_eq_ok {x : Except ε α} {g : ε → ε'} {a : α} :
    x.mapError g = .ok a ↔ x = .ok a := by
  cases x <;> simp

end Except

end TorGo
