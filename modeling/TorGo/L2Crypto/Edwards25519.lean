import TorGo.L1Encoding.Text
import Mathlib.Data.ZMod.Basic
import Mathlib.Tactic.LinearCombination
import Mathlib.Algebra.Ring.Parity

/-!
# edwards25519 (`filippo.io/edwards25519`)

`DecodeOnion` checks an onion service's key with `Point.SetBytes`, which
reads `y` from the 32 bytes (little-endian, bit 255 ignored, values from `p`
up to `2^255 - 1` accepted and reduced), computes `x = +√((y² - 1)/(dy² + 1))`
with `SqrtRatio`, and negates it when bit 255 is set. The field is `ZMod p`
for `p = 2^255 - 19`; `Pow22523` and `Invert` are powers of their argument,
computed here by square-and-multiply (`powBits`) where the source uses fixed
addition chains for the same exponents. A decoded point is kept in affine
coordinates: `SetBytes` sets `Z = 1` and `T = XY`.

The group law and `[n]P` are the curve's, for what the spec calls a torsion
component: the group has order `8ℓ`, and a point has no torsion component
when `[ℓ]P` is the identity (`TorsionFree`).

Results:
* `setBytes_onCurve`: every point `SetBytes` returns is on the curve;
* `setBytes_zero`, `lowOrderPoint_not_torsionFree`: `SetBytes` accepts the
  32 zero bytes as `(√-1, 0)`, a point of order four, so with a torsion
  component.
-/
namespace TorGo.L2.Edwards25519

open TorGo.L1

/-- `p = 2^255 - 19`. -/
def fieldPrime : Nat := 2 ^ 255 - 19

/-- `field.Element`: an integer modulo `p`. -/
abbrev Element := ZMod fieldPrime

/-- `d = -121665/121666`, the constant of the curve. -/
def d : Element := 37095705934669439343138083508754565189542113879843219016388785533085940283555

/-- `sqrtM1`, a square root of `-1`. -/
def sqrtM1 : Element := 19681161376707505956807079304988542015446066515923890162744021073123829784752

/-- `x ^ e` by square-and-multiply over the low `k` bits of `e`. -/
def powBits : Nat → Element → Nat → Element
  | 0, _, _ => 1
  | k + 1, x, e => (if e % 2 = 1 then x else 1) * powBits k (x * x) (e / 2)

/-- `Element.Pow22523`: `x ^ ((p - 5) / 8)`. -/
def pow22523 (x : Element) : Element := powBits 255 x ((fieldPrime - 5) / 8)

/-- `Element.IsNegative`: the low bit of the canonical encoding. -/
def isNegative (x : Element) : Bool := x.val % 2 == 1

/-- `Element.Absolute`. -/
def absolute (x : Element) : Element := if isNegative x then -x else x

/-- `Element.SqrtRatio(u, v)`: `r = (uv³)(uv⁷)^((p-5)/8)`, multiplied by
`√-1` when `vr²` is `-u` or `-u√-1`, then made non-negative; the flag says
whether `u/v` is a square (`vr²` is `u` or `-u`). -/
def sqrtRatio (u v : Element) : Element × Bool :=
  let v2 := v * v
  let uv3 := u * (v2 * v)
  let uv7 := uv3 * (v2 * v2)
  let rr := uv3 * pow22523 uv7
  let check := v * (rr * rr)
  let uNeg := -u
  let correctSignSqrt := decide (check = u)
  let flippedSignSqrt := decide (check = uNeg)
  let flippedSignSqrtI := decide (check = uNeg * sqrtM1)
  let rPrime := rr * sqrtM1
  let rr := if (flippedSignSqrt || flippedSignSqrtI) = true then rPrime else rr
  (absolute rr, correctSignSqrt || flippedSignSqrt)

/-- Square-and-multiply computes the power whenever the exponent fits in
its bits. -/
theorem powBits_eq : ∀ (k : Nat) (x : Element) (e : Nat), e < 2 ^ k → powBits k x e = x ^ e
  | 0, x, e, h => by rw [Nat.pow_zero, Nat.lt_one_iff] at h; simp [powBits, h]
  | k + 1, x, e, h => by
    rw [powBits, powBits_eq k (x * x) (e / 2) (by rw [Nat.pow_succ] at h; omega), ← pow_two, ← pow_mul]
    conv_rhs => rw [← Nat.mod_add_div e 2, pow_add]
    rcases Nat.mod_two_eq_zero_or_one e with h2 | h2 <;> simp [h2]

theorem sqrtM1_sq : sqrtM1 * sqrtM1 = -1 := by decide

theorem pow22523_neg_one : pow22523 (-1) = -1 := by
  rw [pow22523, powBits_eq _ _ _ (by decide)]
  exact Odd.neg_one_pow (by decide)

theorem isNegative_sqrtM1 : isNegative sqrtM1 = false := by decide

theorem sqrtRatio_neg_one_one : sqrtRatio (-1) 1 = (sqrtM1, true) := by
  simp [sqrtRatio, pow22523_neg_one, absolute, isNegative_sqrtM1]

/-- Two is a unit modulo `p`. -/
theorem two_mul_half : (2 : Element) * 28948022309329048855892746252171976963317496166410141009864396001978282409975 = 1 := by
  decide

theorem eq_zero_of_two_mul {u : Element} (h : 2 * u = 0) : u = 0 := by
  linear_combination 28948022309329048855892746252171976963317496166410141009864396001978282409975 * h - u * two_mul_half

/-- When `SqrtRatio` reports a square, the root it returns squares to `u/v`. -/
theorem sqrtRatio_sq {u v : Element} (h : (sqrtRatio u v).2 = true) : (sqrtRatio u v).1 ^ 2 * v = u := by
  have habs : ∀ r : Element, absolute r ^ 2 = r ^ 2 := fun r => by unfold absolute; split <;> ring
  have hi := sqrtM1_sq
  simp only [sqrtRatio, Bool.or_eq_true, decide_eq_true_eq] at h ⊢
  rw [habs]
  generalize u * (v * v * v) * pow22523 (u * (v * v * v) * (v * v * (v * v))) = r at h ⊢
  split_ifs with hf
  · rcases hf with hf | hf
    · linear_combination (-1 : Element) * hf + r * r * v * hi
    · rcases h with h | h
      · have hu : u = 0 := eq_zero_of_two_mul (by linear_combination (sqrtM1 - 1) * h + (1 - sqrtM1) * hf + u * hi)
        linear_combination (-1 : Element) * h + r * r * v * hi - 2 * hu
      · linear_combination (-1 : Element) * h + r * r * v * hi
  · rcases h with h | h
    · linear_combination h
    · exact absurd (Or.inl h) hf


/-! ## Points -/

/-- The little-endian number a byte string encodes. -/
def leNat (b : Bytes) : Nat := b.foldr (fun x acc => x.toNat + 256 * acc) 0

/-- `Element.SetBytes`: 32 bytes, little-endian, bit 255 ignored, values
from `p` to `2^255 - 1` accepted and reduced. -/
def feSetBytes (x : Bytes) : Except String Element :=
  if x.length = 32 then .ok ((leNat x % 2 ^ 255 : Nat) : Element)
  else .error "edwards25519: invalid field element input size"

/-- A point of edwards25519 in affine coordinates, the `(X/Z, Y/Z)` of a
`Point`; `SetBytes` sets `Z = 1` and `T = XY`. -/
structure Point where
  x : Element
  y : Element
  deriving DecidableEq

/-- The curve `-x² + y² = 1 + d x² y²`. -/
def OnCurve (P : Point) : Prop := -P.x ^ 2 + P.y ^ 2 = 1 + d * P.x ^ 2 * P.y ^ 2

instance : DecidablePred OnCurve := fun P =>
  inferInstanceAs (Decidable (-P.x ^ 2 + P.y ^ 2 = 1 + d * P.x ^ 2 * P.y ^ 2))

/-- `Point.SetBytes`: `y` from the field encoding, `x = +√((y² - 1)/(dy² + 1))`,
negated when bit 255 of the encoding is set. -/
def setBytes (x : Bytes) : Except String Point :=
  match feSetBytes x with
  | .error _ => .error "edwards25519: invalid point encoding length"
  | .ok y =>
    let y2 := y * y
    let u := y2 - 1
    let vv := y2 * d + 1
    let r := sqrtRatio u vv
    if r.2 = false then .error "edwards25519: invalid point encoding"
    else .ok ⟨if (x.getD 31 0) >>> 7 = 1 then -r.1 else r.1, y⟩

/-- Every point `SetBytes` decodes is on the curve. -/
theorem setBytes_onCurve {b : Bytes} {P : Point} (h : setBytes b = .ok P) : OnCurve P := by
  cases hy : feSetBytes b with
  | error e => simp only [setBytes, hy] at h; cases h
  | ok y =>
    simp only [setBytes, hy] at h
    have hr := @sqrtRatio_sq (y * y - 1) (y * y * d + 1)
    generalize sqrtRatio (y * y - 1) (y * y * d + 1) = r at h hr
    split_ifs at h with hsq hsign <;> cases h
    all_goals
      have hr := hr (by simpa using hsq)
      unfold OnCurve
      linear_combination (-1 : Element) * hr

/-! ## The group law and torsion -/

/-- The identity `(0, 1)`. -/
def identity : Point := ⟨0, 1⟩

/-- `Element.Invert`: `z ^ (p - 2)`, `1/z` when `z ≠ 0`. -/
def invert (z : Element) : Element := powBits 255 z (fieldPrime - 2)

/-- The addition law of the twisted Edwards curve with `a = -1`, complete on
edwards25519 since `d` is not a square. -/
def add (P Q : Point) : Point :=
  let t := d * P.x * Q.x * P.y * Q.y
  ⟨(P.x * Q.y + P.y * Q.x) * invert (1 + t), (P.y * Q.y + P.x * Q.x) * invert (1 - t)⟩

/-- `[n]P`: `P` added `n` times to the identity. -/
def nsmul (n : Nat) (P : Point) : Point := (add P)^[n] identity

/-- `ℓ`, the order of the prime-order subgroup; the group has order `8ℓ`. -/
def subgroupOrder : Nat := 2 ^ 252 + 27742317777372353535851937790883648493

/-- A point with no torsion component: `[ℓ]P` is the identity. -/
def TorsionFree (P : Point) : Prop := nsmul subgroupOrder P = identity

theorem invert_one : invert 1 = 1 := by
  rw [invert, powBits_eq _ _ _ (by decide), one_pow]

/-- The point of the all-zero encoding, `(√-1, 0)`. -/
def lowOrderPoint : Point := ⟨sqrtM1, 0⟩

/-- Adding `(√-1, 0)` is the map `(x, y) ↦ (√-1·y, √-1·x)`. -/
theorem add_lowOrderPoint (Q : Point) : add lowOrderPoint Q = ⟨sqrtM1 * Q.y, sqrtM1 * Q.x⟩ := by
  simp [add, lowOrderPoint, invert_one]

/-- Two additions of `(√-1, 0)` negate both coordinates. -/
theorem add_lowOrderPoint_two (Q : Point) : add lowOrderPoint (add lowOrderPoint Q) = ⟨-Q.x, -Q.y⟩ := by
  rw [add_lowOrderPoint, add_lowOrderPoint, Point.mk.injEq]
  have hi := sqrtM1_sq
  constructor
  · linear_combination Q.x * hi
  · linear_combination Q.y * hi

/-- Four additions of `(√-1, 0)` come back to where they started. -/
theorem add_lowOrderPoint_four (Q : Point) : (add lowOrderPoint)^[4] Q = Q := by
  have h2 : ∀ R, (add lowOrderPoint)^[2] R = ⟨-R.x, -R.y⟩ := fun R => by
    rw [Function.iterate_succ_apply', Function.iterate_one, add_lowOrderPoint_two]
  rw [show 4 = 2 + 2 from rfl, Function.iterate_add_apply, h2, h2, neg_neg, neg_neg]

theorem nsmul_lowOrderPoint_mod (n : Nat) : nsmul n lowOrderPoint = nsmul (n % 4) lowOrderPoint := by
  conv_lhs => rw [← Nat.mod_add_div n 4]
  induction n / 4 with
  | zero => rfl
  | succ k ih => rw [Nat.mul_succ, ← Nat.add_assoc, nsmul, Function.iterate_add_apply, add_lowOrderPoint_four]; exact ih

/-- `(√-1, 0)` has a torsion component: `[ℓ]` of it is itself. -/
theorem lowOrderPoint_not_torsionFree : ¬ TorsionFree lowOrderPoint := by
  have hl : subgroupOrder % 4 = 1 := by decide
  rw [TorsionFree, nsmul_lowOrderPoint_mod, hl, nsmul, Function.iterate_one, add_lowOrderPoint, identity]
  intro h
  have := congrArg Point.x h
  simp at this
  exact absurd this (by decide)

/-- `SetBytes` decodes 32 zero bytes to `(√-1, 0)`. -/
theorem setBytes_zero : setBytes (List.replicate 32 0) = .ok lowOrderPoint := by
  have hle : leNat (List.replicate 32 0) = 0 := by decide
  have hy : feSetBytes (List.replicate 32 0) = .ok 0 := by
    rw [feSetBytes, if_pos (List.length_replicate _ _), hle, Nat.zero_mod, Nat.cast_zero]
  have hr : sqrtRatio (0 * 0 - 1) (0 * 0 * d + 1) = (sqrtM1, true) := by
    rw [mul_zero, zero_mul, zero_sub, zero_add, sqrtRatio_neg_one_one]
  have hs : (List.replicate 32 (0 : UInt8)).getD 31 0 >>> 7 ≠ 1 := by decide
  simp only [setBytes, hy, hr, if_neg hs]
  rw [if_neg (by decide)]
  rfl

end TorGo.L2.Edwards25519
