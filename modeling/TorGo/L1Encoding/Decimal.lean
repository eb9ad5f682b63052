import TorGo.L1Encoding.Text
import Mathlib.Data.Nat.Digits

/-!
# Decimal numbers (`strconv`, `fmt`)

The SOCKS server writes a port with `fmt.Sprintf("%d")` and reads it back
with `fmt.Sscanf("%d")`; the consensus parser reads ports with
`strconv.ParseUint(s, 10, 16)` and bandwidths with `strconv.ParseInt(s, 10,
64)`. `decimal` is `%d` of a natural number (digits, most significant first,
no leading zero). `parseUint` is `ParseUint` in base 10: it walks the bytes,
fails with a syntax error at the first non-digit and with a range error at
the first digit that takes the value past `2^bitSize - 1`, and fails on the
empty string. `parseInt` takes one `+` or `-` first and bounds the value by
`2^(bitSize-1)`; the client passes a non-zero `bitSize`, so Go's `int` size
for `0` is not modelled. The callers only test whether these fail, so an error is
its kind (`NumError`), not the `strconv.ParseUint: parsing "..."` text.

`sscanfUint16` is `Sscanf(s, "%d", &port)` into a `uint16`: `SkipSpace`
skips the ASCII spaces other than the line feed, which is an error; then
`scanNumber` takes the longest run of digits, of which there must be one,
and the value must fit in 16 bits. (The Unicode spaces beyond ASCII that
`SkipSpace` also skips are not modelled; the one caller reads text that
`%d` wrote.)

Results:
* `parseUint_decimal`, `parseInt_decimal`, `parseInt_neg_decimal`,
  `sscanfUint16_decimal`: each reader gives back every value `%d` writes
  within its bounds.
-/
namespace TorGo.L1

/-- A byte `0`..`9`. -/
def isDigit (b : UInt8) : Bool := 48 ≤ b && b ≤ 57

/-- `%d` of `n`: its decimal digits, most significant first. -/
def decimal (n : Nat) : Bytes :=
  if n = 0 then [48] else ((Nat.digits 10 n).map fun d => UInt8.ofNat (48 + d)).reverse

/-- The value of decimal digits, most significant first. -/
def decimalValue (ds : Bytes) : Nat := ds.foldl (fun v d => v * 10 + (d.toNat - 48)) 0

/-- Why `strconv` rejects a number: `ErrSyntax` or `ErrRange`. -/
inductive NumError where
  | errSyntax
  | errRange
  deriving DecidableEq, Repr

/-- The digit loop of `ParseUint` in base 10 below `maxVal`, from the value
`n` read so far. -/
def parseUintLoop (maxVal : Nat) : Bytes → Nat → Except NumError Nat
  | [], n => .ok n
  | c :: cs, n =>
    if isDigit c then
      if n * 10 + (c.toNat - 48) > maxVal then .error .errRange
      else parseUintLoop maxVal cs (n * 10 + (c.toNat - 48))
    else .error .errSyntax

/-- `strconv.ParseUint(s, 10, bitSize)`. -/
def parseUint (s : Bytes) (bitSize : Nat) : Except NumError Nat :=
  if s = [] then .error .errSyntax else parseUintLoop (2 ^ bitSize - 1) s 0

/-- `strconv.ParseInt(s, 10, bitSize)`. A range error of the inner
`ParseUint` comes back with `maxUint64`, which both bounds reject: it stays a
range error. -/
def parseInt (s : Bytes) (bitSize : Nat) : Except NumError Int :=
  match s with
  | [] => .error .errSyntax
  | c :: t =>
    let neg := c == 45
    match parseUint (if c == 43 || c == 45 then t else c :: t) 64 with
    | .error e => .error e
    | .ok un =>
      if !neg && 2 ^ (bitSize - 1) ≤ un then .error .errRange
      else if neg && 2 ^ (bitSize - 1) < un then .error .errRange
      else .ok (if neg then -(un : Int) else un)

/-- The bytes `SkipSpace` skips: the ASCII spaces but the line feed. -/
def isScanSpace (b : UInt8) : Bool := b == 32 || b == 9 || b == 11 || b == 12 || b == 13

/-- `Sscanf(s, "%d", &port)` into a `uint16`: the value, or `none` for an
error (the port then stays as it was). -/
def sscanfUint16 (s : Bytes) : Option Nat :=
  match s.dropWhile isScanSpace with
  | 10 :: _ => none
  | t =>
    let ds := t.takeWhile isDigit
    if ds = [] ∨ 2 ^ 16 ≤ decimalValue ds then none else some (decimalValue ds)

/-! ## Reading back what `%d` writes -/

theorem digit_spec : ∀ d < 10, (UInt8.ofNat (48 + d)).toNat - 48 = d ∧ isDigit (UInt8.ofNat (48 + d)) = true ∧
    isScanSpace (UInt8.ofNat (48 + d)) = false ∧ UInt8.ofNat (48 + d) ≠ 10 ∧ UInt8.ofNat (48 + d) ≠ 43 ∧
    UInt8.ofNat (48 + d) ≠ 45 ∧ UInt8.ofNat (48 + d) ≠ 58 := by
  decide

theorem mem_decimal {n : Nat} {b : UInt8} (h : b ∈ decimal n) : ∃ d < 10, b = UInt8.ofNat (48 + d) := by
  unfold decimal at h
  split_ifs at h
  · exact ⟨0, by decide, List.mem_singleton.mp h⟩
  · simp only [List.mem_reverse, List.mem_map] at h
    obtain ⟨d, hd, rfl⟩ := h
    exact ⟨d, Nat.digits_lt_base (by decide) hd, rfl⟩

/-- `%d` writes digits only: no space, line feed, sign or colon. -/
theorem decimal_digit {n : Nat} {b : UInt8} (h : b ∈ decimal n) :
    isDigit b = true ∧ isScanSpace b = false ∧ b ≠ 10 ∧ b ≠ 43 ∧ b ≠ 45 ∧ b ≠ 58 := by
  obtain ⟨d, hd, rfl⟩ := mem_decimal h
  exact (digit_spec d hd).2

/-- `%d` writes no white space. -/
theorem decimal_not_space {n : Nat} {b : UInt8} (h : b ∈ decimal n) : isAsciiSpace b = false := by
  obtain ⟨d, hd, rfl⟩ := mem_decimal h
  exact (show ∀ d < 10, isAsciiSpace (UInt8.ofNat (48 + d)) = false by decide) d hd

theorem decimal_ne_nil (n : Nat) : decimal n ≠ [] := by
  unfold decimal
  split_ifs with h
  · exact List.cons_ne_nil _ _
  · simpa using Nat.digits_ne_nil_iff_ne_zero.2 h

theorem decimalValue_decimal (n : Nat) : decimalValue (decimal n) = n := by
  have key : ∀ L : List Nat, (∀ d ∈ L, d < 10) →
      (L.map fun d => UInt8.ofNat (48 + d)).foldr (fun d v => v * 10 + (d.toNat - 48)) 0 = Nat.ofDigits 10 L := by
    intro L hL
    induction L with
    | nil => rfl
    | cons d L ih =>
      simp only [List.map_cons, List.foldr_cons, Nat.ofDigits_cons,
        ih fun e he => hL e (List.mem_cons_of_mem _ he), (digit_spec d (hL d (List.mem_cons_self _ _))).1]
      ring
  unfold decimal
  split_ifs with h
  · subst h; rfl
  · rw [decimalValue, List.foldl_reverse, key _ fun d hd => Nat.digits_lt_base (by decide) hd, Nat.ofDigits_digits]

/-- The digit loop over digits whose value stays within `maxVal`. -/
theorem parseUintLoop_digits (maxVal : Nat) :
    ∀ (ds : Bytes) (n : Nat), (∀ b ∈ ds, isDigit b = true) →
      ds.foldl (fun v d => v * 10 + (d.toNat - 48)) n ≤ maxVal →
      parseUintLoop maxVal ds n = .ok (ds.foldl (fun v d => v * 10 + (d.toNat - 48)) n)
  | [], _, _, _ => rfl
  | c :: cs, n, hd, hle => by
    have hmono : ∀ (ds : Bytes) (m : Nat), m ≤ ds.foldl (fun v d => v * 10 + (d.toNat - 48)) m := by
      intro ds
      induction ds with
      | nil => intro m; exact le_rfl
      | cons e es ih => intro m; exact le_trans (by simp only; omega) (ih _)
    rw [List.foldl_cons] at hle ⊢
    rw [parseUintLoop, if_pos (hd c (List.mem_cons_self _ _)),
      if_neg (by have := hmono cs (n * 10 + (c.toNat - 48)); omega),
      parseUintLoop_digits maxVal cs _ (fun b hb => hd b (List.mem_cons_of_mem _ hb)) hle]

/-- `ParseUint` reads back every value `%d` writes below `2 ^ bitSize`. -/
theorem parseUint_decimal {n bitSize : Nat} (h : n < 2 ^ bitSize) : parseUint (decimal n) bitSize = .ok n := by
  have hv := decimalValue_decimal n
  rw [parseUint, if_neg (decimal_ne_nil n), parseUintLoop_digits _ _ _ (fun b hb => (decimal_digit hb).1)
    (by rw [← decimalValue, hv]; omega)]
  exact congrArg _ hv

/-- The digit loop never returns more than `maxVal`. -/
theorem parseUintLoop_le {maxVal : Nat} : ∀ {s : Bytes} {m n : Nat}, m ≤ maxVal →
    parseUintLoop maxVal s m = .ok n → n ≤ maxVal
  | [], _, _, hm, h => by
    simp only [parseUintLoop, Except.ok.injEq] at h
    exact h ▸ hm
  | c :: cs, m, n, _, h => by
    rw [parseUintLoop] at h
    split_ifs at h
    exact parseUintLoop_le (by omega) h

/-- What `ParseUint` accepts fits in `bitSize` bits. -/
theorem parseUint_lt {s : Bytes} {bitSize n : Nat} (h : parseUint s bitSize = .ok n) : n < 2 ^ bitSize := by
  rw [parseUint] at h
  split_ifs at h
  have := parseUintLoop_le (Nat.zero_le _) h
  have := Nat.two_pow_pos bitSize
  omega

/-- `ParseInt` reads back every non-negative value `%d` writes below
`2 ^ (bitSize - 1)`. -/
theorem parseInt_decimal {n bitSize : Nat} (h : n < 2 ^ (bitSize - 1)) (h64 : bitSize ≤ 64) :
    parseInt (decimal n) bitSize = .ok n := by
  obtain ⟨c, t, hct⟩ := List.exists_cons_of_ne_nil (decimal_ne_nil n)
  have hc := decimal_digit (hct ▸ List.mem_cons_self c t)
  have hp : parseUint (decimal n) 64 = .ok n :=
    parseUint_decimal (lt_of_lt_of_le h (Nat.pow_le_pow_right (by decide) (by omega)))
  rw [hct] at hp ⊢
  simp [parseInt, hc.2.2.2.1, hc.2.2.2.2.1, hp, Nat.not_le.mpr h]

/-- `ParseInt` reads a minus sign and every value up to `2 ^ (bitSize - 1)`
behind it. -/
theorem parseInt_neg_decimal {n bitSize : Nat} (h : n ≤ 2 ^ (bitSize - 1)) (h64 : bitSize ≤ 64) :
    parseInt (45 :: decimal n) bitSize = .ok (-(n : Int)) := by
  have hp : parseUint (decimal n) 64 = .ok n :=
    parseUint_decimal (lt_of_le_of_lt h (Nat.pow_lt_pow_right (by decide) (by omega)))
  simp [parseInt, hp, Nat.not_lt.mpr h]

/-- `Sscanf("%d")` reads back every port `%d` writes. -/
theorem sscanfUint16_decimal {n : Nat} (h : n < 2 ^ 16) : sscanfUint16 (decimal n) = some n := by
  obtain ⟨c, t, hct⟩ := List.exists_cons_of_ne_nil (decimal_ne_nil n)
  have hc := decimal_digit (hct ▸ List.mem_cons_self c t)
  have hsp : (decimal n).dropWhile isScanSpace = decimal n := by
    rw [hct, List.dropWhile_cons_of_neg (by simp [hc.2.1])]
  have hall : (decimal n).takeWhile isDigit = decimal n :=
    List.takeWhile_eq_self_iff.2 fun x hx => (decimal_digit hx).1
  rw [sscanfUint16, hsp]
  split
  · rename_i r hr
    exact absurd (List.head_eq_of_cons_eq (hct.symm.trans hr)) hc.2.2.1
  · simp only [hall, decimalValue_decimal, decimal_ne_nil n, false_or, Nat.not_le.mpr h, if_false]

end TorGo.L1
