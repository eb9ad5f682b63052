import TorGo.L1Encoding.Base32
import TorGo.L2Crypto.Edwards25519
import TorGo.L5Onion.HsNtor

/-!
# Onion addresses (`DecodeOnion`)

Section 4.6 writes a v3 address as `base32(pubkey[32] || checksum[2] ||
0x03)`, lower-cased, with `.onion` behind it, the checksum being
`SHA3-256(".onion checksum" || pubkey || 0x03)[:2]`; `encodeOnion` is that
writer, as `TestDecodeOnionRoundTrip` re-encodes a key. `DecodeOnion`
(`src/unnamed/part_014:14-57`) lower-cases the address, trims one `.onion`,
upper-cases it and decodes it with unpadded base32; it then requires 35
bytes, version 3 and the checksum, and that `Point.SetBytes` accepts the key.
Its doc comment also promises that keys with torsion components are
rejected; no line of the function checks it. Go returns the partly filled
key beside an error; the model returns the error alone.

`strings.ToLower` and `strings.ToUpper` are `toLower` and `toUpper` of
`Text`, exact on ASCII. On other text Go maps every rune: invalid UTF-8
becomes U+FFFD, so no `0xff` reaches the decoder, and the few runes whose
case partner is ASCII (the Kelvin sign, `ſ`, `ı`, `İ`) decode as letters.
The model follows Go on ASCII input only.

Results:
* `decodeOnion_ok_iff`: what `DecodeOnion` accepts, exactly: the trimmed
  and upper-cased address decodes to `A || checksum(A) || 0x03` and
  `SetBytes` accepts `A`; nothing asks `A` to be torsion-free;
* `decodeOnion_encodeOnion`: every key `SetBytes` accepts is decoded back
  from its §4.6 address, for every SHA3-256;
* `decodeOnion_accepts_torsion_component`: so the 32 zero bytes, a point of
  order four, are accepted.
-/
namespace TorGo.L5

open TorGo.L1 TorGo.L2

/-- `SHA3-256(".onion checksum" || pubkey || version)[:2]`. -/
def onionChecksum (P : HsPrims) (pubkey : Bytes) (version : UInt8) : Bytes :=
  (P.sha3_256 (ascii ".onion checksum" ++ pubkey ++ [version])).take 2

/-- `DecodeOnion`: the key, or the error. -/
def decodeOnion (P : HsPrims) (address : Bytes) : Except String Bytes :=
  let address := trimSuffix (toLower address) (ascii ".onion")
  match Base32.decodeString (toUpper address) with
  | .error e => .error ("base32 decode: " ++ e)
  | .ok decoded =>
    if decoded.length ≠ 35 then .error ("decoded length " ++ toString decoded.length ++ ", expected 35")
    else
      let pubkey := decoded.take 32
      let checksum := slice decoded 32 34
      let version := decoded.getD 34 0
      if version ≠ 3 then .error ("unsupported version: " ++ toString version.toNat)
      else
        let expectedChecksum := onionChecksum P pubkey version
        if checksum.getD 0 0 ≠ expectedChecksum.getD 0 0 ∨ checksum.getD 1 0 ≠ expectedChecksum.getD 1 0 then
          .error "checksum mismatch"
        else
          match Edwards25519.setBytes pubkey with
          | .error e => .error ("invalid ed25519 point: " ++ e)
          | .ok _ => .ok pubkey

/-- The §4.6 address of a key. -/
def encodeOnion (P : HsPrims) (pubkey : Bytes) : Bytes :=
  toLower (Base32.encodeToString (pubkey ++ onionChecksum P pubkey 3 ++ [3])) ++ ascii ".onion"

theorem onionChecksum_length (P : HsPrims) (pubkey : Bytes) (version : UInt8) :
    (onionChecksum P pubkey version).length = 2 := by
  simp [onionChecksum, P.sha3_256_length]

/-- `DecodeOnion`'s byte-by-byte comparison of two checksums of two bytes
is their inequality. -/
theorem checksum_ne_iff {a b : Bytes} (ha : a.length = 2) (hb : b.length = 2) :
    (¬a.getD 0 0 = b.getD 0 0 ∨ ¬a.getD 1 0 = b.getD 1 0) ↔ ¬a = b := by
  obtain ⟨x, y, rfl⟩ := List.length_eq_two.mp ha
  obtain ⟨z, w, rfl⟩ := List.length_eq_two.mp hb
  simp only [List.getD_cons_zero, List.getD_cons_succ, List.cons.injEq, and_true, not_and_or]

/-- A decoded 35-byte string is a key, two checksum bytes and a version
byte. -/
theorem decoded_split {decoded : Bytes} (h : decoded.length = 35) :
    ∃ A c v, decoded = A ++ c ++ [v] ∧ A.length = 32 ∧ c.length = 2 := by
  obtain ⟨c0, c1, v, hd⟩ := List.length_eq_three.mp (by simp [h] : (decoded.drop 32).length = 3)
  refine ⟨decoded.take 32, [c0, c1], v, ?_, by simp [h], rfl⟩
  calc decoded = decoded.take 32 ++ decoded.drop 32 := (List.take_append_drop 32 decoded).symm
    _ = _ := by rw [hd, List.append_assoc]; rfl

/-- The checks of `DecodeOnion` after base32, on `A || c || v`. -/
theorem decodeOnion_of_decoded {P : HsPrims} {s A c : Bytes} {v : UInt8}
    (hd : Base32.decodeString (toUpper (trimSuffix (toLower s) (ascii ".onion"))) = .ok (A ++ c ++ [v]))
    (hA : A.length = 32) (hc : c.length = 2) :
    decodeOnion P s =
      if v ≠ 3 then .error ("unsupported version: " ++ toString v.toNat)
      else if c ≠ onionChecksum P A 3 then .error "checksum mismatch"
      else match Edwards25519.setBytes A with
        | .error e => .error ("invalid ed25519 point: " ++ e)
        | .ok _ => .ok A := by
  have hlen : (A ++ c ++ [v]).length = 35 := by simp [hA, hc]
  have htake : (A ++ c ++ [v]).take 32 = A := by
    rw [List.append_assoc, List.take_append_of_le_length (by omega), List.take_of_length_le (by omega)]
  have hslice : slice (A ++ c ++ [v]) 32 34 = c := by
    rw [List.append_assoc, slice_append_right _ _ _ _ (by omega), hA, slice_append_first _ _ hc]
  have hv : (A ++ c ++ [v]).getD 34 0 = v := by
    rw [List.getD_eq_getElem?_getD, List.getElem?_append_right (by simp [hA, hc])]
    simp [hA, hc]
  simp only [decodeOnion, hd, hlen, ne_eq, not_true_eq_false, if_false, htake, hslice, hv]
  by_cases h3 : v = 3
  · subst h3
    simp only [checksum_ne_iff hc (onionChecksum_length P A 3)]
  · simp only [h3, not_false_eq_true, if_true]

/-- `DecodeOnion` returns `A` exactly when the trimmed, upper-cased address
decodes to `A || SHA3-256(".onion checksum" || A || 3)[:2] || 3` and
`SetBytes` accepts `A`. -/
theorem decodeOnion_ok_iff (P : HsPrims) (s A : Bytes) :
    decodeOnion P s = .ok A ↔
      A.length = 32 ∧
      Base32.decodeString (toUpper (trimSuffix (toLower s) (ascii ".onion"))) =
        .ok (A ++ onionChecksum P A 3 ++ [3]) ∧
      ∃ pt, Edwards25519.setBytes A = .ok pt := by
  constructor
  · intro h
    cases hd : Base32.decodeString (toUpper (trimSuffix (toLower s) (ascii ".onion"))) with
    | error e => simp [decodeOnion, hd] at h
    | ok decoded =>
      have h35 : decoded.length = 35 := by
        by_contra hne
        simp [decodeOnion, hd, hne] at h
      obtain ⟨A', c, v, rfl, hA, hc⟩ := decoded_split h35
      rw [decodeOnion_of_decoded hd hA hc] at h
      split_ifs at h with hv hcs
      split at h
      · cases h
      · rename_i pt hpt
        cases h
        simp only [ne_eq, Decidable.not_not] at hv hcs
        exact ⟨hA, by rw [hv, hcs], pt, hpt⟩
  · rintro ⟨hA, hd, pt, hpt⟩
    rw [decodeOnion_of_decoded hd hA (onionChecksum_length P A 3)]
    simp [hpt]

/-! ## Decoding what §4.6 writes -/

theorem trimSuffix_append (x suf : Bytes) : trimSuffix (x ++ suf) suf = x := by
  rw [trimSuffix, if_pos ((List.isSuffixOf_iff_suffix).mpr (List.suffix_append x suf)), List.length_append,
    Nat.add_sub_cancel, List.take_left']
  rfl

/-- On base32 text, lower-casing is idempotent and upper-casing undoes it. -/
theorem toLower_encodeToString (bs : Bytes) :
    toLower (toLower (Base32.encodeToString bs)) = toLower (Base32.encodeToString bs) ∧
      toUpper (toLower (Base32.encodeToString bs)) = Base32.encodeToString bs := by
  have hsym : ∀ v < 32, (fun b : UInt8 => if 65 ≤ b ∧ b ≤ 90 then b + 32 else b)
      ((fun b : UInt8 => if 65 ≤ b ∧ b ≤ 90 then b + 32 else b) (Base32.encodeStd.getD v 0)) =
        (fun b : UInt8 => if 65 ≤ b ∧ b ≤ 90 then b + 32 else b) (Base32.encodeStd.getD v 0) ∧
      (fun b : UInt8 => if 97 ≤ b ∧ b ≤ 122 then b - 32 else b)
        ((fun b : UInt8 => if 65 ≤ b ∧ b ≤ 90 then b + 32 else b) (Base32.encodeStd.getD v 0)) =
        Base32.encodeStd.getD v 0 := by decide
  simp only [toLower, toUpper, List.map_map]
  constructor
  · refine List.map_congr_left fun c hc => ?_
    obtain ⟨v, hv, rfl⟩ := Base32.mem_encodeToString hc
    exact (hsym v hv).1
  · refine (List.map_congr_left fun c hc => ?_).trans (List.map_id _)
    obtain ⟨v, hv, rfl⟩ := Base32.mem_encodeToString hc
    exact (hsym v hv).2

/-- Every key `SetBytes` accepts comes back from its §4.6 address. -/
theorem decodeOnion_encodeOnion (P : HsPrims) {A : Bytes} (hA : A.length = 32)
    (hpt : ∃ pt, Edwards25519.setBytes A = .ok pt) : decodeOnion P (encodeOnion P A) = .ok A := by
  obtain ⟨pt, hpt⟩ := hpt
  have hlow := toLower_encodeToString (A ++ onionChecksum P A 3 ++ [3])
  have hd : Base32.decodeString (toUpper (trimSuffix (toLower (encodeOnion P A)) (ascii ".onion"))) =
      .ok (A ++ onionChecksum P A 3 ++ [3]) := by
    rw [encodeOnion, toLower, List.map_append, ← toLower, ← toLower, hlow.1,
      show toLower (ascii ".onion") = ascii ".onion" from rfl, trimSuffix_append, hlow.2, Base32.decodeString,
      Base32.stripNewlines_encodeToString, Base32.decodeLoop_encodeToString, List.nil_append]
  rw [decodeOnion_of_decoded hd hA (onionChecksum_length P A 3)]
  simp [hpt]

/-- `DecodeOnion` accepts the address of the 32 zero bytes, for every
SHA3-256: `SetBytes` reads them as `(√-1, 0)`, a point of order four, which
has a torsion component. -/
theorem decodeOnion_accepts_torsion_component (P : HsPrims) :
    decodeOnion P (encodeOnion P (List.replicate 32 0)) = .ok (List.replicate 32 0) ∧
      ∃ pt, Edwards25519.setBytes (List.replicate 32 0) = .ok pt ∧ ¬ Edwards25519.TorsionFree pt :=
  ⟨decodeOnion_encodeOnion P (List.length_replicate _ _) ⟨_, Edwards25519.setBytes_zero⟩,
    _, Edwards25519.setBytes_zero, Edwards25519.lowOrderPoint_not_torsionFree⟩

end TorGo.L5
