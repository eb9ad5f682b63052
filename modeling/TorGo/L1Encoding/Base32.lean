import TorGo.L1Encoding.Base64

/-!
# Base32 (`encoding/base32`)

`DecodeOnion` reads an address with `base32.StdEncoding.WithPadding(base32.NoPadding)`:
the alphabet of RFC 4648 (`A`..`Z`, `2`..`7`) and no padding character.
`DecodeString` first strips `\r` and `\n` (`stripNewlines`); `decode` then
reads quanta of eight symbols of five bits and writes five bytes for each.
Input that ends inside a quantum of `dlen` symbols writes the bytes those
symbols complete (the `switch dlen` with its `fallthrough`s): four for
seven, three for five, two for four, one for two, none for one, three or
six. With `NoPadding`, `padChar` is `-1` and `byte(enc.padChar)` is `0xff`,
so a `0xff` after at least two symbols of a quantum and among the last
eight bytes is read as the start of the padding. Every error is a
`CorruptInputError` at an offset into the stripped input, `illegal base32
data at input byte N`.

`decodeLoop` is `decode` as one loop over the input, the quintets of the
current quantum and the bytes written so far. `encodeToString` is
`EncodeToString` of the same encoding, which writes `(8n + 4) / 5` symbols
for `n` bytes.

Results:
* `decodeString_encodeToString_noPadding`: `DecodeString` gives back every
  byte string that `EncodeToString` encodes.
-/
namespace TorGo.L1.Base32

/-- `encodeStd`, the alphabet of `StdEncoding`. -/
def encodeStd : Bytes := ascii "ABCDEFGHIJKLMNOPQRSTUVWXYZ234567"

/-- `decodeMap`: the value of a symbol of the alphabet, `none` for `0xff`. -/
def decodeMap (c : UInt8) : Option Nat := encodeStd.indexOf? c

/-- `stripNewlines`: the input without its `\r` and `\n`. -/
def stripNewlines (s : Bytes) : Bytes := s.filter fun b => !(b == 13 || b == 10)

/-- How many bytes the `switch dlen` of `decode` writes for a quantum of
`dlen` symbols. -/
def quantumLength : Nat → Nat
  | 8 => 5
  | 7 => 4
  | 5 => 3
  | 4 => 2
  | 2 => 1
  | _ => 0

/-- The bytes the `switch dlen` of `decode` writes for the quintets `ds`
of a quantum, as many as `quantumLength` says: `dst[0] = dbuf[0]<<3 |
dbuf[1]>>2` up to `dst[4] = dbuf[6]<<5 | dbuf[7]`, the missing quintets zero
as in `dbuf`. Each `|` joins disjoint bits of a byte, so it is a sum, and
`UInt8.ofNat` drops what a shift pushes out of the byte. -/
def quantumBytes (ds : List Nat) : Bytes :=
  let d (i : Nat) := ds.getD i 0
  ([d 0 * 8 + d 1 / 4, d 1 * 64 + d 2 * 2 + d 3 / 16, d 3 * 16 + d 4 / 2, d 4 * 128 + d 5 * 4 + d 6 / 8,
    d 6 * 32 + d 7].map UInt8.ofNat).take (quantumLength ds.length)

/-- `decode` as one loop: the stripped input `src` of length `olen`, the
quintets `ds` of the current quantum, the bytes `out` written so far. The
result is every byte written, or the offset of the error. -/
def decodeLoop (olen : Nat) : List UInt8 → List Nat → Bytes → Except Nat Bytes
  | [], ds, out => .ok (out ++ quantumBytes ds)
  | c :: cs, ds, out =>
    if c = 255 ∧ 2 ≤ ds.length ∧ cs.length < 8 then
      if cs.length + ds.length < 7 then .error olen
      else
        let k := (cs.take (7 - ds.length)).findIdx fun b => b != 255
        if k < 7 - ds.length then .error (olen - cs.length + k - 1)
        else if ds.length = 3 ∨ ds.length = 6 then .error (olen - cs.length - 1)
        else .ok (out ++ quantumBytes ds)
    else
      match decodeMap c with
      | none => .error (olen - cs.length - 1)
      | some v =>
        if ds.length = 7 then decodeLoop olen cs [] (out ++ quantumBytes (ds ++ [v]))
        else decodeLoop olen cs (ds ++ [v]) out

/-- `Encoding.DecodeString`. -/
def decodeString (s : Bytes) : Except String Bytes :=
  match decodeLoop (stripNewlines s).length (stripNewlines s) [] [] with
  | .ok out => .ok out
  | .error n => .error ("illegal base32 data at input byte " ++ toString n)

/-! ## The encoder -/

/-- The eight quintets of up to five bytes, missing bytes taken as zero:
`(hi>>27)&0x1F` up to `lo&0x1F` of `Encode`, byte by byte. -/
def quintets (bs : Bytes) : List Nat :=
  let b (i : Nat) := (bs.getD i 0).toNat
  [b 0 / 8, b 0 % 8 * 4 + b 1 / 64, b 1 / 2 % 32, b 1 % 2 * 16 + b 2 / 16, b 2 % 16 * 2 + b 3 / 128, b 3 / 4 % 32,
    b 3 % 4 * 8 + b 4 / 32, b 4 % 32]

/-- The symbols `Encode` writes for one to five bytes: `(8n + 4) / 5` of them. -/
def quantumSymbols (bs : Bytes) : Bytes :=
  ((quintets bs).map (encodeStd.getD · 0)).take ((8 * bs.length + 4) / 5)

/-- `Encoding.EncodeToString`. -/
def encodeToString : Bytes → Bytes
  | a :: b :: c :: d :: e :: rest => quantumSymbols [a, b, c, d, e] ++ encodeToString rest
  | bs => quantumSymbols bs

/-! ## Decoding what was encoded -/

/-- `decode` gives back the one to five bytes whose quintets it reads. -/
theorem quantumBytes_quintets (bs : Bytes) (h1 : 1 ≤ bs.length) (h5 : bs.length ≤ 5) :
    quantumBytes ((quintets bs).take ((8 * bs.length + 4) / 5)) = bs := by
  have hlt : ∀ x : UInt8, x.toNat < 256 := fun x => x.toNat_lt_size
  match bs, h1, h5 with
  | [a], _, _ =>
    have := hlt a
    simp only [quintets, quantumBytes, List.getD_cons_zero, List.getD_cons_succ, List.getD_nil,
      List.length_cons, List.length_nil, List.take, List.cons.injEq, and_true, UInt8.toNat_zero, quantumLength, List.map]
    exact uint8_ofNat_of_mod (by omega)
  | [a, b], _, _ =>
    have := hlt a
    have := hlt b
    simp only [quintets, quantumBytes, List.getD_cons_zero, List.getD_cons_succ, List.getD_nil,
      List.length_cons, List.length_nil, List.take, List.cons.injEq, and_true, UInt8.toNat_zero, quantumLength, List.map]
    exact ⟨uint8_ofNat_of_mod (by omega), uint8_ofNat_of_mod (by omega)⟩
  | [a, b, c], _, _ =>
    have := hlt a
    have := hlt b
    have := hlt c
    simp only [quintets, quantumBytes, List.getD_cons_zero, List.getD_cons_succ, List.getD_nil,
      List.length_cons, List.length_nil, List.take, List.cons.injEq, and_true, UInt8.toNat_zero, quantumLength, List.map]
    exact ⟨uint8_ofNat_of_mod (by omega), uint8_ofNat_of_mod (by omega), uint8_ofNat_of_mod (by omega)⟩
  | [a, b, c, d], _, _ =>
    have := hlt a
    have := hlt b
    have := hlt c
    have := hlt d
    simp only [quintets, quantumBytes, List.getD_cons_zero, List.getD_cons_succ, List.getD_nil,
      List.length_cons, List.length_nil, List.take, List.cons.injEq, and_true, UInt8.toNat_zero, quantumLength, List.map]
    exact ⟨uint8_ofNat_of_mod (by omega), uint8_ofNat_of_mod (by omega), uint8_ofNat_of_mod (by omega),
      uint8_ofNat_of_mod (by omega)⟩
  | [a, b, c, d, e], _, _ =>
    have := hlt a
    have := hlt b
    have := hlt c
    have := hlt d
    have := hlt e
    simp only [quintets, quantumBytes, List.getD_cons_zero, List.getD_cons_succ, List.getD_nil,
      List.length_cons, List.length_nil, List.take, List.cons.injEq, and_true, quantumLength, List.map]
    exact ⟨uint8_ofNat_of_mod (by omega), uint8_ofNat_of_mod (by omega), uint8_ofNat_of_mod (by omega),
      uint8_ofNat_of_mod (by omega), uint8_ofNat_of_mod (by omega)⟩

theorem decodeMap_encodeStd : ∀ v < 32, decodeMap (encodeStd.getD v 0) = some v := by decide

/-- No symbol of the alphabet is the `0xff` that `NoPadding` compares with. -/
theorem encodeStd_getD_ne_pad : ∀ v < 32, encodeStd.getD v 0 ≠ 255 := by decide

/-- No symbol of the alphabet is a line break. -/
theorem encodeStd_getD_kept : ∀ v < 32, (!(encodeStd.getD v 0 == 13 || encodeStd.getD v 0 == 10)) = true := by
  decide

theorem quintets_lt (bs : Bytes) : ∀ v ∈ quintets bs, v < 32 := by
  have hlt : ∀ i, (bs.getD i 0).toNat < 256 := fun i => (bs.getD i 0).toNat_lt_size
  have := hlt 0
  have := hlt 1
  have := hlt 2
  have := hlt 3
  have := hlt 4
  simp only [quintets, List.mem_cons, List.mem_singleton, List.not_mem_nil, or_false]
  rintro v (rfl | rfl | rfl | rfl | rfl | rfl | rfl | rfl) <;> omega

/-- One symbol of the alphabet: it completes the quantum or extends it. -/
theorem decodeLoop_symbol {olen v : Nat} {cs : List UInt8} {ds : List Nat} {out : Bytes} (hv : v < 32) :
    decodeLoop olen (encodeStd.getD v 0 :: cs) ds out =
      if ds.length = 7 then decodeLoop olen cs [] (out ++ quantumBytes (ds ++ [v]))
      else decodeLoop olen cs (ds ++ [v]) out := by
  rw [decodeLoop, if_neg fun h => encodeStd_getD_ne_pad v hv h.1, decodeMap_encodeStd v hv]

/-- The symbols of quintets `vs` continue the quantum `ds` while it stays
short of eight. -/
theorem decodeLoop_symbols (olen : Nat) (rest : List UInt8) :
    ∀ (vs ds : List Nat) (out : Bytes), (∀ v ∈ vs, v < 32) → ds.length + vs.length ≤ 7 →
      decodeLoop olen (vs.map (encodeStd.getD · 0) ++ rest) ds out = decodeLoop olen rest (ds ++ vs) out
  | [], ds, out, _, _ => by simp
  | v :: vs, ds, out, hv, hl => by
    have h7 : ds.length ≠ 7 := by simp only [List.length_cons] at hl; omega
    rw [List.map_cons, List.cons_append, decodeLoop_symbol (hv v (List.mem_cons_self _ _)), if_neg h7,
      decodeLoop_symbols olen rest vs (ds ++ [v]) out (fun w hw => hv w (List.mem_cons_of_mem _ hw))
        (by simp only [List.length_append, List.length_cons, List.length_nil] at hl ⊢; omega)]
    simp

/-- The symbols of one to five bytes: five make a whole quantum, fewer leave
a quantum of two, four, five or seven quintets open. -/
theorem decodeLoop_quantumSymbols (olen : Nat) (bs rest : Bytes) (out : Bytes)
    (h1 : 1 ≤ bs.length) (h5 : bs.length ≤ 5) :
    decodeLoop olen (quantumSymbols bs ++ rest) [] out =
      if bs.length = 5 then decodeLoop olen rest [] (out ++ bs)
      else decodeLoop olen rest ((quintets bs).take ((8 * bs.length + 4) / 5)) out := by
  split_ifs with h
  · have hs : quantumSymbols bs = ((quintets bs).take 7).map (encodeStd.getD · 0) ++
        [encodeStd.getD ((quintets bs).getD 7 0) 0] := by
      simp only [quantumSymbols, h]; rfl
    rw [hs, List.append_assoc, decodeLoop_symbols olen _ _ [] out
        (fun v hv => quintets_lt bs v (List.mem_of_mem_take hv)) (by simp [quintets]),
      List.singleton_append, decodeLoop_symbol (quintets_lt bs _ (by simp [quintets])),
      if_pos (by simp [quintets])]
    have hq : (quintets bs).take 7 ++ [(quintets bs).getD 7 0] = (quintets bs).take ((8 * bs.length + 4) / 5) := by
      rw [h]; rfl
    rw [List.nil_append, hq, quantumBytes_quintets bs h1 h5]
  · rw [quantumSymbols, ← List.map_take, decodeLoop_symbols olen rest _ [] out
      (fun v hv => quintets_lt bs v (List.mem_of_mem_take hv)) (by simp [quintets]; omega)]
    rfl

/-- Up to four bytes leave an open quantum that the end of the input writes out. -/
theorem decodeLoop_short (olen : Nat) (bs out : Bytes) (h4 : bs.length ≤ 4) :
    decodeLoop olen (quantumSymbols bs) [] out = .ok (out ++ bs) := by
  rcases Nat.eq_zero_or_pos bs.length with h0 | h1
  · rw [List.length_eq_zero.mp h0]; rfl
  · have h := decodeLoop_quantumSymbols olen bs [] out h1 (by omega)
    rw [List.append_nil, if_neg (by omega)] at h
    rw [h, decodeLoop, quantumBytes_quintets bs h1 (by omega)]

/-- **Base32 round trip.** Decoding what `EncodeToString` wrote continues
the loop with the encoded bytes appended. -/
theorem decodeLoop_encodeToString (olen : Nat) :
    ∀ (bs out : Bytes), decodeLoop olen (encodeToString bs) [] out = .ok (out ++ bs)
  | a :: b :: c :: d :: e :: rest, out => by
    rw [encodeToString, decodeLoop_quantumSymbols olen [a, b, c, d, e] _ out (by simp) (by simp), if_pos (by rfl),
      decodeLoop_encodeToString olen rest]
    simp
  | [a, b, c, d], out => decodeLoop_short olen _ out (by simp)
  | [a, b, c], out => decodeLoop_short olen _ out (by simp)
  | [a, b], out => decodeLoop_short olen _ out (by simp)
  | [a], out => decodeLoop_short olen _ out (by simp)
  | [], out => decodeLoop_short olen _ out (by simp)

theorem mem_encodeToString {c : UInt8} : ∀ {bs : Bytes}, c ∈ encodeToString bs → ∃ v < 32, encodeStd.getD v 0 = c
  | a :: b :: c' :: d :: e :: rest, h => by
    rw [encodeToString, List.mem_append] at h
    rcases h with h | h
    · obtain ⟨v, hv, rfl⟩ := List.mem_map.mp (List.mem_of_mem_take h)
      exact ⟨v, quintets_lt _ v hv, rfl⟩
    · exact mem_encodeToString h
  | [], h | [_], h | [_, _], h | [_, _, _], h | [_, _, _, _], h => by
    obtain ⟨v, hv, rfl⟩ := List.mem_map.mp (List.mem_of_mem_take h)
    exact ⟨v, quintets_lt _ v hv, rfl⟩

theorem stripNewlines_encodeToString (bs : Bytes) : stripNewlines (encodeToString bs) = encodeToString bs :=
  List.filter_eq_self.mpr fun c hc => by
    obtain ⟨v, hv, rfl⟩ := mem_encodeToString hc
    exact encodeStd_getD_kept v hv

/-- `DecodeString` gives back every byte string `EncodeToString` encodes. -/
theorem decodeString_encodeToString_noPadding (bs : Bytes) :
    decodeString (encodeToString bs) = .ok bs := by
  rw [decodeString, stripNewlines_encodeToString, decodeLoop_encodeToString, List.nil_append]

end TorGo.L1.Base32
