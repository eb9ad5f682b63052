import TorGo.L1Encoding.Text

/-!
# Base64 (`encoding/base64`)

The descriptor parsers decode their blobs and keys with `StdEncoding` (padded
with `=`) and `RawStdEncoding` (unpadded), both over the standard alphabet
and neither strict. `Decode` runs `decodeQuantum` from the start of the input
to its end; a quantum collects four symbols, skipping `\n` and `\r`, and
writes three bytes. Input that ends inside a quantum is an error when
padded, and writes one or two bytes when not (one symbol alone is always an
error). A padded quantum ends the input: after its `=` or `==` only newlines
may follow. Every error is a `CorruptInputError` at a byte offset,
`illegal base64 data at input byte N`.

`decodeLoop` is `Decode` as one loop over the input, the sextets of the
current quantum and the bytes written so far; the fast paths of `Decode`
(eight or four symbols at a time) give the same bytes as `decodeQuantum`
and are not modelled apart.

Results:
* `decodeString_encodeToString`: each encoding decodes what it encodes, for
  every byte string.
-/
namespace TorGo.L1

/-- `encodeStd`, the standard alphabet. -/
def encodeStd : Bytes := ascii "ABCDEFGHIJKLMNOPQRSTUVWXYZabcdefghijklmnopqrstuvwxyz0123456789+/"

/-- `decodeMap`: the value of a symbol of the alphabet, `none` for `0xff`. -/
def decodeMap (c : UInt8) : Option Nat := encodeStd.indexOf? c

/-- The `dlen - 1` bytes `decodeQuantum` writes for the `dlen` sextets `ds`:
`val := ds[0]<<18 | ds[1]<<12 | ds[2]<<6 | ds[3]`, big-endian. -/
def quantumBytes (ds : List Nat) : Bytes :=
  let val := ds.getD 0 0 * 2 ^ 18 + ds.getD 1 0 * 2 ^ 12 + ds.getD 2 0 * 2 ^ 6 + ds.getD 3 0
  [UInt8.ofNat (val / 2 ^ 16), UInt8.ofNat (val / 2 ^ 8), UInt8.ofNat val].take (ds.length - 1)

/-- The loops of `decodeQuantum` that skip `\n` and `\r`, with the offset. -/
def skipNewlines : List UInt8 → Nat → List UInt8 × Nat
  | c :: cs, si => if c = 10 ∨ c = 13 then skipNewlines cs (si + 1) else (c :: cs, si)
  | [], si => ([], si)

/-- What follows the first `=` of a quantum holding the sextets `ds`, at
offset `si`: `==` after two sextets, `=` after three, then only newlines. -/
def decodePadding (ds : List Nat) (rest : List UInt8) (si : Nat) (out : Bytes) : Except Nat Bytes :=
  let tail : Except Nat (List UInt8 × Nat) :=
    if ds.length = 2 then
      match skipNewlines rest si with
      | ([], si') => .error si'
      | (c :: cs, si') => if c = 61 then .ok (skipNewlines cs (si' + 1)) else .error (si' - 1)
    else .ok (skipNewlines rest si)
  match tail with
  | .error n => .error n
  | .ok ([], _) => .ok (out ++ quantumBytes ds)
  | .ok (_ :: _, si') => .error si'

/-- `Decode` as one loop of `decodeQuantum`: the input `src` from offset
`si`, the sextets `ds` of the current quantum, the bytes `out` written so
far. The result is every byte written, or the offset of the error. -/
def decodeLoop (padded : Bool) : List UInt8 → Nat → List Nat → Bytes → Except Nat Bytes
  | [], si, ds, out =>
    if ds = [] then .ok out
    else if ds.length = 1 ∨ padded = true then .error (si - ds.length)
    else .ok (out ++ quantumBytes ds)
  | c :: cs, si, ds, out =>
    match decodeMap c with
    | some v =>
      if ds.length = 3 then decodeLoop padded cs (si + 1) [] (out ++ quantumBytes (ds ++ [v]))
      else decodeLoop padded cs (si + 1) (ds ++ [v]) out
    | none =>
      if c = 10 ∨ c = 13 then decodeLoop padded cs (si + 1) ds out
      else if padded = true ∧ c = 61 ∧ 2 ≤ ds.length then decodePadding ds cs (si + 1) out
      else .error si

/-- `Encoding.DecodeString`; `padded` for `StdEncoding`. -/
def decodeString (padded : Bool) (s : Bytes) : Except String Bytes :=
  match decodeLoop padded s 0 [] [] with
  | .ok out => .ok out
  | .error n => .error ("illegal base64 data at input byte " ++ toString n)

/-- `base64.StdEncoding.DecodeString`. -/
def stdDecodeString (s : Bytes) : Except String Bytes := decodeString true s

/-- `base64.RawStdEncoding.DecodeString`. -/
def rawStdDecodeString (s : Bytes) : Except String Bytes := decodeString false s

/-! ## The encoder -/

/-- The four sextets of up to three bytes, missing bytes taken as zero. -/
def sextets (bs : Bytes) : List Nat :=
  let val := (bs.getD 0 0).toNat * 2 ^ 16 + (bs.getD 1 0).toNat * 2 ^ 8 + (bs.getD 2 0).toNat
  [val / 2 ^ 18 % 64, val / 2 ^ 12 % 64, val / 2 ^ 6 % 64, val % 64]

/-- The symbols `Encode` writes for one to three bytes: four for three,
three for two, two for one. -/
def quantumSymbols (bs : Bytes) : Bytes :=
  ((sextets bs).map (encodeStd.getD · 0)).take (bs.length + 1)

/-- `Encoding.EncodeToString`; `padded` for `StdEncoding`. -/
def encodeToString (padded : Bool) : Bytes → Bytes
  | a :: b :: c :: rest => quantumSymbols [a, b, c] ++ encodeToString padded rest
  | [a, b] => quantumSymbols [a, b] ++ if padded then [61] else []
  | [a] => quantumSymbols [a] ++ if padded then [61, 61] else []
  | [] => []

/-! ## Decoding what was encoded -/

theorem decodeMap_encodeStd : ∀ v < 64, decodeMap (encodeStd.getD v 0) = some v := by decide

theorem uint8_ofNat_of_mod {n : Nat} {a : UInt8} (h : n % 256 = a.toNat) : UInt8.ofNat n = a :=
  UInt8.toNat.inj (by rw [UInt8.toNat_ofNat']; exact h)

/-- One symbol of the alphabet: it completes the quantum or extends it. -/
theorem decodeLoop_symbol {padded : Bool} {c : UInt8} {cs : List UInt8} {si : Nat} {ds : List Nat}
    {out : Bytes} {v : Nat} (hc : decodeMap c = some v) :
    decodeLoop padded (c :: cs) si ds out =
      if ds.length = 3 then decodeLoop padded cs (si + 1) [] (out ++ quantumBytes (ds ++ [v]))
      else decodeLoop padded cs (si + 1) (ds ++ [v]) out := by
  rw [decodeLoop, hc]

/-- The symbols of sextets `vs` continue the quantum `ds` while it stays
short of four. -/
theorem decodeLoop_symbols (padded : Bool) (rest : List UInt8) :
    ∀ (vs ds : List Nat) (si : Nat) (out : Bytes), (∀ v ∈ vs, v < 64) → ds.length + vs.length ≤ 3 →
      decodeLoop padded (vs.map (encodeStd.getD · 0) ++ rest) si ds out =
        decodeLoop padded rest (si + vs.length) (ds ++ vs) out
  | [], ds, si, out, _, _ => by simp
  | v :: vs, ds, si, out, hv, hl => by
    have h3 : ds.length ≠ 3 := by simp only [List.length_cons] at hl; omega
    rw [List.map_cons, List.cons_append, decodeLoop_symbol (decodeMap_encodeStd v (hv v (List.mem_cons_self _ _))),
      if_neg h3, decodeLoop_symbols padded rest vs (ds ++ [v]) (si + 1) out
        (fun w hw => hv w (List.mem_cons_of_mem _ hw)) (by simp only [List.length_append, List.length_cons, List.length_nil] at hl ⊢; omega)]
    simp only [List.length_cons, List.append_assoc, List.singleton_append]
    rw [Nat.add_assoc, Nat.add_comm 1]

theorem sextets_lt (bs : Bytes) : ∀ v ∈ sextets bs, v < 64 := by
  simp only [sextets, List.mem_cons, List.mem_singleton, List.not_mem_nil, or_false]
  rintro v (rfl | rfl | rfl | rfl) <;> omega

/-- `decodeQuantum` gives back the one to three bytes whose sextets it reads. -/
theorem quantumBytes_sextets (bs : Bytes) (h1 : 1 ≤ bs.length) (h3 : bs.length ≤ 3) :
    quantumBytes ((sextets bs).take (bs.length + 1)) = bs := by
  have hlt : ∀ x : UInt8, x.toNat < 256 := fun x => x.toNat_lt_size
  match bs, h1, h3 with
  | [a], _, _ =>
    have ha := hlt a
    simp only [sextets, quantumBytes, List.getD_cons_zero, List.getD_cons_succ, List.getD_nil,
      List.length_cons, List.length_nil, List.take, List.cons.injEq, and_true, UInt8.toNat_zero]
    exact uint8_ofNat_of_mod (by omega)
  | [a, b], _, _ =>
    have ha := hlt a
    have hb := hlt b
    simp only [sextets, quantumBytes, List.getD_cons_zero, List.getD_cons_succ, List.getD_nil,
      List.length_cons, List.length_nil, List.take, List.cons.injEq, and_true, UInt8.toNat_zero]
    exact ⟨uint8_ofNat_of_mod (by omega), uint8_ofNat_of_mod (by omega)⟩
  | [a, b, c], _, _ =>
    have ha := hlt a
    have hb := hlt b
    have hc := hlt c
    simp only [sextets, quantumBytes, List.getD_cons_zero, List.getD_cons_succ,
      List.length_cons, List.length_nil, List.take, List.cons.injEq, and_true]
    exact ⟨uint8_ofNat_of_mod (by omega), uint8_ofNat_of_mod (by omega), uint8_ofNat_of_mod (by omega)⟩

theorem length_sextets (bs : Bytes) : (sextets bs).length = 4 := rfl

/-- The symbols of one to three bytes: three bytes make a whole quantum, one
or two leave a quantum of two or three sextets open. -/
theorem decodeLoop_quantumSymbols (padded : Bool) (bs rest : Bytes) (si : Nat) (out : Bytes)
    (h1 : 1 ≤ bs.length) (h3 : bs.length ≤ 3) :
    decodeLoop padded (quantumSymbols bs ++ rest) si [] out =
      if bs.length = 3 then decodeLoop padded rest (si + 4) [] (out ++ bs)
      else decodeLoop padded rest (si + (bs.length + 1)) ((sextets bs).take (bs.length + 1)) out := by
  split_ifs with h
  · have hs : quantumSymbols bs = ((sextets bs).take 3).map (encodeStd.getD · 0) ++
        [encodeStd.getD ((sextets bs).getD 3 0) 0] := by
      simp only [quantumSymbols, h]; rfl
    rw [hs, List.append_assoc, decodeLoop_symbols padded _ _ [] si out
        (fun v hv => sextets_lt bs v (List.mem_of_mem_take hv)) (by simp [length_sextets]),
      List.singleton_append, decodeLoop_symbol (decodeMap_encodeStd _ (sextets_lt bs _ (by simp [sextets]))),
      if_pos (by simp [length_sextets])]
    have hq : ((sextets bs).take 3 ++ [(sextets bs).getD 3 0]) = (sextets bs).take (bs.length + 1) := by
      rw [h]; rfl
    rw [List.nil_append, hq, quantumBytes_sextets bs h1 h3]
    simp [length_sextets, Nat.add_assoc]
  · rw [quantumSymbols, ← List.map_take, decodeLoop_symbols padded rest _ [] si out
      (fun v hv => sextets_lt bs v (List.mem_of_mem_take hv)) (by simp [length_sextets]; omega)]
    simp only [List.length_take, length_sextets, List.nil_append]
    rw [Nat.min_eq_left (by omega)]

theorem decodeMap_pad : decodeMap 61 = none := rfl

/-- **Base64 round trip.** Decoding what `EncodeToString` wrote continues
the loop with the encoded bytes appended, and so `DecodeString` gives them
back, for both encodings and every byte string. -/
theorem decodeLoop_encodeToString (padded : Bool) :
    ∀ (bs : Bytes) (si : Nat) (out : Bytes), decodeLoop padded (encodeToString padded bs) si [] out = .ok (out ++ bs)
  | a :: b :: c :: rest, si, out => by
    rw [encodeToString, decodeLoop_quantumSymbols padded [a, b, c] _ si out (by simp) (by simp), if_pos (by rfl),
      decodeLoop_encodeToString padded rest, List.append_assoc, List.cons_append]
    rfl
  | [a, b], si, out => by
    rw [encodeToString, decodeLoop_quantumSymbols padded [a, b] _ si out (by simp) (by simp), if_neg (by simp)]
    have hq := quantumBytes_sextets [a, b] (by simp) (by simp)
    cases padded
    · simp only [decodeLoop, hq]; rfl
    · simp only [decodeLoop, decodeMap_pad, decodePadding, skipNewlines, hq]; rfl
  | [a], si, out => by
    rw [encodeToString, decodeLoop_quantumSymbols padded [a] _ si out (by simp) (by simp), if_neg (by simp)]
    have hq := quantumBytes_sextets [a] (by simp) (by simp)
    cases padded
    · simp only [decodeLoop, hq]; rfl
    · simp only [decodeLoop, decodeMap_pad, decodePadding, skipNewlines, hq]; rfl
  | [], si, out => by simp [encodeToString, decodeLoop]

theorem decodeString_encodeToString (padded : Bool) (bs : Bytes) :
    decodeString padded (encodeToString padded bs) = .ok bs := by
  rw [decodeString, decodeLoop_encodeToString, List.nil_append]

/-! ## The symbols `EncodeToString` writes -/

theorem mem_quantumSymbols {bs : Bytes} {c : UInt8} (h : c ∈ quantumSymbols bs) : c ∈ encodeStd := by
  obtain ⟨v, hv, rfl⟩ := List.mem_map.1 (List.mem_of_mem_take h)
  have hlt : v < encodeStd.length := sextets_lt bs v hv
  rw [List.getD_eq_getElem?_getD, List.getElem?_eq_getElem hlt, Option.getD_some]
  exact List.getElem_mem ..

/-- `EncodeToString` writes symbols of the alphabet and `=` only. -/
theorem mem_encodeToString {padded : Bool} {c : UInt8} :
    ∀ {bs : Bytes}, c ∈ encodeToString padded bs → c ∈ encodeStd ∨ c = 61
  | _ :: _ :: _ :: rest, h => by
    rw [encodeToString, List.mem_append] at h
    exact h.elim (fun h => .inl (mem_quantumSymbols h)) mem_encodeToString
  | [_, _], h | [_], h => by
    rw [encodeToString, List.mem_append] at h
    exact h.elim (fun h => .inl (mem_quantumSymbols h)) fun h => .inr (by cases padded <;> simp_all)
  | [], h => nomatch h

/-- Base64 text is ASCII. -/
theorem isAscii_encodeToString (padded : Bool) (bs : Bytes) : IsAscii (encodeToString padded bs) := fun _ hc =>
  (mem_encodeToString hc).elim (fun h => (show ∀ c ∈ encodeStd, c < 128 by decide) _ h) fun h => h ▸ by decide

/-- `RawStdEncoding` writes symbols of the alphabet only. -/
theorem mem_encodeToString_raw {c : UInt8} : ∀ {bs : Bytes}, c ∈ encodeToString false bs → c ∈ encodeStd
  | _ :: _ :: _ :: rest, h => by
    rw [encodeToString, List.mem_append] at h
    exact h.elim mem_quantumSymbols mem_encodeToString_raw
  | [_, _], h => mem_quantumSymbols (by simpa [encodeToString] using h)
  | [_], h => mem_quantumSymbols (by simpa [encodeToString] using h)
  | [], h => nomatch h

/-- `StdEncoding` writes what `RawStdEncoding` writes, then its `=` padding. -/
theorem encodeToString_padded : ∀ bs : Bytes, ∃ n, encodeToString true bs = encodeToString false bs ++ List.replicate n 61
  | _ :: _ :: _ :: rest => by
    obtain ⟨n, hn⟩ := encodeToString_padded rest
    exact ⟨n, by rw [encodeToString, encodeToString, hn, List.append_assoc]⟩
  | [_, _] => ⟨1, by simp [encodeToString]⟩
  | [_] => ⟨2, by simp [encodeToString]⟩
  | [] => ⟨0, rfl⟩

/-- A length that is a multiple of three needs no padding. -/
theorem encodeToString_true_of_mod : ∀ {bs : Bytes}, bs.length % 3 = 0 → encodeToString true bs = encodeToString false bs
  | _ :: _ :: _ :: rest, h => by
    rw [encodeToString, encodeToString, encodeToString_true_of_mod (by simp only [List.length_cons] at h; omega)]
  | [_, _], h | [_], h => by simp at h
  | [], _ => rfl

/-- Any other length is padded. -/
theorem pad_mem_encodeToString : ∀ {bs : Bytes}, bs.length % 3 ≠ 0 → 61 ∈ encodeToString true bs
  | _ :: _ :: _ :: rest, h => by
    rw [encodeToString]
    exact List.mem_append_right _ (pad_mem_encodeToString (by simp only [List.length_cons] at h; omega))
  | [_, _], _ | [_], _ => by simp [encodeToString]
  | [], h => absurd rfl h

/-- `RawStdEncoding` has no padding: it fails at a `=`, wherever it stands. -/
theorem decodeLoop_raw_pad : ∀ {s : List UInt8} {si : Nat} {ds : List Nat} {out : Bytes}, 61 ∈ s →
    ∃ n, decodeLoop false s si ds out = .error n
  | c :: cs, si, ds, out, h => by
    by_cases hc : c = 61
    · subst hc
      exact ⟨si, by simp [decodeLoop, decodeMap_pad]⟩
    · have hcs : 61 ∈ cs := (List.mem_cons.1 h).resolve_left (Ne.symm hc)
      rw [decodeLoop]
      split
      · split_ifs
        · exact decodeLoop_raw_pad hcs
        · exact decodeLoop_raw_pad hcs
      · split_ifs with h1 h2
        · exact decodeLoop_raw_pad hcs
        · simp at h2
        · exact ⟨si, rfl⟩

theorem encodeToString_ne_nil (padded : Bool) {bs : Bytes} (h : bs ≠ []) : encodeToString padded bs ≠ [] := by
  match bs, h with
  | _ :: _ :: _ :: _, _ | [_, _], _ | [_], _ => simp [encodeToString, quantumSymbols, sextets]

end TorGo.L1
