import TorGo.L1Encoding.Text
import Mathlib.Data.Nat.Digits

/-!
# The HSDir's HTTP response (`onion` package, descriptor fetch)

`FetchDescriptorViaCircuit` fetches a descriptor over a BEGIN_DIR stream
and reads the HTTP response by hand: it finds the first empty line, takes
the status line, requires `200` in it, and undoes the chunked transfer
coding when the headers ask for it. The repository holds two revisions of
this code. One has `parseHTTPResponse` with its `decodeChunked`; the other
parses inline in `FetchDescriptorViaCircuit` with a `decodeChunked` of its
own, which stops on a zero size only (namespace `ViaCircuit`). The inline
parsing is `parseHTTPResponse` over the other decoder, so both are
`parseResponseWith`.

Go slices by `int` and panics when a bound is out of range; the slice
expressions are `sliceUpTo` and `sliceFrom` (`TorGo.L1`), with `none` for
the panic, so a parse ends in a panic (`none`), an error or a body.
`fmt.Sscanf(sizeHex, "%x", &size)` is `sscanfHex`; the decoder reads only
whether it failed, so its error texts are left out.

Results:
* `decodeChunked_isSome`: the decoder of `parseHTTPResponse` terminates on
  every input and never panics;
* `decodeChunked_encodeChunked`: it returns the chunks of a chunked body,
  whatever follows the last chunk;
* `ViaCircuit.decodeChunked_negative`: the inline revision panics on a body
  whose first chunk size is negative, since `remaining[:size]` is then
  sliced with that size;
* `parseResponseWith_eq_none_iff`: a parse panics exactly when the text
  before the first empty line is a single line, for then
  `headerSection[:strings.Index(headerSection, "\r\n")]` slices with `-1`;
* `parseResponseWith_chunked`: on a `200` response with a chunked body the
  parse returns the decoded body with its trailing NUL, CR, LF and space
  bytes removed.
-/
namespace TorGo.L5

open TorGo.L1

/-! ## The chunk-size line -/

/-- `"\r\n"`. -/
def crlf : Bytes := [13, 10]

/-- A digit `%x` accepts: `0`..`9`, `a`..`f`, `A`..`F`. -/
def isHexDigit (b : UInt8) : Bool := (48 ≤ b && b ≤ 57) || (97 ≤ b && b ≤ 102) || (65 ≤ b && b ≤ 70)

/-- The value of a hex digit. -/
def hexDigitValue (b : UInt8) : Nat := if b ≤ 57 then b.toNat - 48 else if b ≤ 70 then b.toNat - 55 else b.toNat - 87

/-- The value of hex digits, most significant first (`strconv.ParseInt`, base 16). -/
def hexValue (ds : Bytes) : Nat := ds.foldl (fun v d => v * 16 + hexDigitValue d) 0

/-- `fmt.Sscanf(s, "%x", &size)` into an `int`, `none` when it returns an
error: `scanInt` takes one sign, then the longest run of hex digits, of
which there must be one, and `strconv.ParseInt` rejects a value outside
`int64`. What follows the digits is not read. (`sizeHex` is trimmed, so
the scanner's leading `SkipSpace` has nothing to skip.) -/
def sscanfHex (s : Bytes) : Option Int :=
  let (neg, t) : Bool × Bytes := match s with
    | b :: t => if b = 43 then (false, t) else if b = 45 then (true, t) else (false, s)
    | [] => (false, [])
  let ds := t.takeWhile isHexDigit
  let v : Int := if neg then -(hexValue ds : Int) else hexValue ds
  if ds = [] ∨ v < -2 ^ 63 ∨ 2 ^ 63 ≤ v then none else some v

/-- The digit `%x` writes for `d < 16`. -/
def hexDigit (d : Nat) : UInt8 := UInt8.ofNat (if d < 10 then 48 + d else 87 + d)

/-- `%x` of `n`, as a chunked writer puts it on the size line: lower-case
digits, most significant first, no leading zero. -/
def hexSize (n : Nat) : Bytes := ((Nat.digits 16 n).map hexDigit).reverse

theorem hexDigit_spec : ∀ d < 16, isHexDigit (hexDigit d) = true ∧ hexDigitValue (hexDigit d) = d ∧
    isAsciiSpace (hexDigit d) = false ∧ hexDigit d ≠ 13 ∧ hexDigit d ≠ 43 ∧ hexDigit d ≠ 45 := by
  decide

theorem mem_hexSize {n : Nat} {b : UInt8} (h : b ∈ hexSize n) : ∃ d < 16, b = hexDigit d := by
  simp only [hexSize, List.mem_reverse, List.mem_map] at h
  obtain ⟨d, hd, rfl⟩ := h
  exact ⟨d, Nat.digits_lt_base (by decide) hd, rfl⟩

theorem hexSize_ne_nil {n : Nat} (h : n ≠ 0) : hexSize n ≠ [] := by
  simpa [hexSize] using Nat.digits_ne_nil_iff_ne_zero.2 h

theorem hexValue_hexSize (n : Nat) : hexValue (hexSize n) = n := by
  have key : ∀ L : List Nat, (∀ d ∈ L, d < 16) →
      (L.map hexDigit).foldr (fun d v => v * 16 + hexDigitValue d) 0 = Nat.ofDigits 16 L := by
    intro L hL
    induction L with
    | nil => rfl
    | cons d L ih =>
      simp only [List.map_cons, List.foldr_cons, Nat.ofDigits_cons,
        ih fun e he => hL e (List.mem_cons_of_mem _ he), (hexDigit_spec d (hL d (List.mem_cons_self _ _))).2.1]
      ring
  rw [hexValue, hexSize, List.foldl_reverse, key _ fun d hd => Nat.digits_lt_base (by decide) hd,
    Nat.ofDigits_digits]

/-- `%x` reads back the size a chunked writer wrote. -/
theorem sscanfHex_hexSize {n : Nat} (h0 : n ≠ 0) (h : n < 2 ^ 63) : sscanfHex (hexSize n) = some (n : Int) := by
  obtain ⟨b, t, hbt⟩ := List.exists_cons_of_ne_nil (hexSize_ne_nil h0)
  obtain ⟨d, hd, hb⟩ := mem_hexSize (hbt ▸ List.mem_cons_self b t)
  have hall : (hexSize n).takeWhile isHexDigit = hexSize n := List.takeWhile_eq_self_iff.2 fun x hx => by
    obtain ⟨e, he, rfl⟩ := mem_hexSize hx
    exact (hexDigit_spec e he).1
  have := (hexDigit_spec d hd).2.2.2
  simp only [sscanfHex, hbt, hb, this.2.1, this.2.2, if_false]
  rw [← hb, ← hbt, hall, hexValue_hexSize, if_neg (by simp [hexSize_ne_nil h0]; omega)]
  rfl

/-- A size written with a minus sign reads back negative. -/
theorem sscanfHex_neg_hexSize {n : Nat} (h0 : n ≠ 0) (h : n ≤ 2 ^ 63) : sscanfHex (45 :: hexSize n) = some (-(n : Int)) := by
  have hall : (hexSize n).takeWhile isHexDigit = hexSize n := List.takeWhile_eq_self_iff.2 fun x hx => by
    obtain ⟨e, he, rfl⟩ := mem_hexSize hx
    exact (hexDigit_spec e he).1
  simp only [sscanfHex, if_neg (by decide : (45 : UInt8) ≠ 43), if_true, hall, hexValue_hexSize]
  rw [if_neg (by simp [hexSize_ne_nil h0]; omega)]

theorem trimSpace_hexSize (n : Nat) : trimSpace (hexSize n) = hexSize n :=
  trimSpace_of_forall fun b hb => by
    obtain ⟨d, hd, rfl⟩ := mem_hexSize hb
    exact (hexDigit_spec d hd).2.2.1

/-- The size line ends at its CRLF. -/
theorem index_sizeLine {line : Bytes} (hl : ∀ b ∈ line, b ≠ 13) (t : Bytes) :
    index (line ++ crlf ++ t) crlf = line.length := by
  rw [List.append_assoc, index_append (fun z hz hne hp => ?_) (index_nonneg_of_isPrefixOf (List.prefix_append _ _)),
    index_eq_zero_of_isPrefixOf (List.prefix_append _ _), add_zero]
  obtain ⟨b, z, rfl⟩ := List.exists_cons_of_ne_nil hne
  rw [crlf, List.cons_append, List.cons_prefix_cons] at hp
  exact hl b (hz.subset (List.mem_cons_self b z)) hp.1.symm

/-! ## The chunked transfer coding (RFC 9112, section 7.1) -/

/-- One chunk: its size in hex, CRLF, the data, CRLF. -/
def encodeChunk (c : Bytes) : Bytes := hexSize c.length ++ crlf ++ c ++ crlf

/-- The chunks of a body, one after the other. -/
def encodeChunked (cs : List Bytes) : Bytes := (cs.map encodeChunk).flatten

/-- The last chunk, `0` CRLF; trailer fields and the final CRLF follow it. -/
def lastChunk : Bytes := [48, 13, 10]

theorem sizeLine_no_cr (n : Nat) : ∀ b ∈ hexSize n, b ≠ 13 := fun b hb => by
  obtain ⟨d, hd, rfl⟩ := mem_hexSize hb
  exact (hexDigit_spec d hd).2.2.2.1

/-! ## `for` loops that consume their input -/

/-- The body of a `for` loop over the bytes `remaining` still to be read,
with `result` written so far: it breaks with the result (`.inl`), goes
round again with the next `remaining` and `result` (`.inr`), or panics
(`none`). Every pass that goes round again has read some bytes, which is
why the loop ends. -/
structure Pass where
  run : Bytes → Bytes → Option (Bytes ⊕ Bytes × Bytes)
  shrinks : ∀ r a r' a', run r a = some (.inr (r', a')) → r'.length < r.length

/-- The loop whose body is `p`. -/
def Pass.loop (p : Pass) (remaining result : Bytes) : Option Bytes :=
  match _h : p.run remaining result with
  | none => none
  | some (.inl result) => some result
  | some (.inr (remaining', result')) => p.loop remaining' result'
termination_by remaining.length
decreasing_by exact p.shrinks _ _ _ _ _h

namespace Pass

variable (p : Pass) {r a : Bytes}

theorem loop_of_none (h : p.run r a = none) : p.loop r a = none := by
  rw [loop]
  split <;> simp_all

theorem loop_of_inl {x : Bytes} (h : p.run r a = some (.inl x)) : p.loop r a = some x := by
  rw [loop]
  split <;> simp_all

theorem loop_of_inr {r' a' : Bytes} (h : p.run r a = some (.inr (r', a'))) : p.loop r a = p.loop r' a' := by
  rw [loop]
  split <;> simp_all

/-- A loop whose body never panics returns. -/
theorem loop_isSome (h : ∀ r a, (p.run r a).isSome) (r a : Bytes) : (p.loop r a).isSome := by
  induction r, a using Pass.loop.induct p with
  | case1 r a hn => simpa [hn] using h r a
  | case2 r a x hx => simp [p.loop_of_inl hx]
  | case3 r a r' a' hr ih => rwa [p.loop_of_inr hr]

end Pass

/-! ## `decodeChunked` -/

/-- One pass of `decodeChunked`'s loop (the `parseHTTPResponse` revision). -/
def decodeChunkedPass (remaining result : Bytes) : Option (Bytes ⊕ Bytes × Bytes) :=
  let crlfIdx := index remaining crlf
  if crlfIdx < 0 then some (.inl result) else
  (sliceUpTo remaining crlfIdx).bind fun line =>
  let sizeHex := trimSpace line
  if sizeHex = [] then some (.inl result) else
  match sscanfHex sizeHex with
  | none => some (.inl result)
  | some size =>
    if size ≤ 0 then some (.inl result) else
    (sliceFrom remaining (crlfIdx + 2)).bind fun remaining =>
    if (remaining.length : Int) < size then some (.inl (result ++ remaining)) else
    (sliceUpTo remaining size).bind fun chunk =>
    (sliceFrom remaining size).bind fun remaining =>
    some (.inr (trimPrefix remaining crlf, result ++ chunk))

theorem decodeChunkedPass_shrinks (r a r' a' : Bytes) (h : decodeChunkedPass r a = some (.inr (r', a'))) :
    r'.length < r.length := by
  dsimp only [decodeChunkedPass] at h
  by_cases h0 : index r crlf < 0
  · rw [if_pos h0] at h
    cases h
  rw [if_neg h0] at h
  obtain ⟨line, -, h⟩ := Option.bind_eq_some.1 h
  by_cases h1 : trimSpace line = []
  · rw [if_pos h1] at h
    cases h
  rw [if_neg h1] at h
  generalize sscanfHex (trimSpace line) = o at h
  rcases o with _ | size
  · cases h
  dsimp only at h
  split at h
  · cases h
  obtain ⟨r1, hr1, h⟩ := Option.bind_eq_some.1 h
  split at h
  · cases h
  obtain ⟨chunk, -, h⟩ := Option.bind_eq_some.1 h
  obtain ⟨r2, hr2, h⟩ := Option.bind_eq_some.1 h
  cases h
  have := sliceFrom_length hr1
  have := sliceFrom_length hr2
  have := trimPrefix_length_le r2 crlf
  omega

/-- The pass never panics: every slice it takes is in range. -/
theorem decodeChunkedPass_isSome (r a : Bytes) : (decodeChunkedPass r a).isSome := by
  dsimp only [decodeChunkedPass]
  rcases index_cases r crlf with hi | ⟨h, t, rfl, hi⟩
  · rw [hi, if_pos (by decide)]
    rfl
  rw [hi, if_neg (by omega), List.append_assoc, sliceUpTo_append rfl, Option.some_bind]
  split
  · rfl
  split
  · rfl
  split
  · rfl
  rw [← List.append_assoc, sliceFrom_append (by simp [crlf]), Option.some_bind]
  split
  · rfl
  rw [sliceUpTo_of_le (by omega) (by omega), Option.some_bind, sliceFrom_of_le (by omega) (by omega)]
  rfl

/-- A chunk of the coding: the pass reads it whole and goes round again. -/
theorem decodeChunkedPass_chunk {c : Bytes} (hc : c ≠ []) (hlen : c.length < 2 ^ 63) (t a : Bytes) :
    decodeChunkedPass (encodeChunk c ++ t) a = some (.inr (t, a ++ c)) := by
  have hlen0 : c.length ≠ 0 := fun h => hc (List.length_eq_zero.1 h)
  have hr : encodeChunk c ++ t = hexSize c.length ++ crlf ++ (c ++ crlf ++ t) := by simp [encodeChunk]
  dsimp only [decodeChunkedPass]
  rw [hr, index_sizeLine (sizeLine_no_cr _), if_neg (by omega), List.append_assoc, sliceUpTo_append rfl,
    Option.some_bind]
  rw [trimSpace_hexSize, if_neg (hexSize_ne_nil hlen0), sscanfHex_hexSize hlen0 hlen]
  dsimp only
  rw [if_neg (by omega), ← List.append_assoc, sliceFrom_append (by simp [crlf]), Option.some_bind,
    if_neg (by simp only [List.length_append]; omega), List.append_assoc, sliceUpTo_append rfl, Option.some_bind,
    sliceFrom_append rfl, Option.some_bind]
  simp [trimPrefix, crlf]

/-- The last chunk: the pass breaks. -/
theorem decodeChunkedPass_last (t a : Bytes) : decodeChunkedPass (lastChunk ++ t) a = some (.inl a) := by
  have h : index ([48] ++ crlf ++ t) crlf = ([48] : Bytes).length := index_sizeLine (by decide) t
  dsimp only [decodeChunkedPass]
  rw [show lastChunk ++ t = [48] ++ crlf ++ t from rfl, h, if_neg (by decide), List.append_assoc,
    sliceUpTo_append rfl]
  rfl

/-- The loop of `decodeChunked`. -/
def decodeChunkedLoop : Pass := ⟨decodeChunkedPass, decodeChunkedPass_shrinks⟩

/-- `decodeChunked`: an HTTP chunked transfer-encoded body, decoded. -/
def decodeChunked (data : Bytes) : Option Bytes := decodeChunkedLoop.loop data []

/-- `decodeChunked` returns on every input, without a panic. -/
theorem decodeChunked_isSome (data : Bytes) : (decodeChunked data).isSome :=
  decodeChunkedLoop.loop_isSome decodeChunkedPass_isSome data []

theorem decodeChunkedLoop_encodeChunked (rest : Bytes) :
    ∀ (cs : List Bytes) (a : Bytes), (∀ c ∈ cs, c ≠ [] ∧ c.length < 2 ^ 63) →
      decodeChunkedLoop.loop (encodeChunked cs ++ lastChunk ++ rest) a = some (a ++ cs.flatten)
  | [], a, _ => by simpa [encodeChunked] using decodeChunkedLoop.loop_of_inl (decodeChunkedPass_last rest a)
  | c :: cs, a, hcs => by
    have hc := hcs c (List.mem_cons_self _ _)
    have h := decodeChunkedPass_chunk hc.1 hc.2 (encodeChunked cs ++ lastChunk ++ rest) a
    rw [show encodeChunked (c :: cs) ++ lastChunk ++ rest = encodeChunk c ++ (encodeChunked cs ++ lastChunk ++ rest)
      by simp [encodeChunked], decodeChunkedLoop.loop_of_inr h,
      decodeChunkedLoop_encodeChunked rest cs _ fun c' hc' => hcs c' (List.mem_cons_of_mem _ hc')]
    simp

/-- `decodeChunked` undoes the chunked coding of non-empty chunks, whatever
follows the last chunk (each chunk is shorter than `2^63` bytes, as every Go
string is). -/
theorem decodeChunked_encodeChunked (cs : List Bytes) (hcs : ∀ c ∈ cs, c ≠ [] ∧ c.length < 2 ^ 63)
    (rest : Bytes) : decodeChunked (encodeChunked cs ++ lastChunk ++ rest) = some cs.flatten := by
  simpa using decodeChunkedLoop_encodeChunked rest cs [] hcs

namespace ViaCircuit

/-- One pass of the loop of the `decodeChunked` that `FetchDescriptorViaCircuit`
calls: it stops on a zero size only, and skips the CRLF after a chunk with
`HasPrefix` and a slice. -/
def decodeChunkedPass (remaining result : Bytes) : Option (Bytes ⊕ Bytes × Bytes) :=
  let crlfIdx := index remaining crlf
  if crlfIdx < 0 then some (.inl result) else
  (sliceUpTo remaining crlfIdx).bind fun line =>
  let sizeHex := trimSpace line
  if sizeHex = [] then some (.inl result) else
  match sscanfHex sizeHex with
  | none => some (.inl result)
  | some size =>
    if size = 0 then some (.inl result) else
    (sliceFrom remaining (crlfIdx + 2)).bind fun remaining =>
    if (remaining.length : Int) < size then some (.inl (result ++ remaining)) else
    (sliceUpTo remaining size).bind fun chunk =>
    (sliceFrom remaining size).bind fun remaining =>
    if hasPrefix remaining crlf then (sliceFrom remaining 2).map fun remaining => .inr (remaining, result ++ chunk)
    else some (.inr (remaining, result ++ chunk))

theorem decodeChunkedPass_shrinks (r a r' a' : Bytes) (h : decodeChunkedPass r a = some (.inr (r', a'))) :
    r'.length < r.length := by
  dsimp only [decodeChunkedPass] at h
  by_cases h0 : index r crlf < 0
  · rw [if_pos h0] at h
    cases h
  rw [if_neg h0] at h
  obtain ⟨line, -, h⟩ := Option.bind_eq_some.1 h
  by_cases h1 : trimSpace line = []
  · rw [if_pos h1] at h
    cases h
  rw [if_neg h1] at h
  generalize sscanfHex (trimSpace line) = o at h
  rcases o with _ | size
  · cases h
  dsimp only at h
  split at h
  · cases h
  obtain ⟨r1, hr1, h⟩ := Option.bind_eq_some.1 h
  split at h
  · cases h
  obtain ⟨chunk, -, h⟩ := Option.bind_eq_some.1 h
  obtain ⟨r2, hr2, h⟩ := Option.bind_eq_some.1 h
  have := sliceFrom_length hr1
  have := sliceFrom_length hr2
  split at h
  · obtain ⟨r3, hr3, h⟩ := Option.map_eq_some'.1 h
    cases h
    have := sliceFrom_length hr3
    omega
  · cases h
    omega

/-- The loop of this `decodeChunked`. -/
def decodeChunkedLoop : Pass := ⟨decodeChunkedPass, decodeChunkedPass_shrinks⟩

/-- `decodeChunked` of `FetchDescriptorViaCircuit`. -/
def decodeChunked (data : Bytes) : Option Bytes := decodeChunkedLoop.loop data []

/-- A negative first chunk size passes the zero test and the length test,
and `remaining[:size]` panics. -/
theorem decodeChunkedPass_negative {n : Nat} (h0 : n ≠ 0) (h : n ≤ 2 ^ 63) (t a : Bytes) :
    decodeChunkedPass (45 :: hexSize n ++ crlf ++ t) a = none := by
  have hl : ∀ b ∈ 45 :: hexSize n, b ≠ 13 := by
    simpa using sizeLine_no_cr n
  have hs : trimSpace (45 :: hexSize n) = 45 :: hexSize n := trimSpace_of_forall fun b hb => by
    rcases List.mem_cons.1 hb with rfl | hb
    · rfl
    · obtain ⟨d, hd, rfl⟩ := mem_hexSize hb
      exact (hexDigit_spec d hd).2.2.1
  dsimp only [decodeChunkedPass]
  rw [index_sizeLine hl, if_neg (by omega), List.append_assoc, sliceUpTo_append rfl, Option.some_bind]
  rw [hs, if_neg (List.cons_ne_nil _ _), sscanfHex_neg_hexSize h0 h]
  dsimp only
  rw [if_neg (by omega), ← List.append_assoc, sliceFrom_append (by simp [crlf]; omega), Option.some_bind,
    if_neg (by omega), sliceUpTo_of_neg (by omega)]
  rfl

theorem decodeChunked_negative {n : Nat} (h0 : n ≠ 0) (h : n ≤ 2 ^ 63) (t : Bytes) :
    decodeChunked (45 :: hexSize n ++ crlf ++ t) = none :=
  decodeChunkedLoop.loop_of_none (decodeChunkedPass_negative h0 h t [])

end ViaCircuit

/-! ## `parseHTTPResponse` -/

/-- `parseHTTPResponse`, over the chunked decoder `decode`. -/
def parseResponseWith (decode : Bytes → Option Bytes) (resp : Bytes) : Option (Except String Bytes) :=
  let idx := index resp (crlf ++ crlf)
  if idx < 0 then some (.error "invalid HTTP response from HSDir") else
  (sliceUpTo resp idx).bind fun headerSection =>
  (sliceUpTo headerSection (index headerSection crlf)).bind fun statusLine =>
  if !contains statusLine (ascii "200") then some (.error ("HSDir HTTP response: " ++ byteText statusLine)) else
  (sliceFrom resp (idx + 4)).bind fun body =>
  (if contains (toLower headerSection) (ascii "transfer-encoding: chunked") then decode body else some body).map
    fun body => .ok (trimRight body (ascii "\x00\r\n "))

/-- `parseHTTPResponse`. -/
def parseHTTPResponse (resp : Bytes) : Option (Except String Bytes) := parseResponseWith decodeChunked resp

/-- The response parsing inline in `FetchDescriptorViaCircuit`. -/
def ViaCircuit.parseResponse (resp : Bytes) : Option (Except String Bytes) :=
  parseResponseWith ViaCircuit.decodeChunked resp

/-! ## Responses -/

/-- A header section: the status line, then each header line after a CRLF. -/
def headerText (st : Bytes) (hs : List Bytes) : Bytes := st ++ (hs.map (crlf ++ ·)).flatten

/-- A response: the header section, the empty line, the body. -/
def httpResponse (st : Bytes) (hs : List Bytes) (body : Bytes) : Bytes := headerText st hs ++ crlf ++ crlf ++ body

/-- A header section that asks for the chunked coding: the status line
holds `200`, no line holds a CRLF, no header line is empty (an empty line
ends the section), and one header line is `Transfer-Encoding: chunked`, in
any case. -/
structure ChunkedHead (st : Bytes) (hs : List Bytes) : Prop where
  status_line : ¬ crlf <:+: st
  status_200 : ascii "200" <:+: st
  header_lines : ∀ h ∈ hs, h ≠ [] ∧ ¬ crlf <:+: h
  chunked : ∃ te ∈ hs, toLower te = ascii "transfer-encoding: chunked"

example : ChunkedHead (ascii "HTTP/1.1 200 OK") [ascii "Content-Type: text/plain", ascii "Transfer-Encoding: chunked"] :=
  ⟨by decide, by decide, by decide, ⟨_, List.mem_cons_of_mem _ (List.mem_singleton_self _), by decide⟩⟩

/-- No CRLF, nor a longer separator starting with one, starts inside a line
that a CR follows. -/
theorem no_start_in_line {h y sep : Bytes} (hh : ¬ crlf <:+: h) (hsep : crlf <+: sep) (hy : ∃ y', y = 13 :: y') :
    ∀ z, z <:+ h → z ≠ [] → ¬ sep <+: z ++ y
  | [], _, hne, _ => hne rfl
  | [a], _, _, hp => by
    obtain ⟨y', rfl⟩ := hy
    have := hsep.trans hp
    simp [crlf] at this
  | a :: b :: z, hz, _, hp => by
    have hc := hsep.trans hp
    simp only [crlf, List.cons_append, List.cons_prefix_cons] at hc
    obtain ⟨rfl, rfl, -⟩ := hc
    exact hh ((List.prefix_append [13, 10] z).isInfix.trans hz.isInfix)

theorem not_crlf_prefix_line {h y : Bytes} (hne : h ≠ []) (hh : ¬ crlf <:+: h) (hy : ∃ y', y = 13 :: y') :
    ¬ crlf <+: h ++ y :=
  no_start_in_line hh (List.prefix_refl _) hy h (List.suffix_refl _) hne

/-- No empty line starts inside a CRLF that no CRLF follows. -/
theorem no_start_in_crlf {w : Bytes} (hw : ¬ crlf <+: w) : ∀ z, z <:+ crlf → z ≠ [] → ¬ crlf ++ crlf <+: z ++ w := by
  intro z hz hne hp
  simp only [crlf, List.suffix_cons_iff, List.suffix_nil] at hz
  rcases hz with rfl | rfl | rfl
  · exact hw (by simpa [crlf] using hp)
  · simp [crlf] at hp
  · exact hne rfl

theorem headerLines_cr (hs : List Bytes) (w : Bytes) : ∃ y, (hs.map (crlf ++ ·)).flatten ++ (crlf ++ w) = 13 :: y := by
  cases hs <;> simp [crlf]

/-- The first empty line after the header lines is the one that ends them. -/
theorem index_headerLines (body : Bytes) :
    ∀ hs : List Bytes, (∀ h ∈ hs, h ≠ [] ∧ ¬ crlf <:+: h) →
      index ((hs.map (crlf ++ ·)).flatten ++ (crlf ++ (crlf ++ body))) (crlf ++ crlf) =
        ((hs.map (crlf ++ ·)).flatten).length
  | [], _ => index_eq_zero_of_isPrefixOf (List.prefix_append _ _)
  | h :: hs, hl => by
    have hh := hl h (List.mem_cons_self _ _)
    have ih := index_headerLines body hs fun h' hh' => hl h' (List.mem_cons_of_mem _ hh')
    obtain ⟨y, hy⟩ := headerLines_cr hs (crlf ++ body)
    have h1 : index (h ++ ((hs.map (crlf ++ ·)).flatten ++ (crlf ++ (crlf ++ body)))) (crlf ++ crlf) =
        h.length + ((hs.map (crlf ++ ·)).flatten).length := by
      rw [index_append (no_start_in_line hh.2 (List.prefix_append _ _) ⟨y, hy⟩) (by omega), ih]
    simp only [List.map_cons, List.flatten_cons, List.append_assoc, List.length_append]
    rw [index_append (no_start_in_crlf (not_crlf_prefix_line hh.1 hh.2 ⟨y, hy⟩)) (by omega), h1]
    simp only [crlf, List.length_cons, List.length_nil]
    omega

theorem index_httpResponse {st : Bytes} {hs : List Bytes} (hst : ¬ crlf <:+: st)
    (hl : ∀ h ∈ hs, h ≠ [] ∧ ¬ crlf <:+: h) (body : Bytes) :
    index (httpResponse st hs body) (crlf ++ crlf) = (headerText st hs).length := by
  obtain ⟨y, hy⟩ := headerLines_cr hs (crlf ++ body)
  have h1 := index_headerLines body hs hl
  rw [httpResponse, headerText, List.append_assoc, List.append_assoc, List.append_assoc,
    index_append (no_start_in_line hst (List.prefix_append _ _) ⟨y, hy⟩) (by omega), h1, List.length_append]
  omega

theorem index_headerText {st : Bytes} {hs : List Bytes} (hst : ¬ crlf <:+: st) (hne : hs ≠ []) :
    index (headerText st hs) crlf = st.length := by
  obtain ⟨h, hs, rfl⟩ := List.exists_cons_of_ne_nil hne
  rw [headerText, List.map_cons, List.flatten_cons,
    index_append (no_start_in_line (y := crlf ++ h ++ (hs.map (crlf ++ ·)).flatten) hst (List.prefix_refl _)
      ⟨_, rfl⟩) (index_eq_zero_of_isPrefixOf (by simp)).ge, index_eq_zero_of_isPrefixOf (by simp), add_zero]

theorem toLower_infix_headerText {st te : Bytes} {hs : List Bytes} (hte : te ∈ hs) :
    toLower te <:+: toLower (headerText st hs) :=
  (((List.suffix_append crlf te).isInfix.trans (List.infix_of_mem_flatten (List.mem_map_of_mem _ hte))).trans
    (List.suffix_append st _).isInfix).map _

/-- On a response whose header section asks for the chunked coding, the
parse returns what the decoder returns for the body, trimmed. -/
theorem parseResponseWith_chunked (decode : Bytes → Option Bytes) {st : Bytes} {hs : List Bytes}
    (hh : ChunkedHead st hs) (body : Bytes) :
    parseResponseWith decode (httpResponse st hs body) =
      (decode body).map fun b => .ok (trimRight b (ascii "\x00\r\n ")) := by
  obtain ⟨te, hte, hlow⟩ := hh.chunked
  have h200 := (contains_eq_true_iff st _).2 hh.status_200
  have hte' := (contains_eq_true_iff (toLower (headerText st hs)) _).2 (hlow ▸ toLower_infix_headerText hte)
  have hsec : sliceUpTo (httpResponse st hs body) (headerText st hs).length = some (headerText st hs) := by
    rw [httpResponse, List.append_assoc, List.append_assoc, sliceUpTo_append rfl]
  have hstat : sliceUpTo (headerText st hs) st.length = some st := sliceUpTo_append rfl
  have hbody : sliceFrom (httpResponse st hs body) ((headerText st hs).length + 4) = some body :=
    sliceFrom_append (by simp [crlf])
  dsimp only [parseResponseWith]
  rw [index_httpResponse hh.status_line hh.header_lines, if_neg (by omega), hsec, Option.some_bind,
    index_headerText hh.status_line (List.ne_nil_of_mem hte), hstat, Option.some_bind, h200]
  rw [if_neg (by decide), hbody, Option.some_bind, if_pos hte']

/-- A parse panics exactly when the text before the first empty line holds
no CRLF: the status line is then sliced with `strings.Index`'s `-1`. -/
theorem parseResponseWith_eq_none_iff (decode : Bytes → Option Bytes) (hd : ∀ b, (decode b).isSome) (r : Bytes) :
    parseResponseWith decode r = none ↔ ∃ h b, r = h ++ crlf ++ crlf ++ b ∧ ¬ crlf <:+: h := by
  dsimp only [parseResponseWith]
  constructor
  · intro hn
    rcases index_cases r (crlf ++ crlf) with hi | ⟨h, t, rfl, hi⟩
    · rw [hi, if_pos (by decide)] at hn
      cases hn
    refine ⟨h, t, by simp, fun hc => ?_⟩
    rw [hi, if_neg (by omega), List.append_assoc, sliceUpTo_append rfl, Option.some_bind] at hn
    rcases index_cases h crlf with hj | ⟨a, b, rfl, hj⟩
    · exact (index_neg_iff _ crlf).1 (by omega) hc
    rw [hj, List.append_assoc, sliceUpTo_append rfl, Option.some_bind] at hn
    split at hn
    · cases hn
    rw [← List.append_assoc, sliceFrom_append (by simp [crlf]; omega), Option.some_bind] at hn
    split at hn
    · have := hd t
      rw [Option.map_eq_none'.1 hn] at this
      cases this
    · cases hn
  · rintro ⟨h, b, rfl, hc⟩
    have hi : index (h ++ crlf ++ crlf ++ b) (crlf ++ crlf) = h.length := by
      rw [List.append_assoc, List.append_assoc,
        index_append (no_start_in_line (y := crlf ++ (crlf ++ b)) hc (List.prefix_append _ _) ⟨_, rfl⟩)
          (index_eq_zero_of_isPrefixOf (by simp)).ge, index_eq_zero_of_isPrefixOf (by simp), add_zero]
    rw [hi, if_neg (by omega), List.append_assoc, List.append_assoc, sliceUpTo_append rfl, Option.some_bind,
      sliceUpTo_of_neg ((index_neg_iff h crlf).2 hc)]
    rfl

/-! ## What the HSDir's response can make the client do -/

/-- **`parseHTTPResponse` on every input.** It panics exactly on the
responses whose text before the first empty line is a single line, the
status line alone; on a `200` response whose headers ask for the chunked
coding it returns the chunks, trimmed; and the inline revision in
`FetchDescriptorViaCircuit` panics on such a response whose first chunk
size is negative. Every other input ends in an error or a body, since the
decoder always returns. -/
theorem parseHTTPResponse_outcomes :
    (∀ r, parseHTTPResponse r = none ↔ ∃ h b, r = h ++ crlf ++ crlf ++ b ∧ ¬ crlf <:+: h) ∧
    (∀ st hs cs rest, ChunkedHead st hs → (∀ c ∈ cs, c ≠ [] ∧ c.length < 2 ^ 63) →
      parseHTTPResponse (httpResponse st hs (encodeChunked cs ++ lastChunk ++ rest)) =
        some (.ok (trimRight cs.flatten (ascii "\x00\r\n ")))) ∧
    (∀ st hs n t, ChunkedHead st hs → n ≠ 0 → n ≤ 2 ^ 63 →
      ViaCircuit.parseResponse (httpResponse st hs (45 :: hexSize n ++ crlf ++ t)) = none) :=
  ⟨parseResponseWith_eq_none_iff _ decodeChunked_isSome,
    fun _ _ cs rest hh hcs => by
      rw [parseHTTPResponse, parseResponseWith_chunked _ hh, decodeChunked_encodeChunked cs hcs rest]
      rfl,
    fun _ _ _ t hh h0 h => by
      rw [ViaCircuit.parseResponse, parseResponseWith_chunked _ hh, ViaCircuit.decodeChunked_negative h0 h t]
      rfl⟩

/-- A status line alone before the empty line: `parseHTTPResponse` panics. -/
theorem status_line_alone_panics : parseHTTPResponse (ascii "HTTP/1.0 200 OK\r\n\r\nX") = none :=
  (parseHTTPResponse_outcomes.1 _).2 ⟨ascii "HTTP/1.0 200 OK", ascii "X", by decide, by decide⟩

end TorGo.L5
