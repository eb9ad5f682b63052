import TorGo.L5Directory.Consensus
import TorGo.L5Onion.IntroPoint
import TorGo.L5Onion.Fetch

/-!
# Relay server descriptors (`descriptor.ParseDescriptor`)

`ParseDescriptor` (`src/descriptor/descriptor.go:59-127`) reads the three
lines of a relay's server descriptor that a circuit needs, each line first
trimmed of white space:

* `router <nickname> <address> <ORPort> ...`: the address, and the port
  through `strconv.ParseUint(.., 10, 16)`;
* `fingerprint XXXX XXXX ...`: the hex digits with their spaces removed,
  decoded by `hex.DecodeString` to the 20-byte node id, and kept upper-cased
  as `Fingerprint`;
* `ntor-onion-key <base64>`: the key, unpadded base64 first and padded
  second, of 32 bytes.

A later line of a kind overwrites an earlier one, the first line that does
not parse ends the loop with its error, and the descriptor must hold a line
of each kind. The error texts are the source's, with the `%w` of the
library errors written out: `hex.DecodeString`'s `InvalidByteError`
(`%#U` of the byte) and `ErrLength`, base64's `CorruptInputError` and
strconv's `NumError` (its number quoted as `strconv.Quote` does for ASCII;
a byte above `0x7f` is written `\x..` here, as Go does for a byte that does
not start a valid UTF-8 sequence).

Results:
* `parseDescriptor_published`: the three lines a relay publishes, among any
  other ASCII lines, parse to its address, port, node id, ntor key and the
  upper-case hex of its node id, however the fingerprint is grouped and
  whichever base64 padding the key has;
* `parseDescriptor_ok`: whatever `ParseDescriptor` accepts has a 20-byte
  node id whose upper-case hex is the `Fingerprint`, a 32-byte ntor key and
  a 16-bit port.
-/
namespace TorGo.L5.RouterDescriptor

open TorGo.L1 TorGo.L5 TorGo.L5.Directory

/-! ## `encoding/hex` and the error texts -/

/-- The two digits `%02X` (`upper`) or `%02x` writes for a byte. -/
def hex2 (upper : Bool) (b : UInt8) : String :=
  let digits := if upper then "0123456789ABCDEF" else "0123456789abcdef"
  ⟨[digits.get ⟨b.toNat / 16⟩, digits.get ⟨b.toNat % 16⟩]⟩

/-- `strconv.IsPrint` on a rune below 256. -/
def isPrintLatin1 (b : UInt8) : Bool := (32 ≤ b && b ≤ 126) || (161 ≤ b && b != 173)

/-- `InvalidByteError.Error`: `%#U` of the byte, with the character itself
when it is printable. -/
def invalidByteText (b : UInt8) : String :=
  "encoding/hex: invalid byte: U+00" ++ hex2 true b ++
    if isPrintLatin1 b then " '" ++ (Char.ofNat b.toNat).toString ++ "'" else ""

/-- `hex.Decode`'s loop over pairs of digits, with the bytes written so far;
an odd last digit is `ErrLength`, after the check of that digit. -/
def hexDecodeLoop : Bytes → Bytes → Except String Bytes
  | p :: q :: rest, out =>
    if !isHexDigit p then .error (invalidByteText p)
    else if !isHexDigit q then .error (invalidByteText q)
    else hexDecodeLoop rest (out ++ [UInt8.ofNat (hexDigitValue p * 16 + hexDigitValue q)])
  | [p], _ => if !isHexDigit p then .error (invalidByteText p) else .error "encoding/hex: odd length hex string"
  | [], out => .ok out

/-- `hex.DecodeString`; on an error the caller drops the bytes decoded. -/
def hexDecodeString (s : Bytes) : Except String Bytes := hexDecodeLoop s []

/-- One byte of `strconv.Quote`. -/
def quoteByte (b : UInt8) : String :=
  if b = 34 then "\\\"" else if b = 92 then "\\\\"
  else if 32 ≤ b ∧ b < 127 then (Char.ofNat b.toNat).toString
  else if b = 7 then "\\a" else if b = 8 then "\\b" else if b = 12 then "\\f" else if b = 10 then "\\n"
  else if b = 13 then "\\r" else if b = 9 then "\\t" else if b = 11 then "\\v"
  else "\\x" ++ hex2 false b

/-- `NumError.Error` of `strconv.ParseUint`. -/
def numErrorText (num : Bytes) (e : NumError) : String :=
  "strconv.ParseUint: parsing \"" ++ String.join (num.map quoteByte) ++ "\": " ++
    match e with
    | .errSyntax => "invalid syntax"
    | .errRange => "value out of range"

/-! ## `ParseDescriptor` -/

/-- `RelayInfo` of the `descriptor` package. -/
structure RelayInfo where
  nodeID : Bytes
  ntorOnionKey : Bytes
  address : Bytes
  orPort : Nat
  fingerprint : Bytes
  deriving DecidableEq, Repr

/-- The variables of the loop: `info` and the three flags. -/
structure Scan where
  info : RelayInfo
  hasRouter : Bool
  hasFingerprint : Bool
  hasNtorKey : Bool
  deriving DecidableEq, Repr

/-- `&RelayInfo{}` and the flags all false. -/
def Scan.start : Scan := ⟨⟨List.replicate 20 0, List.replicate 32 0, [], 0, []⟩, false, false, false⟩

/-- The `router ` case. -/
def routerCase (sc : Scan) (line : Bytes) : Except String Scan :=
  if hasPrefix line (ascii "router ") then
    let parts := fields line
    if parts.length < 4 then .error ("malformed router line: " ++ byteText line) else
    match parseUint (parts.getD 3 []) 16 with
    | .error e => .error ("parse OR port: " ++ numErrorText (parts.getD 3 []) e)
    | .ok port => .ok { sc with info := { sc.info with address := parts.getD 2 [], orPort := port }, hasRouter := true }
  else .ok sc

/-- The `fingerprint ` case. -/
def fingerprintCase (sc : Scan) (line : Bytes) : Except String Scan :=
  if hasPrefix line (ascii "fingerprint ") then
    let fpHex := (line.drop 12).filter (· != 32)
    match hexDecodeString fpHex with
    | .error e => .error ("decode fingerprint: " ++ e)
    | .ok fpBytes =>
      if fpBytes.length ≠ 20 then .error ("fingerprint wrong length: " ++ toString fpBytes.length)
      else .ok { sc with info := { sc.info with nodeID := fpBytes, fingerprint := toUpper fpHex },
                         hasFingerprint := true }
  else .ok sc

/-- The `ntor-onion-key ` case. -/
def ntorCase (sc : Scan) (line : Bytes) : Except String Scan :=
  if hasPrefix line (ascii "ntor-onion-key ") then
    match decodeEither rawStdDecodeString stdDecodeString (trimSpace (line.drop 15)) with
    | .error e => .error ("decode ntor-onion-key: " ++ e)
    | .ok keyBytes =>
      if keyBytes.length ≠ 32 then .error ("ntor-onion-key wrong length: " ++ toString keyBytes.length)
      else .ok { sc with info := { sc.info with ntorOnionKey := keyBytes }, hasNtorKey := true }
  else .ok sc

/-- One pass of the loop, on the trimmed line. -/
def descriptorLine (sc : Scan) (line : Bytes) : Except String Scan := do
  let sc ← routerCase sc (trimSpace line)
  let sc ← fingerprintCase sc (trimSpace line)
  ntorCase sc (trimSpace line)

/-- `ParseDescriptor`. -/
def parseDescriptor (text : Bytes) : Except String RelayInfo :=
  match (splitLines text).foldlM descriptorLine Scan.start with
  | .error e => .error e
  | .ok sc =>
    if !sc.hasRouter then .error "missing router line"
    else if !sc.hasFingerprint then .error "missing fingerprint line"
    else if !sc.hasNtorKey then .error "missing ntor-onion-key line"
    else .ok sc.info

/-! ## The hex digits of a fingerprint -/

theorem toUpper_cons (b : UInt8) (s : Bytes) : toUpper (b :: s) = toUpper [b] ++ toUpper s := rfl

theorem toUpper_hexEncode_cons (x : UInt8) (b : Bytes) :
    toUpper (hexEncode (x :: b)) =
      toUpper [hextable.getD (x.toNat / 16) 0] ++ toUpper [hextable.getD (x.toNat % 16) 0] ++
        toUpper (hexEncode b) := rfl

/-- The digits of `hextable`, upper-cased, are hex digits of their own value. -/
theorem upperHexDigit : ∀ n < 16, ∀ p ∈ toUpper [hextable.getD n 0], isHexDigit p = true ∧ hexDigitValue p = n := by
  decide

set_option maxRecDepth 4000 in
/-- A hex digit, upper-cased, is the `hextable` digit of its value upper-cased. -/
theorem toUpper_hexDigit {p : UInt8} (h : isHexDigit p = true) :
    hexDigitValue p < 16 ∧ toUpper [p] = toUpper [hextable.getD (hexDigitValue p) 0] := by
  have all : ∀ n < 256, isHexDigit (UInt8.ofNat n) = true → hexDigitValue (UInt8.ofNat n) < 16 ∧
      toUpper [UInt8.ofNat n] = toUpper [hextable.getD (hexDigitValue (UInt8.ofNat n)) 0] := by
    decide
  have hp := all p.toNat p.toNat_lt_size
  rw [uint8_ofNat_of_mod (Nat.mod_eq_of_lt p.toNat_lt_size)] at hp
  exact hp h

/-- `hex.DecodeString` reads back the upper-case hex of any bytes. -/
theorem hexDecodeLoop_toUpper_hexEncode : ∀ (b out : Bytes),
    hexDecodeLoop (toUpper (hexEncode b)) out = .ok (out ++ b)
  | [], out => by rw [List.append_nil]; rfl
  | x :: b, out => by
    have hx : x.toNat < 256 := x.toNat_lt_size
    obtain ⟨p, hp⟩ : ∃ p, toUpper [hextable.getD (x.toNat / 16) 0] = [p] := ⟨_, rfl⟩
    obtain ⟨q, hq⟩ : ∃ q, toUpper [hextable.getD (x.toNat % 16) 0] = [q] := ⟨_, rfl⟩
    obtain ⟨hp1, hp2⟩ := upperHexDigit (x.toNat / 16) (by omega) p (by rw [hp]; exact List.mem_singleton_self p)
    obtain ⟨hq1, hq2⟩ := upperHexDigit (x.toNat % 16) (by omega) q (by rw [hq]; exact List.mem_singleton_self q)
    rw [toUpper_hexEncode_cons, hp, hq, List.append_assoc, List.singleton_append, List.singleton_append, hexDecodeLoop,
      hp1, hq1, hp2, hq2, Nat.div_add_mod', uint8_ofNat_of_mod (Nat.mod_eq_of_lt hx)]
    simpa using hexDecodeLoop_toUpper_hexEncode b (out ++ [x])

/-- What `hex.DecodeString` accepts is, upper-cased, the upper-case hex of
the bytes it returns. -/
theorem hexDecodeLoop_ok : ∀ {s out r : Bytes}, hexDecodeLoop s out = .ok r →
    ∃ b, r = out ++ b ∧ toUpper s = toUpper (hexEncode b)
  | p :: q :: rest, out, r, h => by
    rw [hexDecodeLoop] at h
    split_ifs at h with hp hq
    simp only [Bool.not_eq_true', Bool.not_eq_false] at hp hq
    obtain ⟨b, rfl, hb⟩ := hexDecodeLoop_ok h
    obtain ⟨vp, hup⟩ := toUpper_hexDigit hp
    obtain ⟨vq, huq⟩ := toUpper_hexDigit hq
    have hx : (UInt8.ofNat (hexDigitValue p * 16 + hexDigitValue q)).toNat =
        hexDigitValue p * 16 + hexDigitValue q := by
      rw [UInt8.toNat_ofNat']; omega
    refine ⟨UInt8.ofNat (hexDigitValue p * 16 + hexDigitValue q) :: b, by simp, ?_⟩
    rw [toUpper_cons, toUpper_cons q, hb, toUpper_hexEncode_cons, hx, hup, huq,
      show (hexDigitValue p * 16 + hexDigitValue q) / 16 = hexDigitValue p by omega,
      show (hexDigitValue p * 16 + hexDigitValue q) % 16 = hexDigitValue q by omega, List.append_assoc]
  | [p], out, r, h => by
    rw [hexDecodeLoop] at h
    split_ifs at h
  | [], out, r, h => ⟨[], by cases h; simp, rfl⟩

theorem hexDecodeString_toUpper_hexEncode (b : Bytes) : hexDecodeString (toUpper (hexEncode b)) = .ok b := by
  rw [hexDecodeString, hexDecodeLoop_toUpper_hexEncode, List.nil_append]

/-- `strings.ToUpper` leaves upper-case hex as it is. -/
theorem toUpper_toUpper_hexEncode (b : Bytes) : toUpper (toUpper (hexEncode b)) = toUpper (hexEncode b) :=
  toUpper_of_forall fun c hc => by
    have hu : ∀ c ∈ ascii "0123456789ABCDEF", ¬ (97 ≤ c ∧ c ≤ 122) := by decide
    exact hu c (mem_toUpper_hexEncode hc)

/-! ## The cases of the loop -/

theorem routerCase_skip {sc : Scan} {line : Bytes} (h : hasPrefix line (ascii "router ") = false) :
    routerCase sc line = .ok sc := by
  rw [routerCase, if_neg (by rw [h]; decide)]

theorem fingerprintCase_skip {sc : Scan} {line : Bytes} (h : hasPrefix line (ascii "fingerprint ") = false) :
    fingerprintCase sc line = .ok sc := by
  rw [fingerprintCase, if_neg (by rw [h]; decide)]

theorem ntorCase_skip {sc : Scan} {line : Bytes} (h : hasPrefix line (ascii "ntor-onion-key ") = false) :
    ntorCase sc line = .ok sc := by
  rw [ntorCase, if_neg (by rw [h]; decide)]

/-- A line, once trimmed, of none of the three kinds the loop reads. -/
def skippedLine (line : Bytes) : Bool :=
  !hasPrefix (trimSpace line) (ascii "router ") && !hasPrefix (trimSpace line) (ascii "fingerprint ") &&
    !hasPrefix (trimSpace line) (ascii "ntor-onion-key ")

theorem descriptorLine_skipped {sc : Scan} {line : Bytes} (h : skippedLine line = true) :
    descriptorLine sc line = .ok sc := by
  simp only [skippedLine, Bool.and_eq_true, Bool.not_eq_true'] at h
  rw [descriptorLine, routerCase_skip h.1.1]
  show fingerprintCase sc (trimSpace line) >>= _ = _
  rw [fingerprintCase_skip h.1.2]
  exact ntorCase_skip h.2

/-! ## The lines a relay publishes -/

/-- The fields of a relay that the three lines carry: the nickname, address
and ports of its `router` line, its node id and the groups of hex digits
its `fingerprint` line spells it in, and its ntor key in base64, with or
without padding. -/
structure Published where
  nickname : Bytes
  address : Bytes
  orPort : Nat
  socksPort : Nat
  dirPort : Nat
  nodeID : Bytes
  fingerprintGroups : List Bytes
  ntorOnionKey : Bytes
  padded : Bool
  deriving DecidableEq, Repr

namespace Published

/-- `router <nickname> <address> <ORPort> <SOCKSPort> <DirPort>`. -/
def routerLine (p : Published) : Bytes :=
  joinWords (ascii "router") [p.nickname, p.address, decimal p.orPort, decimal p.socksPort, decimal p.dirPort]

/-- `fingerprint XXXX XXXX ...`. -/
def fingerprintLine (p : Published) : Bytes := joinWords (ascii "fingerprint") p.fingerprintGroups

/-- `ntor-onion-key <base64>`. -/
def ntorLine (p : Published) : Bytes := joinWords (ascii "ntor-onion-key") [encodeToString p.padded p.ntorOnionKey]

/-- What a relay publishes: a nickname and an address of ASCII text with no
white space (Go's Unicode `strings.Fields` then splits the `router` line
where `fields` does), a 16-bit OR port, a 20-byte node id whose upper-case
hex the groups spell out, and a 32-byte key. -/
structure WellFormed (p : Published) : Prop where
  nickname : IsWord p.nickname
  address : IsWord p.address
  orPort : p.orPort < 2 ^ 16
  nodeID : p.nodeID.length = 20
  groups : ∀ g ∈ p.fingerprintGroups, IsWord g
  groups_hex : p.fingerprintGroups.flatten = toUpper (hexEncode p.nodeID)
  ntorOnionKey : p.ntorOnionKey.length = 32
  asciiWords : IsAscii p.nickname ∧ IsAscii p.address

/-- The `RelayInfo` the descriptor stands for. -/
def info (p : Published) : RelayInfo :=
  ⟨p.nodeID, p.ntorOnionKey, p.address, p.orPort, toUpper (hexEncode p.nodeID)⟩

/-- What a line does to the loop's variables, by the kind of line it is,
with the values `p`'s lines carry. -/
def lineEffect (p : Published) (sc : Scan) (line : Bytes) : Scan :=
  if hasPrefix (trimSpace line) (ascii "router ") then
    { sc with info := { sc.info with address := p.address, orPort := p.orPort }, hasRouter := true }
  else if hasPrefix (trimSpace line) (ascii "fingerprint ") then
    { sc with info := { sc.info with nodeID := p.nodeID, fingerprint := toUpper (hexEncode p.nodeID) },
              hasFingerprint := true }
  else if hasPrefix (trimSpace line) (ascii "ntor-onion-key ") then
    { sc with info := { sc.info with ntorOnionKey := p.ntorOnionKey }, hasNtorKey := true }
  else sc

/-- Each kind of line sets fields of its own, so two lines act in either
order alike. -/
theorem lineEffect_right_comm (p : Published) (sc : Scan) (x y : Bytes) :
    p.lineEffect (p.lineEffect sc x) y = p.lineEffect (p.lineEffect sc y) x := by
  unfold lineEffect
  split_ifs <;> rfl

theorem lineEffect_skipped (p : Published) (sc : Scan) {line : Bytes} (h : skippedLine line = true) :
    p.lineEffect sc line = sc := by
  simp only [skippedLine, Bool.and_eq_true, Bool.not_eq_true'] at h
  simp only [lineEffect, h.1.1, h.1.2, h.2]
  rfl

variable {p : Published}

theorem WellFormed.routerWords (hp : p.WellFormed) :
    ∀ v ∈ [p.nickname, p.address, decimal p.orPort, decimal p.socksPort, decimal p.dirPort], IsWord v := by
  simp [hp.nickname, hp.address, RelayEntry.isWord_decimal]

theorem WellFormed.keyWords (hp : p.WellFormed) : ∀ v ∈ [encodeToString p.padded p.ntorOnionKey], IsWord v := by
  have hkey : IsWord (encodeToString p.padded p.ntorOnionKey) :=
    ⟨encodeToString_ne_nil _ (List.ne_nil_of_length_pos (by rw [hp.ntorOnionKey]; decide)),
      fun _ hb => (base64_char (mem_encodeToString hb)).1⟩
  simpa using hkey

theorem WellFormed.groups_ne_nil (hp : p.WellFormed) : p.fingerprintGroups ≠ [] := fun h => by
  have := hp.groups_hex
  rw [h, List.flatten_nil] at this
  exact toUpper_ne_nil (hexEncode_ne_nil (List.ne_nil_of_length_pos (by rw [hp.nodeID]; decide))) this.symm

/-- The `router` line: `TrimSpace` leaves it, and it is of that kind only. -/
theorem WellFormed.routerLine_kind (hp : p.WellFormed) :
    trimSpace p.routerLine = p.routerLine ∧ hasPrefix p.routerLine (ascii "router ") = true ∧
      hasPrefix p.routerLine (ascii "fingerprint ") = false ∧ hasPrefix p.routerLine (ascii "ntor-onion-key ") = false := by
  have hr : hasPrefix p.routerLine (ascii "router ") = true := hasPrefix_joinWords _ _ _
  exact ⟨trimSpace_joinWords (by decide) hp.routerWords, hr, hasPrefix_false_of hr (by decide),
    hasPrefix_false_of hr (by decide)⟩

theorem WellFormed.fingerprintLine_kind (hp : p.WellFormed) :
    trimSpace p.fingerprintLine = p.fingerprintLine ∧ hasPrefix p.fingerprintLine (ascii "router ") = false ∧
      hasPrefix p.fingerprintLine (ascii "fingerprint ") = true ∧
        hasPrefix p.fingerprintLine (ascii "ntor-onion-key ") = false := by
  obtain ⟨g, gs, hg⟩ := List.exists_cons_of_ne_nil hp.groups_ne_nil
  have hf : hasPrefix p.fingerprintLine (ascii "fingerprint ") = true := by
    rw [fingerprintLine, hg]; exact hasPrefix_joinWords _ _ _
  exact ⟨trimSpace_joinWords (by decide) hp.groups, hasPrefix_false_of hf (by decide), hf,
    hasPrefix_false_of hf (by decide)⟩

theorem WellFormed.ntorLine_kind (hp : p.WellFormed) :
    trimSpace p.ntorLine = p.ntorLine ∧ hasPrefix p.ntorLine (ascii "router ") = false ∧
      hasPrefix p.ntorLine (ascii "fingerprint ") = false ∧
        hasPrefix p.ntorLine (ascii "ntor-onion-key ") = true := by
  have hn : hasPrefix p.ntorLine (ascii "ntor-onion-key ") = true := hasPrefix_joinWords _ _ _
  exact ⟨trimSpace_joinWords (by decide) hp.keyWords, hasPrefix_false_of hn (by decide),
    hasPrefix_false_of hn (by decide), hn⟩

theorem WellFormed.descriptorLine_routerLine (hp : p.WellFormed) (sc : Scan) :
    descriptorLine sc p.routerLine = .ok (p.lineEffect sc p.routerLine) := by
  obtain ⟨ht, hr, hf, hn⟩ := hp.routerLine_kind
  have hfields : fields p.routerLine =
      [ascii "router", p.nickname, p.address, decimal p.orPort, decimal p.socksPort, decimal p.dirPort] :=
    fields_joinWords (by decide) hp.routerWords
  simp only [descriptorLine, lineEffect, ht, routerCase, hr, if_true, hfields]
  simp [parseUint_decimal hp.orPort, fingerprintCase_skip hf, ntorCase_skip hn]

theorem WellFormed.descriptorLine_fingerprintLine (hp : p.WellFormed) (sc : Scan) :
    descriptorLine sc p.fingerprintLine = .ok (p.lineEffect sc p.fingerprintLine) := by
  obtain ⟨ht, hr, hf, hn⟩ := hp.fingerprintLine_kind
  obtain ⟨g, gs, hg⟩ := List.exists_cons_of_ne_nil hp.groups_ne_nil
  have hhex : (p.fingerprintLine.drop 12).filter (· != 32) = toUpper (hexEncode p.nodeID) := by
    have hline : p.fingerprintLine = ascii "fingerprint " ++ joinWords g gs := by
      rw [fingerprintLine, hg, joinWords_cons]; rfl
    rw [hline, List.drop_left' (show (ascii "fingerprint ").length = 12 from rfl), filter_joinWords (hp.groups g (hg ▸ .head _)) fun v hv => hp.groups v (hg ▸ .tail _ hv),
      ← hg, hp.groups_hex]
  simp only [descriptorLine, lineEffect, ht, routerCase_skip hr, fingerprintCase, hr, hf, if_true, hhex,
    hexDecodeString_toUpper_hexEncode, hp.nodeID]
  simp [toUpper_toUpper_hexEncode, ntorCase_skip hn]

theorem WellFormed.descriptorLine_ntorLine (hp : p.WellFormed) (sc : Scan) :
    descriptorLine sc p.ntorLine = .ok (p.lineEffect sc p.ntorLine) := by
  obtain ⟨ht, hr, hf, hn⟩ := hp.ntorLine_kind
  have hkey : trimSpace (p.ntorLine.drop 15) = encodeToString p.padded p.ntorOnionKey := by
    have hline : p.ntorLine = ascii "ntor-onion-key " ++ encodeToString p.padded p.ntorOnionKey := by
      simp only [ntorLine, joinWords, List.flatMap_cons, List.flatMap_nil, List.append_nil]; rfl
    rw [hline, List.drop_left' (show (ascii "ntor-onion-key ").length = 15 from rfl), trimSpace_of_forall fun _ hb => (base64_char (mem_encodeToString hb)).1]
  simp only [descriptorLine, lineEffect, ht, routerCase_skip hr, fingerprintCase_skip hf, ntorCase, hr, hf, hn, if_true, hkey,
    decodeEither_encodeToString, hp.ntorOnionKey]
  simp

theorem foldl_lineEffect_skipped (p : Published) : ∀ {ls : List Bytes}, (∀ l ∈ ls, skippedLine l = true) →
    ∀ sc, ls.foldl p.lineEffect sc = sc
  | [], _, _ => rfl
  | l :: ls, h, sc => by
    rw [List.foldl_cons, p.lineEffect_skipped sc (h l (.head _))]
    exact foldl_lineEffect_skipped p (fun l' hl => h l' (.tail _ hl)) sc

end Published

/-- The relay of the package's test descriptor. -/
def testRelay : Published :=
  ⟨ascii "TestRelay", ascii "192.168.1.1", 9001, 0, 0,
    [171, 205, 239, 1, 35, 69, 103, 137, 171, 205, 239, 1, 35, 69, 103, 137, 171, 205, 239, 1],
    [ascii "ABCD", ascii "EF01", ascii "2345", ascii "6789", ascii "ABCD", ascii "EF01", ascii "2345",
      ascii "6789", ascii "ABCD", ascii "EF01"],
    [148, 98, 223, 78, 0, 154, 60, 47, 221, 173, 131, 35, 57, 209, 148, 151, 64, 234, 51, 26, 140, 207, 180, 247,
      69, 210, 207, 88, 23, 255, 255, 102], false⟩

/-- The descriptor of the package's tests. -/
def testDescriptor : String :=
  "@type server-descriptor 1.0\nrouter TestRelay 192.168.1.1 9001 0 0\nidentity-ed25519\n" ++
  "-----BEGIN ED25519 CERT-----\nAQoABnGqAT...\n-----END ED25519 CERT-----\n" ++
  "master-key-ed25519 fakeed25519key\nplatform Tor 0.4.8.0 on Linux\npublished 2026-02-15 12:00:00\n" ++
  "fingerprint ABCD EF01 2345 6789 ABCD EF01 2345 6789 ABCD EF01\nuptime 86400\n" ++
  "bandwidth 1073741824 1073741824 1073741824\nonion-key\n-----BEGIN RSA PUBLIC KEY-----\n" ++
  "MIGfMA0GCSqGSIb3DQEBAQUAA4GNADCBiQKBgQC7...\n-----END RSA PUBLIC KEY-----\nsigning-key\n" ++
  "-----BEGIN RSA PUBLIC KEY-----\nMIGfMA0GCSqGSIb3DQEBAQUAA4GNADCBiQKBgQC7...\n-----END RSA PUBLIC KEY-----\n" ++
  "ntor-onion-key lGLfTgCaPC/drYMjOdGUl0DqMxqMz7T3RdLPWBf//2Y\nrouter-signature\n" ++
  "-----BEGIN SIGNATURE-----\nfake...\n-----END SIGNATURE-----"

theorem testRelay_wellFormed : testRelay.WellFormed :=
  ⟨by decide, by decide, by decide, rfl, by decide, by decide, rfl, by decide⟩

/-- A loop whose every line succeeds runs as the plain fold of what each
line does. -/
theorem foldlM_descriptorLine {g : Scan → Bytes → Scan} : ∀ {ls : List Bytes},
    (∀ l ∈ ls, ∀ sc, descriptorLine sc l = .ok (g sc l)) → ∀ sc, ls.foldlM descriptorLine sc = .ok (ls.foldl g sc)
  | [], _, _ => rfl
  | l :: ls, h, sc => by
    rw [List.foldlM_cons, h l (.head _), List.foldl_cons]
    exact foldlM_descriptorLine (fun l' hl => h l' (.tail _ hl)) _

open Published in
/-- **Round trip.** The three lines a relay publishes, in any order and
among any ASCII lines of no kind the loop reads, parse to the relay's address,
port, node id and ntor key and the upper-case hex of its node id, however
the fingerprint is grouped and whichever base64 padding the key has. -/
theorem parseDescriptor_published {p : Published} (hp : p.WellFormed) {lines others : List Bytes}
    (hperm : lines.Perm (p.routerLine :: p.fingerprintLine :: p.ntorLine :: others))
    (hothers : ∀ l ∈ others, 10 ∉ l ∧ IsAscii l ∧ skippedLine l = true) :
    parseDescriptor (joinLines lines) = .ok p.info := by
  have hline : ∀ l ∈ lines, 10 ∉ l ∧ ∀ sc, descriptorLine sc l = .ok (p.lineEffect sc l) := by
    intro l hl
    rcases List.mem_cons.1 (hperm.subset hl) with rfl | hl
    · exact ⟨(joinWords_no_lf (by decide) hp.routerWords).1, hp.descriptorLine_routerLine⟩
    rcases List.mem_cons.1 hl with rfl | hl
    · exact ⟨(joinWords_no_lf (by decide) hp.groups).1, hp.descriptorLine_fingerprintLine⟩
    rcases List.mem_cons.1 hl with rfl | hl
    · exact ⟨(joinWords_no_lf (by decide) hp.keyWords).1, hp.descriptorLine_ntorLine⟩
    · exact ⟨(hothers l hl).1, fun sc => by
        rw [descriptorLine_skipped (hothers l hl).2.2, p.lineEffect_skipped sc (hothers l hl).2.2]⟩
  have h0 : skippedLine [] = true := rfl
  have hall : ∀ l ∈ lines ++ [[]], ∀ sc, descriptorLine sc l = .ok (p.lineEffect sc l) := by
    intro l hl
    rcases List.mem_append.1 hl with hl | hl
    · exact (hline l hl).2
    · intro sc
      rw [List.mem_singleton.1 hl, descriptorLine_skipped h0, p.lineEffect_skipped sc h0]
  obtain ⟨r1, r2, r3, r4⟩ := hp.routerLine_kind
  obtain ⟨f1, f2, f3, f4⟩ := hp.fingerprintLine_kind
  obtain ⟨n1, n2, n3, n4⟩ := hp.ntorLine_kind
  rw [parseDescriptor, splitLines_joinLines fun l hl => (hline l hl).1, foldlM_descriptorLine hall,
    List.foldl_append, List.foldl_cons, List.foldl_nil, p.lineEffect_skipped _ h0,
    hperm.foldl_eq' (fun x _ y _ sc => p.lineEffect_right_comm sc x y), List.foldl_cons,
    List.foldl_cons, List.foldl_cons, foldl_lineEffect_skipped p (fun l hl => (hothers l hl).2.2)]
  simp only [lineEffect, r1, r2, r3, r4, f1, f2, f3, f4, n1, n2, n3, n4]
  rfl

theorem parseDescriptor_published_sample :
    parseDescriptor (joinLines ([ascii "@type server-descriptor 1.0", ascii "platform Tor 0.4.8.0 on Linux"] ++
      [testRelay.routerLine, testRelay.fingerprintLine, testRelay.ntorLine, ascii "router-signature"])) =
      .ok testRelay.info :=
  @parseDescriptor_published testRelay testRelay_wellFormed _
    [ascii "router-signature", ascii "@type server-descriptor 1.0", ascii "platform Tor 0.4.8.0 on Linux"]
    List.perm_append_comm (by decide)

/-! ## What `ParseDescriptor` accepts -/

/-- What the loop keeps true of its variables: the sizes of `RelayInfo`'s
arrays and of its `uint16` port, and, once a fingerprint line has been
read, a fingerprint that is the upper-case hex of the node id. -/
structure Scan.Inv (sc : Scan) : Prop where
  nodeID : sc.info.nodeID.length = 20
  ntorOnionKey : sc.info.ntorOnionKey.length = 32
  orPort : sc.info.orPort < 2 ^ 16
  fingerprint : sc.hasFingerprint = true → sc.info.fingerprint = toUpper (hexEncode sc.info.nodeID)

theorem Scan.start_inv : Scan.start.Inv := ⟨rfl, rfl, by decide, fun h => nomatch h⟩

namespace Scan.Inv

variable {sc sc' : Scan} {line : Bytes}

theorem routerCase (hi : sc.Inv) (h : RouterDescriptor.routerCase sc line = .ok sc') : sc'.Inv := by
  unfold RouterDescriptor.routerCase at h
  split_ifs at h
  · dsimp only at h
    split_ifs at h
    split at h
    · cases h
    · cases h
      exact ⟨hi.nodeID, hi.ntorOnionKey, parseUint_lt ‹_›, hi.fingerprint⟩
  · cases h; exact hi

theorem fingerprintCase (hi : sc.Inv) (h : RouterDescriptor.fingerprintCase sc line = .ok sc') : sc'.Inv := by
  unfold RouterDescriptor.fingerprintCase at h
  split_ifs at h
  · dsimp only at h
    split at h
    · cases h
    · rename_i fpBytes hfp
      split_ifs at h with hlen
      cases h
      obtain ⟨b, rfl, hb⟩ := hexDecodeLoop_ok hfp
      exact ⟨by simpa using hlen, hi.ntorOnionKey, hi.orPort, fun _ => by simpa using hb⟩
  · cases h; exact hi

theorem ntorCase (hi : sc.Inv) (h : RouterDescriptor.ntorCase sc line = .ok sc') : sc'.Inv := by
  unfold RouterDescriptor.ntorCase at h
  split_ifs at h
  · split at h
    · cases h
    · split_ifs at h with hlen
      cases h
      exact ⟨hi.nodeID, by simpa using hlen, hi.orPort, hi.fingerprint⟩
  · cases h; exact hi

theorem descriptorLine (hi : sc.Inv) (h : RouterDescriptor.descriptorLine sc line = .ok sc') : sc'.Inv := by
  obtain ⟨sc1, h1, h⟩ := except_bind_eq_ok.1 h
  obtain ⟨sc2, h2, h3⟩ := except_bind_eq_ok.1 h
  exact ((hi.routerCase h1).fingerprintCase h2).ntorCase h3

theorem foldlM : ∀ {ls : List Bytes} {sc sc' : Scan}, sc.Inv → ls.foldlM RouterDescriptor.descriptorLine sc = .ok sc' → sc'.Inv
  | [], _, _, hi, h => by cases h; exact hi
  | l :: ls, _, _, hi, h => by
    obtain ⟨sc1, h1, h2⟩ := except_bind_eq_ok.1 h
    exact foldlM (hi.descriptorLine h1) h2

end Scan.Inv

/-- **Soundness.** Whatever `ParseDescriptor` accepts has a 20-byte node id
whose upper-case hex is the `Fingerprint`, a 32-byte ntor key and a port
that fits the `uint16` it is stored in. -/
theorem parseDescriptor_ok {text : Bytes} {info : RelayInfo} (h : parseDescriptor text = .ok info) :
    info.nodeID.length = 20 ∧ info.fingerprint = toUpper (hexEncode info.nodeID) ∧
      info.ntorOnionKey.length = 32 ∧ info.orPort < 2 ^ 16 := by
  unfold parseDescriptor at h
  split at h
  · cases h
  · rename_i sc hsc
    split_ifs at h with h1 h2
    cases h
    have hi := Scan.start_inv.foldlM hsc
    exact ⟨hi.nodeID, hi.fingerprint (by simpa using h2), hi.ntorOnionKey, hi.orPort⟩

theorem parseDescriptor_ok_sample :
    testRelay.info.nodeID.length = 20 ∧ testRelay.info.fingerprint = toUpper (hexEncode testRelay.info.nodeID) ∧
      testRelay.info.ntorOnionKey.length = 32 ∧ testRelay.info.orPort < 2 ^ 16 :=
  @parseDescriptor_ok (ascii testDescriptor) testRelay.info rfl

end TorGo.L5.RouterDescriptor
