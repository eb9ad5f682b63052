import TorGo.L3Circuit.Circuit

/-!
# Link specifiers (`intropoint.go`, `BuildRendLinkSpecs`)

A link-specifier block is `NSPEC || (LSTYPE || LSLEN || LSPEC)*`.
`ParseLinkSpecifiers` reads NSPEC specifiers and keeps, for each field of
`ParsedLinkSpecs`, what the last specifier of its type and length wrote:
IPv4 (0x00, 6 bytes) and IPv6 (0x01, 18 bytes) both write `Address` and
`ORPort`; RSA (0x02, 20 bytes) and Ed25519 (0x03, 32 bytes) the identities.
Specifiers of another length or type are skipped.

`net.IP.String` and `net.ParseIP` are the parameters of `IPText`, with the
law the standard library documents: `ParseIP` reads back the 16-byte form of
what `String` writes. `To4` is Go's. `Circuit.Extend` accepts an address
only when `ParseIP(a).To4()` is not nil.

Results:
* `parseLinkSpecifiers_encodeSpecs`: on a well-formed block the parser
  returns the fold of its specifiers;
* `parseLinkSpecifiers_last_ipv4`: with an IPv4 specifier after which no
  address specifier comes, it returns that address and port, and Extend's
  IPv4 check passes;
* `parseLinkSpecifiers_buildRendLinkSpecs`: the parser reads back what
  `BuildRendLinkSpecs` writes for every IPv4 address;
* `ipv6_after_ipv4_fails_extend`: an IPv6 specifier after the IPv4 one
  replaces the address, and the relay info `tryIntroPoint` builds from it
  fails Extend's IPv4 check.
-/
namespace TorGo.L5

open TorGo.L1 TorGo.L3

/-! ## IP addresses -/

/-- `net.v4InV6Prefix`. -/
def v4InV6Prefix : Bytes := [0, 0, 0, 0, 0, 0, 0, 0, 0, 0, 0xff, 0xff]

/-- `net.IP.To4`: a 4-byte address, or the last 4 bytes of an IPv4-mapped
16-byte one. -/
def to4 (ip : Bytes) : Option Bytes :=
  if ip.length = 4 then some ip
  else if ip.length = 16 ∧ ip.take 12 = v4InV6Prefix then some (ip.drop 12)
  else none

/-- The 16-byte form `net.ParseIP` returns. -/
def to16 (ip : Bytes) : Bytes := if ip.length = 4 then v4InV6Prefix ++ ip else ip

/-- `net.IP.String` and `net.ParseIP`. -/
structure IPText where
  ipString : Bytes → String
  parseIP : String → Option Bytes
  parseIP_ipString : ∀ b, b.length = 4 ∨ b.length = 16 → parseIP (ipString b) = some (to16 b)
  parseIP_empty : parseIP "" = none

/-- `ip := net.ParseIP(a); ip != nil && ip.To4() != nil`, as Extend checks
it, returning the 4 bytes. -/
def IPText.parseIPv4 (N : IPText) (a : String) : Option Bytes := (N.parseIP a).bind to4

theorem to4_to16 (b : Bytes) (h : b.length = 4) : to4 (to16 b) = some b := by
  simp [to4, to16, h, v4InV6Prefix]

theorem to16_of_length_16 (b : Bytes) (h : b.length = 16) : to16 b = b := by
  simp [to16, h]

theorem IPText.parseIPv4_ipString (N : IPText) (b : Bytes) (h : b.length = 4) :
    N.parseIPv4 (N.ipString b) = some b := by
  rw [IPText.parseIPv4, N.parseIP_ipString b (.inl h), Option.some_bind, to4_to16 b h]

/-- A 16-byte address that is not IPv4-mapped fails Extend's check. -/
theorem IPText.parseIPv4_ipString_v6 (N : IPText) (b : Bytes) (h : b.length = 16)
    (hm : b.take 12 ≠ v4InV6Prefix) : N.parseIPv4 (N.ipString b) = none := by
  rw [IPText.parseIPv4, N.parseIP_ipString b (.inr h), Option.some_bind, to16_of_length_16 b h]
  simp [to4, h, hm]

theorem IPText.ipString_ne_empty (N : IPText) (b : Bytes) (h : b.length = 4 ∨ b.length = 16) :
    N.ipString b ≠ "" := fun he => by
  have := N.parseIP_ipString b h
  rw [he, N.parseIP_empty] at this
  cases this

/-! ## Parsing -/

/-- `ParsedLinkSpecs`. -/
structure ParsedLinkSpecs where
  address : String
  orPort : UInt16
  identity : Bytes
  ed25519ID : Bytes
  hasEd25519 : Bool
  deriving DecidableEq, Repr

/-- `&ParsedLinkSpecs{}`. -/
def ParsedLinkSpecs.empty : ParsedLinkSpecs := ⟨"", 0, List.replicate 20 0, List.replicate 32 0, false⟩

/-- The `switch lstype` of `ParseLinkSpecifiers`, on one specifier's data. -/
def applySpec (N : IPText) (lstype : UInt8) (lsdata : Bytes) (r : ParsedLinkSpecs) : ParsedLinkSpecs :=
  if lstype = 0x00 then
    if lsdata.length ≠ 6 then r
    else { r with address := N.ipString (lsdata.take 4), orPort := uint16 (lsdata.drop 4) }
  else if lstype = 0x01 then
    if lsdata.length ≠ 18 then r
    else { r with address := N.ipString (lsdata.take 16), orPort := uint16 (lsdata.drop 16) }
  else if lstype = 0x02 then
    if lsdata.length ≠ 20 then r else { r with identity := lsdata }
  else if lstype = 0x03 then
    if lsdata.length ≠ 32 then r else { r with ed25519ID := lsdata, hasEd25519 := true }
  else r

section ApplySpec

variable (N : IPText) (lsdata : Bytes) (r : ParsedLinkSpecs)

theorem applySpec_ipv4 (h : lsdata.length = 6) :
    applySpec N 0x00 lsdata r = { r with address := N.ipString (lsdata.take 4), orPort := uint16 (lsdata.drop 4) } := by
  simp [applySpec, h]

theorem applySpec_ipv6 (h : lsdata.length = 18) :
    applySpec N 0x01 lsdata r =
      { r with address := N.ipString (lsdata.take 16), orPort := uint16 (lsdata.drop 16) } := by
  simp [applySpec, h]

theorem applySpec_rsa (h : lsdata.length = 20) : applySpec N 0x02 lsdata r = { r with identity := lsdata } := by
  simp [applySpec, h]

theorem applySpec_ed25519 (h : lsdata.length = 32) :
    applySpec N 0x03 lsdata r = { r with ed25519ID := lsdata, hasEd25519 := true } := by
  simp [applySpec, h]

end ApplySpec

/-- The loop of `ParseLinkSpecifiers` over the `k` specifiers still to read,
the `i`-th first, on the bytes from `off` on. -/
def parseSpecLoop (N : IPText) : Nat → Nat → Bytes → ParsedLinkSpecs → Except String ParsedLinkSpecs
  | 0, _, _, r => .ok r
  | k + 1, i, lstype :: lslen :: rest, r =>
    if lslen.toNat > rest.length then .error ("link specifier " ++ toString i ++ " data truncated")
    else parseSpecLoop N k (i + 1) (rest.drop lslen.toNat) (applySpec N lstype (rest.take lslen.toNat) r)
  | _ + 1, i, _, _ => .error ("truncated link specifier " ++ toString i)

/-- `ParseLinkSpecifiers`. -/
def parseLinkSpecifiers (N : IPText) (data : Bytes) : Except String ParsedLinkSpecs :=
  match data with
  | [] => .error "link specifiers too short"
  | nspec :: rest =>
    match parseSpecLoop N nspec.toNat 0 rest .empty with
    | .error e => .error e
    | .ok r => if r.address = "" then .error "no IPv4 or IPv6 link specifier found" else .ok r

/-! ## Encoding -/

/-- One link specifier. -/
structure LinkSpec where
  lstype : UInt8
  lspec : Bytes

/-- `LSTYPE || LSLEN || LSPEC`. -/
def LinkSpec.encode (s : LinkSpec) : Bytes := s.lstype :: UInt8.ofNat s.lspec.length :: s.lspec

/-- `NSPEC || (LSTYPE || LSLEN || LSPEC)*`. -/
def encodeSpecs (l : List LinkSpec) : Bytes := UInt8.ofNat l.length :: l.flatMap LinkSpec.encode

/-- A block the format can carry: at most 255 specifiers of at most 255
bytes each. -/
def WellFormed (l : List LinkSpec) : Prop := l.length < 256 ∧ ∀ s ∈ l, s.lspec.length < 256

/-- The fields a list of specifiers writes, in order. -/
def applySpecs (N : IPText) (l : List LinkSpec) (r : ParsedLinkSpecs) : ParsedLinkSpecs :=
  l.foldl (fun r s => applySpec N s.lstype s.lspec r) r

@[simp] theorem applySpecs_nil (N : IPText) (r : ParsedLinkSpecs) : applySpecs N [] r = r := rfl

@[simp] theorem applySpecs_cons (N : IPText) (s : LinkSpec) (l : List LinkSpec) (r : ParsedLinkSpecs) :
    applySpecs N (s :: l) r = applySpecs N l (applySpec N s.lstype s.lspec r) := rfl

theorem applySpecs_append (N : IPText) (l l' : List LinkSpec) (r : ParsedLinkSpecs) :
    applySpecs N (l ++ l') r = applySpecs N l' (applySpecs N l r) := List.foldl_append _ _ _ _

/-- One well-formed specifier, read by the loop. -/
theorem parseSpecLoop_cons (N : IPText) (s : LinkSpec) (hs : s.lspec.length < 256) (k i : Nat) (rest : Bytes)
    (r : ParsedLinkSpecs) :
    parseSpecLoop N (k + 1) i (s.encode ++ rest) r = parseSpecLoop N k (i + 1) rest (applySpec N s.lstype s.lspec r) := by
  have hn : (UInt8.ofNat s.lspec.length).toNat = s.lspec.length := by
    rw [UInt8.toNat_ofNat']
    exact Nat.mod_eq_of_lt hs
  simp only [LinkSpec.encode, List.cons_append, parseSpecLoop, hn, List.append_eq, List.drop_left, List.take_left,
    List.length_append]
  rw [if_neg (by omega)]

/-- The loop reads each well-formed specifier in turn, and ignores what
follows the last one. -/
theorem parseSpecLoop_encode (N : IPText) (l : List LinkSpec) (hl : ∀ s ∈ l, s.lspec.length < 256)
    (i : Nat) (rest : Bytes) (r : ParsedLinkSpecs) :
    parseSpecLoop N l.length i (l.flatMap LinkSpec.encode ++ rest) r = .ok (applySpecs N l r) := by
  induction l generalizing i r with
  | nil => rfl
  | cons s l ih =>
    rw [List.length_cons, List.flatMap_cons, List.append_assoc, parseSpecLoop_cons N s (hl s (List.mem_cons_self _ _)),
      applySpecs_cons]
    exact ih (fun s hs => hl s (List.mem_cons_of_mem _ hs)) _ _

/-- **Decoding a well-formed block** gives the fold of its specifiers, or
the error for a block with no address. -/
theorem parseLinkSpecifiers_encodeSpecs (N : IPText) (l : List LinkSpec) (hwf : WellFormed l) :
    parseLinkSpecifiers N (encodeSpecs l) =
      if (applySpecs N l .empty).address = "" then .error "no IPv4 or IPv6 link specifier found"
      else .ok (applySpecs N l .empty) := by
  have hn : (UInt8.ofNat l.length).toNat = l.length := by
    rw [UInt8.toNat_ofNat']
    exact Nat.mod_eq_of_lt hwf.1
  have h := parseSpecLoop_encode N l hwf.2 0 [] .empty
  rw [List.append_nil] at h
  simp only [parseLinkSpecifiers, encodeSpecs, hn, h]

/-- A specifier that is neither IPv4 nor IPv6 leaves the address and port. -/
theorem applySpec_address (N : IPText) (lstype : UInt8) (lsdata : Bytes) (r : ParsedLinkSpecs)
    (h : lstype ≠ 0x00 ∧ lstype ≠ 0x01) :
    (applySpec N lstype lsdata r).address = r.address ∧ (applySpec N lstype lsdata r).orPort = r.orPort := by
  unfold applySpec
  simp only [h.1, h.2, if_false]
  split_ifs <;> exact ⟨rfl, rfl⟩

theorem applySpecs_address (N : IPText) (l : List LinkSpec) (hl : ∀ s ∈ l, s.lstype ≠ 0x00 ∧ s.lstype ≠ 0x01)
    (r : ParsedLinkSpecs) :
    (applySpecs N l r).address = r.address ∧ (applySpecs N l r).orPort = r.orPort := by
  induction l generalizing r with
  | nil => exact ⟨rfl, rfl⟩
  | cons s l ih =>
    obtain ⟨h1, h2⟩ := ih (fun s hs => hl s (List.mem_cons_of_mem _ hs)) (applySpec N s.lstype s.lspec r)
    obtain ⟨h3, h4⟩ := applySpec_address N s.lstype s.lspec r (hl s (List.mem_cons_self _ _))
    exact ⟨h1.trans h3, h2.trans h4⟩

/-- What the block `pre ++ s :: post` gives, when `s` is an address
specifier and `post` has none. -/
theorem parseLinkSpecifiers_last_address (N : IPText) (pre post : List LinkSpec) (s : LinkSpec)
    (hwf : WellFormed (pre ++ s :: post)) (hpost : ∀ s ∈ post, s.lstype ≠ 0x00 ∧ s.lstype ≠ 0x01)
    (a : Bytes) (ha : a.length = 4 ∨ a.length = 16) (port : UInt16)
    (hs : ∀ r, (applySpec N s.lstype s.lspec r).address = N.ipString a ∧
      (applySpec N s.lstype s.lspec r).orPort = port) :
    ∃ r, parseLinkSpecifiers N (encodeSpecs (pre ++ s :: post)) = .ok r ∧ r.address = N.ipString a ∧
      r.orPort = port := by
  rw [parseLinkSpecifiers_encodeSpecs N _ hwf, applySpecs_append, applySpecs_cons]
  obtain ⟨h1, h2⟩ := applySpecs_address N post hpost (applySpec N s.lstype s.lspec (applySpecs N pre .empty))
  obtain ⟨h3, h4⟩ := hs (applySpecs N pre .empty)
  rw [if_neg (by rw [h1, h3]; exact N.ipString_ne_empty a ha)]
  exact ⟨_, rfl, h1.trans h3, h2.trans h4⟩

/-- **The last IPv4 specifier wins** when no address specifier follows it:
the parser returns its address and port, and Extend's check passes. -/
theorem parseLinkSpecifiers_last_ipv4 (N : IPText) (pre post : List LinkSpec) (v4 : Bytes)
    (h4 : v4.length = 6) (hwf : WellFormed (pre ++ ⟨0x00, v4⟩ :: post))
    (hpost : ∀ s ∈ post, s.lstype ≠ 0x00 ∧ s.lstype ≠ 0x01) :
    ∃ r, parseLinkSpecifiers N (encodeSpecs (pre ++ ⟨0x00, v4⟩ :: post)) = .ok r ∧
      r.address = N.ipString (v4.take 4) ∧ r.orPort = uint16 (v4.drop 4) ∧
      N.parseIPv4 r.address = some (v4.take 4) := by
  have ht : (v4.take 4).length = 4 := by simp [h4]
  obtain ⟨r, hr, ha, hp⟩ := parseLinkSpecifiers_last_address N pre post ⟨0x00, v4⟩ hwf hpost (v4.take 4)
    (.inl ht) (uint16 (v4.drop 4)) fun r => by simp [applySpec, h4]
  exact ⟨r, hr, ha, hp, by rw [ha, N.parseIPv4_ipString _ ht]⟩

/-! ## `BuildRendLinkSpecs` -/

/-- `BuildRendLinkSpecs`: IPv4, RSA identity and, unless it is all zero, the
Ed25519 identity. -/
def buildRendLinkSpecs (N : IPText) (identity : Bytes) (address : String) (orPort : UInt16)
    (ed25519ID : Bytes) : Except String Bytes :=
  match N.parseIP address with
  | none => .error ("invalid IP address: " ++ address)
  | some ip =>
    match to4 ip with
    | none => .error ("not an IPv4 address: " ++ address)
    | some ipv4 =>
      let nspec : UInt8 := if ed25519ID = List.replicate 32 0 then 2 else 3
      .ok ([nspec] ++ [0x00, 0x06] ++ ipv4 ++ putUint16 orPort ++ [0x02, 0x14] ++ identity ++
        if ed25519ID ≠ List.replicate 32 0 then [0x03, 0x20] ++ ed25519ID else [])

/-- The specifiers `BuildRendLinkSpecs` writes. -/
def rendSpecs (ipv4 identity : Bytes) (orPort : UInt16) (ed25519ID : Bytes) : List LinkSpec :=
  [⟨0x00, ipv4 ++ putUint16 orPort⟩, ⟨0x02, identity⟩] ++
    if ed25519ID ≠ List.replicate 32 0 then [⟨0x03, ed25519ID⟩] else []

theorem rendSpecs_wellFormed (ipv4 identity : Bytes) (h4 : ipv4.length = 4) (hid : identity.length = 20)
    (orPort : UInt16) (ed25519ID : Bytes) (hed : ed25519ID.length = 32) :
    WellFormed (rendSpecs ipv4 identity orPort ed25519ID) := by
  refine ⟨by unfold rendSpecs; split <;> simp, fun s hs => ?_⟩
  unfold rendSpecs at hs
  split at hs <;> simp only [List.cons_append, List.singleton_append, List.nil_append, List.mem_cons,
    List.mem_singleton, List.append_nil, List.not_mem_nil, or_false] at hs <;>
    rcases hs with rfl | rfl | rfl <;> simp [h4, hid, hed]

theorem buildRendLinkSpecs_eq (N : IPText) (identity : Bytes) (ipv4 : Bytes) (h4 : ipv4.length = 4)
    (hid : identity.length = 20) (orPort : UInt16) (ed25519ID : Bytes) (hed : ed25519ID.length = 32) :
    buildRendLinkSpecs N identity (N.ipString ipv4) orPort ed25519ID =
      .ok (encodeSpecs (rendSpecs ipv4 identity orPort ed25519ID)) := by
  simp only [buildRendLinkSpecs, N.parseIP_ipString ipv4 (.inl h4), to4_to16 ipv4 h4, rendSpecs, encodeSpecs]
  by_cases he : ed25519ID = List.replicate 32 0 <;>
    simp only [he, ne_eq, not_true_eq_false, not_false_eq_true, if_true, if_false, LinkSpec.encode,
      List.flatMap_cons, List.flatMap_nil, List.length_append, h4, hid, hed, putUint16_length, List.append_nil,
      List.cons_append, List.singleton_append, List.nil_append, List.append_assoc, List.length_cons,
      List.length_nil] <;> rfl

/-- **Round trip**: for every IPv4 address, `ParseLinkSpecifiers` reads back
the address text, port and identities `BuildRendLinkSpecs` wrote. -/
theorem parseLinkSpecifiers_buildRendLinkSpecs (N : IPText) (identity : Bytes) (ipv4 : Bytes)
    (h4 : ipv4.length = 4) (hid : identity.length = 20) (orPort : UInt16) (ed25519ID : Bytes)
    (hed : ed25519ID.length = 32) :
    (buildRendLinkSpecs N identity (N.ipString ipv4) orPort ed25519ID >>= parseLinkSpecifiers N) =
      .ok ⟨N.ipString ipv4, orPort, identity, ed25519ID, decide (ed25519ID ≠ List.replicate 32 0)⟩ := by
  rw [buildRendLinkSpecs_eq N identity ipv4 h4 hid orPort ed25519ID hed, except_ok_bind,
    parseLinkSpecifiers_encodeSpecs N _ (rendSpecs_wellFormed ipv4 identity h4 hid orPort ed25519ID hed)]
  have h6 : (ipv4 ++ putUint16 orPort).length = 6 := by simp [h4]
  have hne := N.ipString_ne_empty ipv4 (.inl h4)
  have hp : uint16 (putUint16 orPort) = orPort := by simpa using uint16_putUint16 orPort []
  by_cases he : ed25519ID = List.replicate 32 0 <;>
    simp only [rendSpecs, he, ne_eq, not_true_eq_false, not_false_eq_true, if_true, if_false, decide_False,
      decide_True, List.cons_append, List.nil_append, List.singleton_append, List.append_nil, applySpecs_cons,
      applySpecs_nil, applySpec_ipv4 N _ _ h6, applySpec_rsa N _ _ hid, applySpec_ed25519 N _ _ hed,
      ParsedLinkSpecs.empty, List.take_left' h4, List.drop_left' h4, hp, hne]

/-! ## The relay `tryIntroPoint` extends to -/

/-- The `RelayInfo` `tryIntroPoint` builds from the parsed specifiers. -/
def introInfo (specs : ParsedLinkSpecs) (onionKey : Bytes) : RelayInfo :=
  ⟨specs.identity, onionKey, specs.address, specs.orPort⟩

/-- **An IPv6 specifier after the IPv4 one** replaces the address: the
parser returns the IPv6 text, and Extend rejects the relay info built from
it before doing anything. -/
theorem ipv6_after_ipv4_fails_extend (N : IPText) (ntor : Ntor) (hN : ∀ a, ntor.parseIPv4 a = N.parseIPv4 a)
    (pre post : List LinkSpec) (v4 v6 : Bytes) (h6 : v6.length = 18)
    (hm : v6.take 12 ≠ v4InV6Prefix) (hwf : WellFormed (pre ++ ⟨0x00, v4⟩ :: ⟨0x01, v6⟩ :: post))
    (hpost : ∀ s ∈ post, s.lstype ≠ 0x00 ∧ s.lstype ≠ 0x01) (onionKey : Bytes) (c : Circuit) (l : Link)
    (rnd : Nat → UInt8) :
    ∃ r, parseLinkSpecifiers N (encodeSpecs (pre ++ ⟨0x00, v4⟩ :: ⟨0x01, v6⟩ :: post)) = .ok r ∧
      r.address = N.ipString (v6.take 16) ∧
      extend ntor c l (introInfo r onionKey) rnd =
        (.error ("invalid IPv4 address for relay: " ++ N.ipString (v6.take 16)), c, l) := by
  have ht : (v6.take 16).length = 16 := by simp [h6]
  have hwf' : WellFormed ((pre ++ [⟨0x00, v4⟩]) ++ ⟨0x01, v6⟩ :: post) := by simpa using hwf
  obtain ⟨r, hr, ha, -⟩ := parseLinkSpecifiers_last_address N (pre ++ [⟨0x00, v4⟩]) post ⟨0x01, v6⟩ hwf'
    hpost (v6.take 16) (.inr ht) (uint16 (v6.drop 16)) fun r => by simp [applySpec, h6]
  rw [List.append_assoc, List.singleton_append] at hr
  refine ⟨r, hr, ha, ?_⟩
  have hv : ntor.parseIPv4 (N.ipString (v6.take 16)) = none := by
    rw [hN, N.parseIPv4_ipString_v6 _ ht (by rwa [List.take_take, Nat.min_eq_left (by decide)])]
  simp only [extend, introInfo, ha, hv]

/-! ## A text form for tests -/

theorem uint8_char_roundtrip (x : UInt8) : UInt8.ofNat (Char.ofNat x.toNat).toNat = x := by
  have hx : x.toNat < 256 := x.toNat_lt_size
  rw [Char.ofNat, dif_pos (Or.inl (by omega))]
  apply UInt8.toNat.inj
  rw [UInt8.toNat_ofNat']
  exact Nat.mod_eq_of_lt hx

/-- An `IPText` that writes an address's bytes as characters. -/
def rawIPText : IPText where
  ipString b := ⟨b.map fun x => Char.ofNat x.toNat⟩
  parseIP s :=
    let b := s.data.map fun c => UInt8.ofNat c.toNat
    if b.length = 4 ∨ b.length = 16 then some (to16 b) else none
  parseIP_ipString b h := by
    simp only [List.map_map, Function.comp_def, uint8_char_roundtrip, List.map_id', h, if_true]
  parseIP_empty := rfl

/-- Extend, with `rawIPText`'s check. -/
def rawNtor : Ntor :=
  ⟨rawIPText.parseIPv4, fun _ => .error "no handshake", fun _ => .error "no hop"⟩

/-- The address specifiers of an introduction point at 1.2.3.4:80 and
[2001:db8::1]:80, IPv4 first. -/
def dualStackSpecs : List LinkSpec :=
  [⟨0x00, [1, 2, 3, 4, 0, 80]⟩, ⟨0x01, [0x20, 0x01, 0x0d, 0xb8, 0, 0, 0, 0, 0, 0, 0, 0, 0, 0, 0, 1, 0, 80]⟩]

theorem dual_stack_intro_point_unreachable :
    ∃ r, parseLinkSpecifiers rawIPText (encodeSpecs dualStackSpecs) = .ok r ∧
      r.address = rawIPText.ipString [0x20, 0x01, 0x0d, 0xb8, 0, 0, 0, 0, 0, 0, 0, 0, 0, 0, 0, 1] ∧
      extend rawNtor ⟨1, [], 0⟩ ⟨[], [], []⟩ (introInfo r []) (fun _ => 0) =
        (.error ("invalid IPv4 address for relay: " ++
          rawIPText.ipString [0x20, 0x01, 0x0d, 0xb8, 0, 0, 0, 0, 0, 0, 0, 0, 0, 0, 0, 1]), ⟨1, [], 0⟩, ⟨[], [], []⟩) :=
  ipv6_after_ipv4_fails_extend rawIPText rawNtor (fun _ => rfl) [] [] [1, 2, 3, 4, 0, 80]
    [0x20, 0x01, 0x0d, 0xb8, 0, 0, 0, 0, 0, 0, 0, 0, 0, 0, 0, 1, 0, 80] rfl (by decide)
    ⟨by decide, by decide⟩ (by simp) [] ⟨1, [], 0⟩ ⟨[], [], []⟩ fun _ => 0

end TorGo.L5
