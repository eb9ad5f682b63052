import TorGo.L1Encoding.Base64
import Mathlib.Data.List.Infix

/-!
# Authority key certificates (`directory/cache.go`)

A consensus is signed by the directory authorities with medium-term signing
keys; the client learns those keys from the authorities' key certificates
(`/tor/keys/all`). `ParseKeyCerts` splits the text at each
`dir-key-certificate-version` (`splitCertBlocks`), reads four fields of each
block line by line (`extractKeyCertFields`) and makes a `KeyCert` of it
(`parseOneKeyCert`): the fingerprint must be one of the nine hard-coded
authorities, the identity key, when there is one that decodes, must hash to
it (`verifyIdentityFingerprint`), an expiry must not have passed, and the
signing key must decode and parse (`parseSigningKey`). A block that fails is
skipped.

SHA-1, `pem.Decode`, `x509.ParsePKCS1PublicKey`, RSA verification and
`time.Parse` are not modelled: a `DirLib` gives them, and the results hold for
every `DirLib`. `pem.Decode` gives the bytes of the first PEM block, if there
is one; a `time.Time` is its Unix time in nanoseconds, the zero `Time` is
`zeroTime`, and `time.Now()` is the argument `now`.

Nothing here reads a `dir-key-certification` line, and an identity key that
is absent, or whose PEM does not decode, passes. `bareKeyCert` is a
certificate with neither: an authority's fingerprint and any signing key.

Results:
* `splitCertBlocks_append`: one turn of `splitCertBlocks` on a block that
  holds the marker only at its start;
* `extractKeyCertFields_bareKeyCert`, `parseOneKeyCert_bareKeyCert`: the
  fields of a bare certificate, and that it is accepted;
* `parseKeyCerts_bareCerts`: every one of a text of bare certificates is
  kept, with the signing key it names;
* `bareCerts_uncertified`: such a text holds no `dir-identity-key` and no
  `dir-key-certification`;
* `parseOneKeyCert_ok`: all that a kept certificate is known to satisfy, an
  authority's fingerprint, a signing key that decodes and parses, and an
  identity key that hashes to the fingerprint only when there is one.
-/
namespace TorGo.L5
open TorGo.L1

/-- What `directory` takes from Go's libraries. -/
structure DirLib (Key : Type) where
  /-- `sha1.Sum`. -/
  sha1 : Bytes → Bytes
  sha1_length : ∀ b, (sha1 b).length = 20
  /-- `sha256.New()` written and summed. -/
  sha256 : Bytes → Bytes
  /-- `pem.Decode`: the bytes of the first PEM block. -/
  pemDecode : Bytes → Option Bytes
  /-- `x509.ParsePKCS1PublicKey`. -/
  parsePKCS1PublicKey : Bytes → Except String Key
  /-- `rsa.VerifyPKCS1v15(key, crypto.Hash(0), digest, sig) == nil`. -/
  verifyPKCS1v15 : Key → Bytes → Bytes → Bool
  /-- `time.Parse("2006-01-02 15:04:05", ·)`, in Unix nanoseconds. -/
  parseTime : Bytes → Option Int

/-- `dirAuthorityFingerprints` (`consensus.go`): moria1, tor26, dizum,
Faravahar, longclaw, bastet, dannenberg, maatuska, gabelmoo. -/
def dirAuthorityFingerprints : List Bytes :=
  [ascii "F533C81CEF0BC0267857C99B2F471ADF249FA232", ascii "2F3DF9CA0E5D36F2685A2DA67184EB8DCB8CBA8C",
   ascii "E8A9C45EDE6D711294FADF8E7951F4DE6CA56B58", ascii "70849B868D606BAECFB6128C5E3D782029AA394F",
   ascii "23D15D965BC35114467363C165C4F724B64B4F66", ascii "27102BC123E7AF1D4741AE047E160C91ADC76B21",
   ascii "0232AF901C31A04EE9848595AF9BB7620D4C5B2E", ascii "49015F787433103580E3B66A1707A00E60F2D15B",
   ascii "ED03BB616EB2F60BEC80151114BB25CEF515B226"]

/-- The zero `time.Time`, January 1 of year 1, in Unix nanoseconds. -/
def zeroTime : Int := -62135596800 * 1000000000

/-- `KeyCert`. -/
structure KeyCert (Key : Type) where
  identityFingerprint : Bytes
  signingKeyDigest : Bytes
  signingKey : Key
  expires : Int

/-- `keyCertFields`. -/
structure KeyCertFields where
  fingerprint : Bytes
  expires : Int
  signingKeyPEM : Bytes
  identityKeyPEM : Bytes

/-! ## Splitting the text -/

/-- `"dir-key-certificate-version"`, where each certificate starts. -/
def certMarker : Bytes := ascii "dir-key-certificate-version"

/-- `splitCertBlocks`: the text from each `certMarker` to the next. The
slices are in range: `remaining` starts with the marker. -/
def splitCertBlocks (remaining : Bytes) : List Bytes :=
  if h : index remaining certMarker < 0 then [] else
  let remaining' := remaining.drop (index remaining certMarker).toNat
  let next := index (remaining'.drop 1) certMarker
  if hn : next < 0 then [remaining'] else
  remaining'.take (next + 1).toNat :: splitCertBlocks (remaining'.drop (next + 1).toNat)
termination_by remaining.length
decreasing_by
  have h27 : certMarker.length ≤ remaining.length := (not_not.1 ((index_neg_iff _ _).not.1 h)).length_le
  have : certMarker.length = 27 := rfl
  simp only [remaining', next] at hn
  simp only [List.length_drop]
  omega

/-! ## The fields of a certificate -/

/-- `extractPEMBlock`: the lines up to the first `-----END ` line, each ended
by a line feed. -/
def extractPEMBlock : List Bytes → Bytes
  | [] => []
  | line :: lines =>
    let line := trimRight line (ascii "\r")
    line ++ [10] ++ if hasPrefix line (ascii "-----END ") then [] else extractPEMBlock lines

/-- One turn of the loop of `extractKeyCertFields`; `rest` holds the lines
after `line`. -/
def keyCertLine (parseTime : Bytes → Option Int) (f : KeyCertFields) (line : Bytes) (rest : List Bytes) :
    KeyCertFields :=
  let line := trimRight line (ascii "\r")
  if hasPrefix line (ascii "fingerprint ") then { f with fingerprint := toUpper (trimSpace (line.drop 12)) }
  else if hasPrefix line (ascii "dir-key-expires ") then
    match parseTime (trimSpace (line.drop 16)) with
    | some t => { f with expires := t }
    | none => f
  else if line = ascii "dir-identity-key" ∧ rest ≠ [] then { f with identityKeyPEM := extractPEMBlock rest }
  else if line = ascii "dir-signing-key" ∧ rest ≠ [] then { f with signingKeyPEM := extractPEMBlock rest }
  else f

/-- The loop of `extractKeyCertFields` over the lines. -/
def keyCertLines (parseTime : Bytes → Option Int) : List Bytes → KeyCertFields → KeyCertFields
  | [], f => f
  | line :: rest, f => keyCertLines parseTime rest (keyCertLine parseTime f line rest)

/-- `extractKeyCertFields`. -/
def extractKeyCertFields (parseTime : Bytes → Option Int) (block : Bytes) : KeyCertFields :=
  keyCertLines parseTime (splitLines block) ⟨[], zeroTime, [], []⟩

/-! ## From fields to a certificate -/

variable {Key : Type} (lib : DirLib Key)

/-- `verifyIdentityFingerprint`. -/
def verifyIdentityFingerprint (identityKeyPEM fingerprint : Bytes) : Except String Unit :=
  if identityKeyPEM = [] then .ok () else
  match lib.pemDecode identityKeyPEM with
  | none => .ok ()
  | some idBlock =>
    let computedFP := toUpper (hexEncode (lib.sha1 idBlock))
    if computedFP ≠ fingerprint then
      .error ("identity key fingerprint mismatch for " ++ byteText fingerprint ++ ": computed " ++ byteText computedFP)
    else .ok ()

/-- `parseSigningKey`. -/
def parseSigningKey (f : KeyCertFields) : Except String (KeyCert Key) :=
  if f.signingKeyPEM = [] then .error ("missing signing key for " ++ byteText f.fingerprint) else
  match lib.pemDecode f.signingKeyPEM with
  | none => .error ("failed to decode PEM for " ++ byteText f.fingerprint)
  | some der =>
    match lib.parsePKCS1PublicKey der with
    | .error e => .error ("parse signing key for " ++ byteText f.fingerprint ++ ": " ++ e)
    | .ok pubKey => .ok ⟨f.fingerprint, toUpper (hexEncode (lib.sha1 der)), pubKey, f.expires⟩

/-- `parseOneKeyCert`. -/
def parseOneKeyCert (block : Bytes) (now : Int) : Except String (KeyCert Key) :=
  let fields := extractKeyCertFields lib.parseTime block
  if fields.fingerprint = [] then .error "missing fingerprint"
  else if fields.fingerprint ∉ dirAuthorityFingerprints then
    .error ("unknown authority: " ++ byteText fields.fingerprint)
  else (verifyIdentityFingerprint lib fields.identityKeyPEM fields.fingerprint).bind fun _ =>
    if fields.expires ≠ zeroTime ∧ now > fields.expires then
      .error ("expired cert for " ++ byteText fields.fingerprint)
    else parseSigningKey lib fields

/-- `ParseKeyCerts`: the certificates of the blocks that parse. -/
def parseKeyCerts (text : Bytes) (now : Int) : List (KeyCert Key) :=
  (splitCertBlocks text).filterMap fun block => (parseOneKeyCert lib block now).toOption

/-! ## One line, one block -/

theorem trimRight_cr {l : Bytes} (h : 13 ∉ l) : trimRight l (ascii "\r") = l :=
  trimRight_of_forall fun b hb hc => h (by rwa [show b = 13 from List.mem_singleton.1 hc] at hb)

/-- A line that none of the four cases matches leaves the fields as they are. -/
theorem keyCertLine_of_ne {p : Bytes → Option Int} {f : KeyCertFields} {l : Bytes} {rest : List Bytes}
    (h13 : 13 ∉ l) (h1 : ¬ ascii "fingerprint " <+: l) (h2 : ¬ ascii "dir-key-expires " <+: l)
    (h3 : l ≠ ascii "dir-identity-key") (h4 : l ≠ ascii "dir-signing-key") : keyCertLine p f l rest = f := by
  simp only [keyCertLine, trimRight_cr h13, hasPrefix]
  rw [if_neg (mt isPrefixOf_iff.1 h1), if_neg (mt isPrefixOf_iff.1 h2), if_neg fun h => h3 h.1,
    if_neg fun h => h4 h.1]

theorem keyCertLines_of_inert {p : Bytes → Option Int} {ls : List Bytes}
    (h : ∀ l ∈ ls, ∀ f rest, keyCertLine p f l rest = f) (f : KeyCertFields) : keyCertLines p ls f = f := by
  induction ls generalizing f with
  | nil => rfl
  | cons l ls ih => rw [keyCertLines, h l (.head _), ih fun l' hl' => h l' (.tail _ hl')]

theorem extractPEMBlock_cons {l : Bytes} (h13 : 13 ∉ l) (h : ¬ ascii "-----END " <+: l) (ls : List Bytes) :
    extractPEMBlock (l :: ls) = l ++ 10 :: extractPEMBlock ls := by
  simp only [extractPEMBlock, trimRight_cr h13, hasPrefix]
  rw [if_neg (mt isPrefixOf_iff.1 h)]
  simp

theorem splitCertBlocks_nil : splitCertBlocks [] = [] := by
  rw [splitCertBlocks, dif_pos (by decide)]

/-- One turn of `splitCertBlocks` on a text that starts with the marker. -/
theorem splitCertBlocks_of_prefix {c : UInt8} {t : Bytes} (hb : certMarker <+: c :: t) :
    splitCertBlocks (c :: t) =
      if index t certMarker < 0 then [c :: t]
      else (c :: t).take (index t certMarker + 1).toNat :: splitCertBlocks ((c :: t).drop (index t certMarker + 1).toNat) := by
  have h0 : index (c :: t) certMarker = 0 := index_eq_zero_of_isPrefixOf hb
  rw [splitCertBlocks, dif_neg (by rw [h0]; decide)]
  simp only [h0, Int.toNat_zero, List.drop_zero, List.drop_succ_cons]
  rfl

/-- A block that starts with the marker, holds it nowhere else and ends with a
line feed is split off whatever certificate text follows it. -/
theorem splitCertBlocks_append {c : UInt8} {t rest : Bytes} (hb : certMarker <+: c :: t)
    (ht : ¬ certMarker <:+: t) (hl : t.getLast? = some 10) (hr : rest = [] ∨ certMarker <+: rest) :
    splitCertBlocks (c :: t ++ rest) = (c :: t) :: splitCertBlocks rest := by
  rw [List.cons_append, splitCertBlocks_of_prefix (t := t ++ rest) (hb.trans (List.prefix_append _ _))]
  rcases hr with rfl | hr
  · rw [List.append_nil, if_pos ((index_neg_iff _ _).2 ht), splitCertBlocks_nil]
  · have hn : index (t ++ rest) certMarker = t.length := by
      rw [index_append_of_last ht hl (by decide) (index_nonneg_of_isPrefixOf hr),
        index_eq_zero_of_isPrefixOf hr, Int.add_zero]
    rw [if_neg (by omega), hn, show ((t.length : Int) + 1).toNat = (c :: t).length by simp,
      ← List.cons_append, List.take_left, List.drop_left]

/-! ## What a kept certificate carries -/

/-- When `verifyIdentityFingerprint` passes, an identity key that is present
and decodes has the fingerprint as its SHA-1. -/
theorem verifyIdentityFingerprint_ok {pem fp : Bytes} (h : verifyIdentityFingerprint lib pem fp = .ok ()) :
    ∀ idBlock, pem ≠ [] → lib.pemDecode pem = some idBlock → toUpper (hexEncode (lib.sha1 idBlock)) = fp := by
  intro idBlock hp hd
  rw [verifyIdentityFingerprint, if_neg hp, hd] at h
  dsimp only at h
  split_ifs at h with hne
  exact not_not.1 hne

/-- A kept certificate names a hard-coded authority, holds the key its
signing key PEM decodes and parses to, filed under the SHA-1 of that DER, and
its identity key, when present and decodable, hashes to the fingerprint. -/
theorem parseOneKeyCert_ok {block : Bytes} {now : Int} {cert : KeyCert Key}
    (h : parseOneKeyCert lib block now = .ok cert) :
    cert.identityFingerprint = (extractKeyCertFields lib.parseTime block).fingerprint ∧
      cert.identityFingerprint ∈ dirAuthorityFingerprints ∧
      (∀ idBlock, (extractKeyCertFields lib.parseTime block).identityKeyPEM ≠ [] →
        lib.pemDecode (extractKeyCertFields lib.parseTime block).identityKeyPEM = some idBlock →
          toUpper (hexEncode (lib.sha1 idBlock)) = cert.identityFingerprint) ∧
      ∃ der, lib.pemDecode (extractKeyCertFields lib.parseTime block).signingKeyPEM = some der ∧
        lib.parsePKCS1PublicKey der = .ok cert.signingKey ∧ cert.signingKeyDigest = toUpper (hexEncode (lib.sha1 der)) := by
  generalize hf : extractKeyCertFields lib.parseTime block = f
  rw [parseOneKeyCert, hf] at h
  split_ifs at h with h0 h1 h2 <;>
    rcases hv : verifyIdentityFingerprint lib f.identityKeyPEM f.fingerprint with e | ⟨⟩ <;> rw [hv] at h <;> try cases h
  rw [Except.bind, parseSigningKey] at h
  split_ifs at h
  split at h
  · cases h
  rename_i der hd
  split at h
  · cases h
  rename_i key hk
  cases h
  exact ⟨rfl, h1, verifyIdentityFingerprint_ok lib hv, der, hd, hk, rfl⟩

/-! ## Certificates with an authority's fingerprint and nothing to check it -/

/-- A line of base64 text: symbols of the standard alphabet and `=`. -/
def Base64Line (l : Bytes) : Prop := ∀ c ∈ l, c ∈ encodeStd ∨ c = 61

instance : DecidablePred Base64Line := fun l => inferInstanceAs (Decidable (∀ c ∈ l, c ∈ encodeStd ∨ c = 61))

/-- The lines of an `RSA PUBLIC KEY` PEM block with base64 lines `body`. -/
def rsaKeyLines (body : List Bytes) : List Bytes :=
  ascii "-----BEGIN RSA PUBLIC KEY-----" :: body ++ [ascii "-----END RSA PUBLIC KEY-----"]

/-- The lines of `bareKeyCert` after the version line. -/
def bareLines (fingerprint : Bytes) (body : List Bytes) : List Bytes :=
  (ascii "fingerprint " ++ fingerprint) :: ascii "dir-signing-key" :: rsaKeyLines body

/-- A key certificate that names an authority and a signing key, with no
`dir-identity-key`, no `dir-key-expires` and no `dir-key-certification`. -/
def bareKeyCert (fingerprint : Bytes) (body : List Bytes) : Bytes :=
  joinLines (ascii "dir-key-certificate-version 3" :: bareLines fingerprint body)

/-- The bytes of base64 text: no white space and no `-`. -/
theorem base64_char {c : UInt8} (h : c ∈ encodeStd ∨ c = 61) :
    isAsciiSpace c = false ∧ c ≠ 10 ∧ c ≠ 13 ∧ c ≠ 45 := by
  have : ∀ c ∈ encodeStd, isAsciiSpace c = false ∧ c ≠ 10 ∧ c ≠ 13 ∧ c ≠ 45 := by decide
  rcases h with h | rfl
  · exact this c h
  · decide

/-- The bytes of an authority fingerprint: upper-case hex digits. -/
theorem fingerprint_char {fp : Bytes} (hfp : fp ∈ dirAuthorityFingerprints) {c : UInt8} (h : c ∈ fp) :
    isAsciiSpace c = false ∧ c ≠ 10 ∧ c ≠ 13 ∧ c ≠ 45 ∧ ¬ (97 ≤ c ∧ c ≤ 122) := by
  have : ∀ fp ∈ dirAuthorityFingerprints, ∀ c ∈ fp,
      isAsciiSpace c = false ∧ c ≠ 10 ∧ c ≠ 13 ∧ c ≠ 45 ∧ ¬ (97 ≤ c ∧ c ≤ 122) := by
    decide
  exact this fp hfp c h

theorem fingerprintLine_char {fp : Bytes} (hfp : fp ∈ dirAuthorityFingerprints) {c : UInt8}
    (h : c ∈ ascii "fingerprint " ++ fp) : c ≠ 10 ∧ c ≠ 13 ∧ c ≠ 45 := by
  rcases List.mem_append.1 h with h | h
  · exact (by decide : ∀ c ∈ ascii "fingerprint ", c ≠ 10 ∧ c ≠ 13 ∧ c ≠ 45) c h
  · exact ⟨(fingerprint_char hfp h).2.1, (fingerprint_char hfp h).2.2.1, (fingerprint_char hfp h).2.2.2.1⟩

theorem getLast?_joinLines {ls : List Bytes} (h : ls ≠ []) : (joinLines ls).getLast? = some 10 := by
  induction ls with
  | nil => exact absurd rfl h
  | cons l ls ih =>
    rw [joinLines_cons]
    rcases eq_or_ne ls [] with rfl | hls
    · simp [joinLines]
    · rw [List.getLast?_append_of_ne_nil _ (List.cons_ne_nil _ _), List.getLast?_cons, ih hls]
      rfl

section Bare

variable {fingerprint : Bytes} {body : List Bytes}

theorem mem_bareLines {l : Bytes} (h : l ∈ bareLines fingerprint body) :
    l = ascii "fingerprint " ++ fingerprint ∨
      l ∈ [ascii "dir-signing-key", ascii "-----BEGIN RSA PUBLIC KEY-----", ascii "-----END RSA PUBLIC KEY-----"] ∨
      l ∈ body := by
  simp only [bareLines, rsaKeyLines, List.mem_cons, List.mem_append, List.mem_singleton, List.not_mem_nil,
    or_false] at h ⊢
  rcases h with h | h | (h | h) | h <;> simp [h]

variable (hb : ∀ l ∈ body, Base64Line l)
include hb

theorem extractPEMBlock_rsaKeyLines (rest : List Bytes) :
    extractPEMBlock (rsaKeyLines body ++ rest) = joinLines (rsaKeyLines body) := by
  have hend : extractPEMBlock (ascii "-----END RSA PUBLIC KEY-----" :: rest) =
      joinLines [ascii "-----END RSA PUBLIC KEY-----"] := rfl
  have hbody : ∀ body : List Bytes, (∀ l ∈ body, Base64Line l) →
      extractPEMBlock (body ++ ascii "-----END RSA PUBLIC KEY-----" :: rest) =
        joinLines (body ++ [ascii "-----END RSA PUBLIC KEY-----"]) := by
    intro body hb
    induction body with
    | nil => exact hend
    | cons l body ih =>
      have hc := fun c hc => base64_char (hb l (.head _) c hc)
      rw [List.cons_append, extractPEMBlock_cons (fun h => (hc _ h).2.2.1 rfl)
        (fun h => (hc 45 (h.subset (by decide))).2.2.2 rfl), ih fun l' hl' => hb l' (.tail _ hl'),
        List.cons_append, joinLines_cons]
  rw [rsaKeyLines, List.cons_append, List.cons_append, extractPEMBlock_cons (by decide) (by decide), List.append_assoc,
    List.singleton_append, hbody body hb, joinLines_cons]

/-- The lines of the PEM block leave the fields as they are. -/
theorem keyCertLine_rsaKeyLines {p : Bytes → Option Int} :
    ∀ l ∈ rsaKeyLines body ++ [[]], ∀ f rest, keyCertLine p f l rest = f := by
  intro l hl f rest
  simp only [rsaKeyLines, List.cons_append, List.mem_cons, List.mem_append, List.mem_singleton,
    List.not_mem_nil, or_false] at hl
  rcases hl with rfl | (hl | rfl) | rfl
  · exact keyCertLine_of_ne (by decide) (by decide) (by decide) (by decide) (by decide)
  · have hc := fun c hc => base64_char (hb l hl c hc)
    have h45 : ∀ s : Bytes, 45 ∈ s → ¬ s <:+: l := fun s h hs => (hc 45 (hs.subset h)).2.2.2 rfl
    exact keyCertLine_of_ne (fun h => (hc _ h).2.2.1 rfl)
      (fun h => absurd (hc 32 (h.subset (by decide))).1 (by decide))
      (fun h => h45 _ (by decide) h.isInfix)
      (fun h => h45 (ascii "dir-identity-key") (by decide) (by rw [h]))
      (fun h => h45 (ascii "dir-signing-key") (by decide) (by rw [h]))
  · exact keyCertLine_of_ne (by decide) (by decide) (by decide) (by decide) (by decide)
  · exact keyCertLine_of_ne (by decide) (by decide) (by decide) (by decide) (by decide)

omit hb in
theorem keyCertLine_fingerprint (hfp : fingerprint ∈ dirAuthorityFingerprints) {p : Bytes → Option Int}
    {f : KeyCertFields} {rest : List Bytes} :
    keyCertLine p f (ascii "fingerprint " ++ fingerprint) rest = { f with fingerprint := fingerprint } := by
  have hc := fun c (hc : c ∈ fingerprint) => fingerprint_char hfp hc
  simp only [keyCertLine, trimRight_cr fun h => (fingerprintLine_char hfp h).2.1 rfl, hasPrefix]
  rw [if_pos (isPrefixOf_iff.2 (List.prefix_append _ _)),
    show (ascii "fingerprint " ++ fingerprint).drop 12 = fingerprint from List.drop_left' rfl,
    trimSpace_of_forall fun b hb => (hc b hb).1, toUpper_of_forall fun b hb => (hc b hb).2.2.2.2]

omit hb in
theorem keyCertLine_signingKey {p : Bytes → Option Int} {f : KeyCertFields} {rest : List Bytes} (h : rest ≠ []) :
    keyCertLine p f (ascii "dir-signing-key") rest = { f with signingKeyPEM := extractPEMBlock rest } := by
  simp only [keyCertLine, trimRight_cr (by decide : 13 ∉ ascii "dir-signing-key")]
  rw [if_neg (by decide), if_neg (by decide), if_neg fun h => absurd h.1 (by decide), if_pos ⟨trivial, h⟩]

variable (hfp : fingerprint ∈ dirAuthorityFingerprints)
include hfp

theorem bareLines_no_lf : ∀ l ∈ bareLines fingerprint body, 10 ∉ l ∧ 13 ∉ l := by
  intro l hl
  rcases mem_bareLines hl with rfl | hl | hl
  · exact ⟨fun h => (fingerprintLine_char hfp h).1 rfl, fun h => (fingerprintLine_char hfp h).2.1 rfl⟩
  · exact (by decide : ∀ l ∈ [ascii "dir-signing-key", ascii "-----BEGIN RSA PUBLIC KEY-----",
      ascii "-----END RSA PUBLIC KEY-----"], 10 ∉ l ∧ 13 ∉ l) l hl
  · exact ⟨fun h => (base64_char (hb l hl _ h)).2.1 rfl, fun h => (base64_char (hb l hl _ h)).2.2.1 rfl⟩

/-- A `sep` with a `-` that the armour lines do not hold is in no line. -/
theorem not_infix_bareLines {sep : Bytes} (h45 : 45 ∈ sep)
    (hfix : ∀ l ∈ [ascii "dir-signing-key", ascii "-----BEGIN RSA PUBLIC KEY-----",
      ascii "-----END RSA PUBLIC KEY-----"], ¬ sep <:+: l) :
    ∀ l ∈ bareLines fingerprint body, ¬ sep <:+: l := by
  intro l hl hs
  rcases mem_bareLines hl with rfl | hl | hl
  · exact (fingerprintLine_char hfp (hs.subset h45)).2.2 rfl
  · exact hfix l hl hs
  · exact (base64_char (hb l hl _ (hs.subset h45))).2.2.2 rfl

/-- The fields of a bare certificate: its fingerprint and signing key PEM,
no expiry and no identity key. -/
theorem extractKeyCertFields_bareKeyCert (p : Bytes → Option Int) :
    extractKeyCertFields p (bareKeyCert fingerprint body) =
      ⟨fingerprint, zeroTime, joinLines (rsaKeyLines body), []⟩ := by
  have hlf := bareLines_no_lf hb hfp
  rw [extractKeyCertFields, bareKeyCert, splitLines_joinLines (fun l hl => (List.mem_cons.1 hl).elim
      (fun h => h ▸ by decide) fun hl => (hlf l hl).1),
    List.cons_append, keyCertLines, keyCertLine_of_ne (by decide) (by decide) (by decide) (by decide) (by decide),
    bareLines, List.cons_append, keyCertLines, keyCertLine_fingerprint hfp, List.cons_append, keyCertLines,
    keyCertLine_signingKey (by simp [rsaKeyLines]), keyCertLines_of_inert (keyCertLine_rsaKeyLines hb),
    extractPEMBlock_rsaKeyLines hb]

omit hb hfp in
theorem verifyIdentityFingerprint_nil {Key : Type} (lib : DirLib Key) (fp : Bytes) :
    verifyIdentityFingerprint lib [] fp = .ok () := rfl

/-- A bare certificate is accepted, with the signing key its PEM decodes and
parses to. -/
theorem parseOneKeyCert_bareKeyCert {Key : Type} (lib : DirLib Key) {der : Bytes} {key : Key}
    (hd : lib.pemDecode (joinLines (rsaKeyLines body)) = some der)
    (hk : lib.parsePKCS1PublicKey der = .ok key) (now : Int) :
    parseOneKeyCert lib (bareKeyCert fingerprint body) now =
      .ok ⟨fingerprint, toUpper (hexEncode (lib.sha1 der)), key, zeroTime⟩ := by
  have hne : fingerprint ≠ [] := by rintro rfl; exact absurd hfp (by decide)
  have hj : joinLines (rsaKeyLines body) ≠ [] := by simp [rsaKeyLines, joinLines]
  simp only [parseOneKeyCert, extractKeyCertFields_bareKeyCert hb hfp, verifyIdentityFingerprint_nil]
  rw [if_neg hne, if_neg (not_not.2 hfp)]
  simp only [Except.bind, ne_eq, not_true_eq_false, false_and, if_false, parseSigningKey, if_neg hj, hd, hk]

end Bare

/-- A certificate for an authority that carries a signing key and nothing
else: base64 PEM lines that decode, to a key that parses. -/
structure BareCert {Key : Type} (lib : DirLib Key) where
  fingerprint : Bytes
  body : List Bytes
  der : Bytes
  key : Key
  known : fingerprint ∈ dirAuthorityFingerprints
  base64 : ∀ l ∈ body, Base64Line l
  decodes : lib.pemDecode (joinLines (rsaKeyLines body)) = some der
  parses : lib.parsePKCS1PublicKey der = .ok key

namespace BareCert

variable {Key : Type} {lib : DirLib Key} (c : BareCert lib)

/-- The text of the certificate. -/
def text : Bytes := bareKeyCert c.fingerprint c.body

/-- The `KeyCert` it is read as. -/
def keyCert : KeyCert Key := ⟨c.fingerprint, toUpper (hexEncode (lib.sha1 c.der)), c.key, zeroTime⟩

theorem parseOneKeyCert_text (now : Int) : parseOneKeyCert lib c.text now = .ok c.keyCert :=
  parseOneKeyCert_bareKeyCert c.base64 c.known lib c.decodes c.parses now

/-- The text starts with the marker, holds it nowhere else and ends with a
line feed. -/
theorem text_block : ∃ t, c.text = 100 :: t ∧ certMarker <+: 100 :: t ∧ ¬ certMarker <:+: t ∧
    t.getLast? = some 10 := by
  refine ⟨joinLines (ascii "ir-key-certificate-version 3" :: bareLines c.fingerprint c.body), rfl,
    ?_, not_infix_joinLines (by decide) (by decide) ?_, getLast?_joinLines (List.cons_ne_nil _ _)⟩
  · show certMarker <+: joinLines (ascii "dir-key-certificate-version 3" :: bareLines c.fingerprint c.body)
    rw [joinLines_cons]
    exact (by decide : certMarker <+: ascii "dir-key-certificate-version 3").trans (List.prefix_append _ _)
  intro l hl
  rcases List.mem_cons.1 hl with rfl | hl
  · decide
  · exact not_infix_bareLines c.base64 c.known (by decide) (by decide) l hl

/-- Certificates laid end to end are one text of lines. -/
theorem texts (cs : List (BareCert lib)) :
    (cs.map BareCert.text).flatten =
      joinLines (cs.flatMap fun c => ascii "dir-key-certificate-version 3" :: bareLines c.fingerprint c.body) :=
  flatten_map_joinLines _ cs

end BareCert

/-- Bare certificates laid end to end split back into themselves. -/
theorem splitCertBlocks_bareCerts {Key : Type} {lib : DirLib Key} (cs : List (BareCert lib)) :
    splitCertBlocks (cs.map BareCert.text).flatten = cs.map BareCert.text := by
  induction cs with
  | nil => exact splitCertBlocks_nil
  | cons c cs ih =>
    obtain ⟨t, ht, hb, hm, hl⟩ := c.text_block
    have hr : (cs.map BareCert.text).flatten = [] ∨ certMarker <+: (cs.map BareCert.text).flatten := by
      rcases cs with _ | ⟨c', cs⟩
      · exact .inl rfl
      · obtain ⟨t', ht', hb', -⟩ := c'.text_block
        exact .inr (by rw [List.map_cons, List.flatten_cons, ht']; exact hb'.trans (List.prefix_append _ _))
    rw [List.map_cons, List.flatten_cons, ht, splitCertBlocks_append hb hm hl hr, ih]

/-- Every bare certificate is kept, with the signing key it names. -/
theorem parseKeyCerts_bareCerts {Key : Type} (lib : DirLib Key) (cs : List (BareCert lib)) (now : Int) :
    parseKeyCerts lib (cs.map BareCert.text).flatten now = cs.map BareCert.keyCert := by
  rw [parseKeyCerts, splitCertBlocks_bareCerts, List.filterMap_map, ← List.filterMap_eq_map]
  congr 1
  funext c
  simp [c.parseOneKeyCert_text, Except.toOption]

/-- A text of bare certificates holds neither `dir-identity-key` nor
`dir-key-certification`. -/
theorem bareCerts_uncertified {Key : Type} {lib : DirLib Key} (cs : List (BareCert lib)) :
    ¬ ascii "dir-identity-key" <:+: (cs.map BareCert.text).flatten ∧
      ¬ ascii "dir-key-certification" <:+: (cs.map BareCert.text).flatten := by
  have h : ∀ sep, 45 ∈ sep → 10 ∉ sep → ¬ sep <:+: ascii "dir-key-certificate-version 3" →
      (∀ l ∈ [ascii "dir-signing-key", ascii "-----BEGIN RSA PUBLIC KEY-----",
        ascii "-----END RSA PUBLIC KEY-----"], ¬ sep <:+: l) →
      ¬ sep <:+: (cs.map BareCert.text).flatten := by
    intro sep h45 h10 hv hfix
    rw [BareCert.texts]
    refine not_infix_joinLines (List.ne_nil_of_mem h45) h10 fun l hl => ?_
    obtain ⟨c, -, hl⟩ := List.mem_flatMap.1 hl
    rcases List.mem_cons.1 hl with rfl | hl
    · exact hv
    · exact not_infix_bareLines c.base64 c.known h45 hfix l hl
  exact ⟨h _ (by decide) (by decide) (by decide) (by decide), h _ (by decide) (by decide) (by decide) (by decide)⟩

end TorGo.L5
