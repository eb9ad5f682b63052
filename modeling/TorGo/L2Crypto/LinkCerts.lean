import TorGo.L1Encoding.Text

/-!
# Ed25519 certificates and the CERTS cell (`link/certs.go`)

`parseTorCert` reads a certificate of tor's cert-spec (section 2.1)

    VERSION || CERT_TYPE || EXPIRATION_DATE[4] || CERT_KEY_TYPE ||
    CERTIFIED_KEY[32] || N_EXTENSIONS || extensions || SIGNATURE[64]

where an extension is `ExtLen[2] || ExtType || ExtFlags || ExtData[ExtLen]`.
The grammar is the writer `encodeTorCert`; the reader is modelled from the
source, its extension loop one pass at a time (`parseExt`).

`validateCerts` walks the entries `CertType || CLEN[2] || Certificate` of a
CERTS payload one pass at a time (`scanCert`), keeps the last type-4 and the
last type-5 certificate, and checks the chain identity key → signing key →
TLS certificate. Ed25519 verification and the text `%v` prints for a
`time.Time` are parameters (`CertPrims`); the clock is the argument `now`,
in nanoseconds since the Unix epoch. Go's panic on `peerCertHash[:32]` for
a hash shorter than 32 bytes is `none`. The debug logging is left out.

Results:
* `parseTorCert_encodeTorCert`: every certificate of the grammar whose
  extensions are each a 32-byte type-4 extension or not critical is read
  back field by field, the signing key being the last such type-4
  extension's data;
* `parseTorCert_accepts_off_grammar`: a header of any version followed by a
  zero `N_EXTENSIONS` byte and at least 63 more bytes is accepted, its last
  64 bytes taken as the signature; the grammar holds such an input only
  with version 1 and exactly 64 bytes after the zero;
* `validateCerts_ok`: what an accepted CERTS payload satisfies;
* `validateCerts_ignores_replaced_entry`: an accepted payload stays
  accepted, with the same identity key, behind an extra type-4 entry
  carrying any certificate that parses.
-/
namespace TorGo.L2

open TorGo.L1

/-- `torCert`: the header fields, `CertifiedKey` (`[32]byte`), `SigningKey`
(`[32]byte`, all zero unless a type-4 extension sets it), `Signature`
(`[64]byte`) and `Raw`, the whole input. -/
structure TorCert where
  version : UInt8
  certType : UInt8
  expirationHrs : UInt32
  keyType : UInt8
  certifiedKey : Bytes
  signingKey : Bytes
  signature : Bytes
  raw : Bytes
  deriving DecidableEq, Repr

/-! ## `parseTorCert` -/

/-- One pass of the extension loop of `parseTorCert`, at position `pos` with
the signing key found so far: the position after the extension and the
signing key after it. `sigStart` is `len(data)-64`, where the signature
begins. -/
def parseExt (data : Bytes) (sigStart pos : Nat) (signingKey : Bytes) :
    Except String (Nat × Bytes) :=
  if pos + 4 > sigStart then .error ("extension overflows cert at pos " ++ toString pos) else
  let extLen := (uint16 (data.drop pos)).toNat
  let extType := data.getD (pos + 2) 0
  let extFlags := data.getD (pos + 3) 0
  if pos + 4 + extLen > sigStart then .error "extension data overflows" else
  let extData := slice data (pos + 4) (pos + 4 + extLen)
  if extType = 4 ∧ extData.length = 32 then .ok (pos + 4 + extLen, extData)
  else if extFlags &&& 1 ≠ 0 then
    .error ("unrecognized critical extension type 0x" ++ byteText (hexEncode [extType]))
  else .ok (pos + 4 + extLen, signingKey)

/-- The loop `for i := uint8(0); i < nExt; i++`, with `n` passes left. -/
def parseExts (data : Bytes) (sigStart : Nat) : Nat → Nat → Bytes → Except String (Nat × Bytes)
  | 0, pos, signingKey => .ok (pos, signingKey)
  | n + 1, pos, signingKey =>
    match parseExt data sigStart pos signingKey with
    | .ok (pos, signingKey) => parseExts data sigStart n pos signingKey
    | .error e => .error e

/-- `parseTorCert`. Past the length check the input has at least 103 bytes,
so `copy` fills `CertifiedKey` with exactly `data[7:39]` and `Signature`
with the last 64 bytes. -/
def parseTorCert (data : Bytes) : Except String TorCert :=
  if data.length < 39 + 64 then .error ("tor cert too short: " ++ toString data.length ++ " bytes") else
  match parseExts data (data.length - 64) (data.getD 39 0).toNat 40 (List.replicate 32 0) with
  | .error e => .error e
  | .ok (_, signingKey) => .ok
    { version := data.getD 0 0, certType := data.getD 1 0, expirationHrs := uint32 (data.drop 2),
      keyType := data.getD 6 0, certifiedKey := slice data 7 39, signingKey := signingKey,
      signature := data.drop (data.length - 64), raw := data }

/-! ## The certificate grammar -/

/-- An extension: `ExtType`, `ExtFlags` and `ExtData`. -/
structure CertExt where
  extType : UInt8
  extFlags : UInt8
  extData : Bytes
  deriving DecidableEq, Repr

/-- `ExtLen || ExtType || ExtFlags || ExtData`. -/
def CertExt.encode (e : CertExt) : Bytes :=
  putUint16 (UInt16.ofNat e.extData.length) ++ e.extType :: e.extFlags :: e.extData

/-- An extension `parseTorCert` reads without error: a 32-byte type-4
extension (the signing key), or one without the AFFECTS_VALIDATION flag. -/
def CertExt.Accepted (e : CertExt) : Prop :=
  (e.extType = 4 ∧ e.extData.length = 32) ∨ e.extFlags &&& 1 = 0

instance : DecidablePred CertExt.Accepted := fun _ => inferInstanceAs (Decidable (_ ∨ _))

/-- The fields of a certificate of the grammar; its VERSION is 1. -/
structure CertFields where
  certType : UInt8
  expirationHrs : UInt32
  keyType : UInt8
  certifiedKey : Bytes
  exts : List CertExt
  signature : Bytes

/-- The grammar's lengths: a 32-byte certified key, a 64-byte signature, and
fewer than 256 extensions whose data fit their `ExtLen`. -/
def CertFields.WellFormed (f : CertFields) : Prop :=
  f.certifiedKey.length = 32 ∧ f.signature.length = 64 ∧ f.exts.length < 256 ∧
    ∀ e ∈ f.exts, e.extData.length < 65536

instance (f : CertFields) : Decidable f.WellFormed := inferInstanceAs (Decidable (_ ∧ _))

/-- The first 39 bytes: VERSION 1, CERT_TYPE, EXPIRATION_DATE, CERT_KEY_TYPE
and CERTIFIED_KEY. -/
def CertFields.header (f : CertFields) : Bytes :=
  [1, f.certType] ++ putUint32 f.expirationHrs ++ f.keyType :: f.certifiedKey

/-- The certificate with these fields. -/
def encodeTorCert (f : CertFields) : Bytes :=
  f.header ++ UInt8.ofNat f.exts.length :: (f.exts.flatMap CertExt.encode ++ f.signature)

/-- The signing key after the extension loop: the data of the last 32-byte
type-4 extension, else `signingKey`. -/
def lastSigningKey (exts : List CertExt) (signingKey : Bytes) : Bytes :=
  exts.foldl (fun sk e => if e.extType = 4 ∧ e.extData.length = 32 then e.extData else sk) signingKey

@[simp] theorem CertExt.encode_length (e : CertExt) : e.encode.length = e.extData.length + 4 := by
  simp [CertExt.encode]; omega

@[simp] theorem CertFields.header_length (f : CertFields) :
    f.header.length = f.certifiedKey.length + 7 := by
  simp [CertFields.header]; omega

/-- One extension of the grammar is one pass of the loop. -/
theorem parseExt_encode (pre rest sk : Bytes) (e : CertExt) (he : e.Accepted)
    (hl : e.extData.length < 65536) (hr : 64 ≤ rest.length) :
    parseExt (pre ++ e.encode ++ rest) ((pre ++ e.encode ++ rest).length - 64) pre.length sk =
      .ok (pre.length + 4 + e.extData.length,
        if e.extType = 4 ∧ e.extData.length = 32 then e.extData else sk) := by
  have hd : (pre ++ e.encode ++ rest).drop pre.length = e.encode ++ rest := by simp
  have hlen : (uint16 (e.encode ++ rest)).toNat = e.extData.length := by
    rw [CertExt.encode, List.append_assoc, uint16_putUint16, UInt16.toNat_ofNat']
    omega
  have hdata : slice (pre ++ e.encode ++ rest) (pre.length + 4) (pre.length + 4 + e.extData.length) =
      e.extData := by
    simp [slice, CertExt.encode, putUint16]
  have hget (i : Nat) : (pre ++ e.encode ++ rest).getD (pre.length + i) 0 = (e.encode ++ rest).getD i 0 := by
    simp [List.getElem?_append_right]
  have htotal : (pre ++ e.encode ++ rest).length = pre.length + 4 + e.extData.length + rest.length := by
    simp only [List.length_append, CertExt.encode_length]; omega
  have hfits : ¬ pre.length + 4 + e.extData.length > (pre ++ e.encode ++ rest).length - 64 := by omega
  simp only [parseExt, hd, hlen, hdata, hget, if_neg hfits,
    if_neg (show ¬ pre.length + 4 > (pre ++ e.encode ++ rest).length - 64 by omega)]
  show (if e.extType = 4 ∧ _ then _ else if e.extFlags &&& 1 ≠ 0 then _ else _) = _
  by_cases h4 : e.extType = 4 ∧ e.extData.length = 32
  · rw [if_pos h4, if_pos h4]
  · rw [if_neg h4, if_neg h4, if_neg (not_not.mpr (he.resolve_left h4))]

/-- The extensions of the grammar make up the whole loop, whatever precedes
them and whatever 64 or more bytes follow. -/
theorem parseExts_encode (rest : Bytes) (hr : 64 ≤ rest.length) (exts : List CertExt)
    (h : ∀ e ∈ exts, e.Accepted ∧ e.extData.length < 65536) (pre sk : Bytes) :
    parseExts (pre ++ exts.flatMap CertExt.encode ++ rest)
        ((pre ++ exts.flatMap CertExt.encode ++ rest).length - 64) exts.length pre.length sk =
      .ok ((pre ++ exts.flatMap CertExt.encode).length, lastSigningKey exts sk) := by
  induction exts generalizing pre sk with
  | nil => simp only [List.flatMap_nil, List.append_nil, List.length_nil]; rfl
  | cons e es ih =>
    have he := h e (List.mem_cons_self ..)
    have hstep := parseExt_encode pre (es.flatMap CertExt.encode ++ rest) sk e he.1 he.2
      (by simp only [List.length_append]; omega)
    have ih' := ih (fun x hx => h x (List.mem_cons_of_mem _ hx)) (pre ++ e.encode)
      (if e.extType = 4 ∧ e.extData.length = 32 then e.extData else sk)
    simp only [List.flatMap_cons, List.append_assoc, List.length_append, CertExt.encode_length]
      at hstep ih' ⊢
    simp only [List.length_cons, parseExts, hstep]
    rw [show pre.length + 4 + e.extData.length = pre.length + (e.extData.length + 4) by omega]
    exact ih'

/-- `N_EXTENSIONS` is byte 39 of the certificate. -/
theorem encodeTorCert_getD_nExt (f : CertFields) (hk : f.certifiedKey.length = 32) :
    (encodeTorCert f).getD 39 0 = UInt8.ofNat f.exts.length := by
  rw [encodeTorCert, List.getD_eq_getElem?_getD, List.getElem?_append_right (by simp [hk])]
  simp [hk]

/-- Every certificate of the grammar without an unrecognized critical
extension is read back: VERSION 1, its header fields, the signing key of its
last 32-byte type-4 extension (zero without one) and its signature. -/
theorem parseTorCert_encodeTorCert (f : CertFields) (hf : f.WellFormed)
    (hacc : ∀ e ∈ f.exts, e.Accepted) :
    parseTorCert (encodeTorCert f) = .ok
      { version := 1, certType := f.certType, expirationHrs := f.expirationHrs,
        keyType := f.keyType, certifiedKey := f.certifiedKey,
        signingKey := lastSigningKey f.exts (List.replicate 32 0), signature := f.signature,
        raw := encodeTorCert f } := by
  obtain ⟨hk, hs, hn, hl⟩ := hf
  have hsplit : encodeTorCert f =
      f.header ++ [UInt8.ofNat f.exts.length] ++ f.exts.flatMap CertExt.encode ++ f.signature := by
    simp [encodeTorCert]
  have hloop := parseExts_encode f.signature (by omega) f.exts (fun e he => ⟨hacc e he, hl e he⟩)
    (f.header ++ [UInt8.ofNat f.exts.length]) (List.replicate 32 0)
  have hn' : (UInt8.ofNat f.exts.length).toNat = f.exts.length := by
    rw [UInt8.toNat_ofNat']; omega
  have hlen : (encodeTorCert f).length = 40 + (f.exts.flatMap CertExt.encode).length + 64 := by
    simp [hsplit, hk, hs]; omega
  have hkey : slice (encodeTorCert f) 7 39 = f.certifiedKey := by
    rw [show encodeTorCert f = ([1, f.certType] ++ putUint32 f.expirationHrs ++ [f.keyType]) ++
      (f.certifiedKey ++ UInt8.ofNat f.exts.length :: (f.exts.flatMap CertExt.encode ++ f.signature))
      by simp [encodeTorCert, CertFields.header], slice_append_right _ _ _ _ (by simp)]
    exact slice_append_first _ _ hk
  have hsig : (encodeTorCert f).drop ((encodeTorCert f).length - 64) = f.signature := by
    rw [hsplit]; exact List.drop_left' (by simp [hs]; omega)
  simp only [List.length_append, CertFields.header_length, hk, List.length_singleton,
    ← hsplit] at hloop
  rw [parseTorCert, if_neg (by omega), encodeTorCert_getD_nExt f hk, hn', hloop]
  simp only [hkey, hsig, Except.ok.injEq, TorCert.mk.injEq, and_true]
  exact ⟨rfl, rfl, uint32_putUint32 _ _, rfl⟩

/-- A certificate of the source's test shape: a type-4 certificate with one
signing-key extension, read back with that key. -/
theorem signing_key_cert_reads_back :
    parseTorCert (encodeTorCert ⟨4, 1000, 1, List.replicate 32 2, [⟨4, 0, List.replicate 32 1⟩],
      List.replicate 64 9⟩) = .ok
      { version := 1, certType := 4, expirationHrs := 1000, keyType := 1,
        certifiedKey := List.replicate 32 2, signingKey := List.replicate 32 1,
        signature := List.replicate 64 9,
        raw := encodeTorCert ⟨4, 1000, 1, List.replicate 32 2, [⟨4, 0, List.replicate 32 1⟩],
          List.replicate 64 9⟩ } :=
  parseTorCert_encodeTorCert _ (by decide) (by decide)

/-- `parseTorCert` checks neither VERSION nor where the extensions end: a
header of any version with a zero `N_EXTENSIONS` byte is accepted whatever
follows that byte, as long as the input has the minimum 103 bytes, and the
last 64 bytes are taken as the signature. The grammar holds such an input
only with VERSION 1 and exactly 64 bytes after the zero. -/
theorem parseTorCert_accepts_off_grammar (version certType keyType : UInt8)
    (expirationHrs : UInt32) (certifiedKey tail : Bytes) (hk : certifiedKey.length = 32)
    (ht : 63 ≤ tail.length) :
    parseTorCert ([version, certType] ++ putUint32 expirationHrs ++ keyType :: certifiedKey ++
        0 :: tail) = .ok
      { version := version, certType := certType, expirationHrs := expirationHrs,
        keyType := keyType, certifiedKey := certifiedKey, signingKey := List.replicate 32 0,
        signature := (0 :: tail).drop (tail.length + 1 - 64),
        raw := [version, certType] ++ putUint32 expirationHrs ++ keyType :: certifiedKey ++
          0 :: tail } ∧
    ∀ f : CertFields, f.WellFormed →
      encodeTorCert f = [version, certType] ++ putUint32 expirationHrs ++ keyType :: certifiedKey ++
        0 :: tail → version = 1 ∧ tail.length = 64 := by
  generalize hh : [version, certType] ++ putUint32 expirationHrs ++ keyType :: certifiedKey = header
  have hhl : header.length = 39 := by rw [← hh]; simp [hk]
  have hn : (header ++ 0 :: tail).getD 39 0 = 0 := by
    rw [List.getD_eq_getElem?_getD, List.getElem?_append_right (by omega), hhl]; simp
  refine ⟨?_, fun f hf henc => ?_⟩
  · have hkey : slice (header ++ 0 :: tail) 7 39 = certifiedKey := by
      rw [show header ++ 0 :: tail = ([version, certType] ++ putUint32 expirationHrs ++ [keyType]) ++
        (certifiedKey ++ 0 :: tail) by simp [← hh], slice_append_right _ _ _ _ (by simp)]
      exact slice_append_first _ _ hk
    have hsig : (header ++ 0 :: tail).drop ((header ++ 0 :: tail).length - 64) =
        (0 :: tail).drop (tail.length + 1 - 64) := by
      rw [show (header ++ 0 :: tail).length - 64 = header.length + (tail.length + 1 - 64) by
        simp [hhl]; omega, List.drop_append]
    have hexp : uint32 ((header ++ 0 :: tail).drop 2) = expirationHrs := by
      rw [← hh]; exact uint32_putUint32 _ _
    rw [parseTorCert, if_neg (by simp [hhl]; omega), hn]
    simp only [hkey, hsig, hexp, show (0 : UInt8).toNat = 0 from rfl, parseExts]
    subst hh
    rfl
  · obtain ⟨hk', hs, hl, -⟩ := hf
    have hn' := encodeTorCert_getD_nExt f hk'
    rw [henc, hn] at hn'
    have hnil : f.exts = [] := by
      have := congrArg UInt8.toNat hn'
      rw [UInt8.toNat_ofNat'] at this
      exact List.eq_nil_of_length_eq_zero (by simp at this; omega)
    have hlen := congrArg List.length henc
    simp only [encodeTorCert, hnil, CertFields.header_length, List.length_append, List.length_cons,
      List.flatMap_nil, List.length_nil, hk', hs, hhl] at hlen
    refine ⟨?_, by omega⟩
    have hhead := congrArg List.head? henc
    rw [← hh] at hhead
    simpa [encodeTorCert, CertFields.header] using hhead.symm

/-- A 103-byte input of VERSION 2 whose `N_EXTENSIONS` byte is also the
first byte of the signature is accepted. -/
theorem version_two_cert_accepted :
    parseTorCert ([2, 4] ++ putUint32 0 ++ 1 :: List.replicate 32 0 ++ 0 :: List.replicate 63 0) = .ok
      { version := 2, certType := 4, expirationHrs := 0, keyType := 1,
        certifiedKey := List.replicate 32 0, signingKey := List.replicate 32 0,
        signature := List.replicate 64 0,
        raw := [2, 4] ++ putUint32 0 ++ 1 :: List.replicate 32 0 ++ 0 :: List.replicate 63 0 } :=
  (parseTorCert_accepts_off_grammar 2 4 1 0 (List.replicate 32 0) (List.replicate 63 0)
    (List.length_replicate _ _) (by simp)).1

/-! ## `torCert.verify` and `validateCerts` -/

/-- What `link/certs.go` takes from the standard library:
`ed25519.Verify(publicKey, message, sig)`, and the text `%v` prints for the
`time.Time` of a Unix second. -/
structure CertPrims where
  ed25519Verify : Bytes → Bytes → Bytes → Bool
  timeText : Int → String

section Chain

variable (P : CertPrims)

/-- `tc.verify(signingKey)` at the time `now`, in nanoseconds since the Unix
epoch; `none` is a nil `signingKey`. -/
def TorCert.verify (tc : TorCert) (now : Int) (signingKey : Option Bytes) : Except String Unit :=
  let expTime : Int := tc.expirationHrs.toNat * 3600
  if now > expTime * 1000000000 then .error ("cert expired at " ++ P.timeText expTime) else
  let pubKey : Except String Bytes := match signingKey with
    | some key => .ok key
    | none =>
      if tc.signingKey = List.replicate 32 0 then
        .error "no signing key extension (type 0x04) found and none provided"
      else .ok tc.signingKey
  match pubKey with
  | .error e => .error e
  | .ok pubKey =>
    if !P.ed25519Verify pubKey (tc.raw.take (tc.raw.length - 64)) tc.signature then
      .error "ed25519 signature verification failed"
    else .ok ()

/-- The state of the loop of `validateCerts`: the position, and the last
type-4 and type-5 certificates parsed (`none` is `nil`). -/
structure CertsScan where
  pos : Nat
  cert4 : Option TorCert
  cert5 : Option TorCert
  deriving DecidableEq, Repr

/-- One pass of the loop of `validateCerts`, over entry `i`. -/
def scanCert (payload : Bytes) (i : Nat) (sc : CertsScan) : Except String CertsScan :=
  if sc.pos + 3 > payload.length then .error ("certs cell truncated at cert " ++ toString i) else
  let certType := payload.getD sc.pos 0
  let certLen := (uint16 (payload.drop (sc.pos + 1))).toNat
  let pos := sc.pos + 3
  if pos + certLen > payload.length then
    .error ("cert " ++ toString i ++ " data overflows (type=" ++ toString certType ++ ", len=" ++
      toString certLen ++ ")")
  else
  let certData := slice payload pos (pos + certLen)
  let pos := pos + certLen
  if certType = 4 then
    match parseTorCert certData with
    | .error e => .error ("parse cert type 4: " ++ e)
    | .ok tc => .ok { sc with pos := pos, cert4 := some tc }
  else if certType = 5 then
    match parseTorCert certData with
    | .error e => .error ("parse cert type 5: " ++ e)
    | .ok tc => .ok { sc with pos := pos, cert5 := some tc }
  else .ok { sc with pos := pos }

/-- The loop `for i := uint8(0); i < nCerts; i++`, from entry `i` with `n`
passes left. -/
def scanCerts (payload : Bytes) : Nat → Nat → CertsScan → Except String CertsScan
  | _, 0, sc => .ok sc
  | i, n + 1, sc =>
    match scanCert payload i sc with
    | .ok sc => scanCerts payload (i + 1) n sc
    | .error e => .error e

/-- The checks of `validateCerts` after the loop, on the certificates it
kept; `none` is the panic of `peerCertHash[:32]`. -/
def checkChain (now : Int) (peerCertHash : Bytes) :
    Option TorCert → Option TorCert → Option (Except String Bytes)
  | none, _ => some (.error "missing CertType 4 (IDENTITY_V_SIGNING)")
  | some _, none => some (.error "missing CertType 5 (SIGNING_V_TLS_CERT)")
  | some cert4, some cert5 =>
    match cert4.verify P now none with
    | .error e => some (.error ("cert type 4 verification: " ++ e))
    | .ok () =>
      match cert5.verify P now (some cert4.certifiedKey) with
      | .error e => some (.error ("cert type 5 verification: " ++ e))
      | .ok () =>
        if cert5.keyType ≠ 3 then
          some (.error ("cert type 5 key type should be 0x03 (SHA256-of-X509), got 0x" ++
            byteText (hexEncode [cert5.keyType])))
        else if peerCertHash.length < 32 then none
        else if cert5.certifiedKey ≠ peerCertHash.take 32 then
          some (.error "cert type 5 certified key does not match TLS certificate hash")
        else some (.ok cert4.signingKey)

/-- `validateCerts(payload, peerCertHash, logger)` at the time `now`. -/
def validateCerts (now : Int) (payload peerCertHash : Bytes) : Option (Except String Bytes) :=
  if payload.length < 1 then some (.error "empty CERTS payload") else
  match scanCerts payload 0 (payload.getD 0 0).toNat ⟨1, none, none⟩ with
  | .error e => some (.error e)
  | .ok sc => checkChain P now peerCertHash sc.cert4 sc.cert5

variable {P}

/-- `verify` succeeds exactly when the certificate has not expired at `now`,
a signing key is given or the certificate carries a non-zero one, and the
signature over everything but its last 64 bytes verifies under that key. -/
theorem TorCert.verify_ok_iff {tc : TorCert} {now : Int} {key : Option Bytes} :
    tc.verify P now key = .ok () ↔ now ≤ tc.expirationHrs.toNat * 3600 * 1000000000 ∧
      (key = none → tc.signingKey ≠ List.replicate 32 0) ∧
      P.ed25519Verify (key.getD tc.signingKey) (tc.raw.take (tc.raw.length - 64)) tc.signature := by
  unfold TorCert.verify
  by_cases hexp : now > tc.expirationHrs.toNat * 3600 * 1000000000
  · rw [if_pos hexp]
    exact ⟨fun h => (by cases h), fun h => absurd h.1 (by omega)⟩
  have hle : now ≤ tc.expirationHrs.toNat * 3600 * 1000000000 := by omega
  rw [if_neg hexp]
  rcases key with _ | key
  · by_cases hz : tc.signingKey = List.replicate 32 0
    · simp [hz]
    · rw [if_neg hz]
      cases hv : P.ed25519Verify tc.signingKey (tc.raw.take (tc.raw.length - 64)) tc.signature
      · simp [hv]
      · simpa [hv, hle] using hz
  · cases hv : P.ed25519Verify key (tc.raw.take (tc.raw.length - 64)) tc.signature <;>
      simp [hv, hle]

/-- The scan state `sc` of a loop started at `pos` with the certificates
`cert4` and `cert5` in hand: positions shift by `pos`, and a certificate
found replaces the one in hand. -/
def CertsScan.rebase (pos : Nat) (cert4 cert5 : Option TorCert) (sc : CertsScan) : CertsScan :=
  ⟨pos + sc.pos, sc.cert4.or cert4, sc.cert5.or cert5⟩

theorem CertsScan.rebase_rebase (pos q : Nat) (c4 c5 x4 x5 : Option TorCert) (sc : CertsScan) :
    (sc.rebase q x4 x5).rebase pos c4 c5 = sc.rebase (pos + q) (x4.or c4) (x5.or c5) := by
  simp only [CertsScan.rebase, Option.or_assoc, Nat.add_assoc]

/-- One pass of the loop reads only the bytes from its position on, and
keeps the certificates in hand unless it replaces one. -/
theorem scanCert_rebase (payload : Bytes) (i pos : Nat) (c4 c5 : Option TorCert) :
    scanCert payload i ⟨pos, c4, c5⟩ =
      (scanCert (payload.drop pos) i ⟨0, none, none⟩).map (CertsScan.rebase pos c4 c5) := by
  have hget : (payload.drop pos).getD 0 0 = payload.getD pos 0 := by
    simp [List.getElem?_drop]
  have hlen : uint16 ((payload.drop pos).drop (0 + 1)) = uint16 (payload.drop (pos + 1)) := by
    simp [List.drop_drop]
  have hslice (L : Nat) : slice (payload.drop pos) (0 + 3) (0 + 3 + L) =
      slice payload (pos + 3) (pos + 3 + L) := by
    simp [slice, List.drop_drop, Nat.add_sub_cancel_left]
  simp only [scanCert, hget, hlen, hslice, List.length_drop]
  by_cases h1 : pos + 3 > payload.length
  · rw [if_pos h1, if_pos (show 0 + 3 > payload.length - pos by omega)]; rfl
  rw [if_neg h1, if_neg (show ¬ 0 + 3 > payload.length - pos by omega)]
  generalize (uint16 (payload.drop (pos + 1))).toNat = L
  by_cases h2 : pos + 3 + L > payload.length
  · rw [if_pos h2, if_pos (show 0 + 3 + L > payload.length - pos by omega)]; rfl
  rw [if_neg h2, if_neg (show ¬ 0 + 3 + L > payload.length - pos by omega)]
  have hpos : pos + (0 + 3 + L) = pos + 3 + L := by omega
  split_ifs <;> cases parseTorCert (slice payload (pos + 3) (pos + 3 + L)) <;>
    simp [CertsScan.rebase, Except.map, hpos]

theorem except_map_map {ε α β γ : Type} (x : Except ε α) (f : α → β) (g : β → γ) :
    (x.map f).map g = x.map (g ∘ f) := by
  cases x <;> rfl

/-- The whole loop from any state is the loop over the rest of the payload
from a fresh state, rebased. -/
theorem scanCerts_rebase (n : Nat) :
    ∀ (payload : Bytes) (i pos : Nat) (c4 c5 : Option TorCert), scanCerts payload i n ⟨pos, c4, c5⟩ =
      (scanCerts (payload.drop pos) i n ⟨0, none, none⟩).map (CertsScan.rebase pos c4 c5) := by
  induction n with
  | zero => intro payload i pos c4 c5; simp [scanCerts, Except.map, CertsScan.rebase]
  | succ n ih =>
    intro payload i pos c4 c5
    simp only [scanCerts, scanCert_rebase payload i pos]
    cases scanCert (payload.drop pos) i ⟨0, none, none⟩ with
    | error e => rfl
    | ok sc =>
      obtain ⟨q, x4, x5⟩ := sc
      simp only [except_map_ok]
      show scanCerts payload (i + 1) n ⟨pos + q, x4.or c4, x5.or c5⟩ = _
      rw [ih, ih (payload.drop pos), List.drop_drop, except_map_map]
      congr 1
      funext sc
      exact (CertsScan.rebase_rebase pos q c4 c5 x4 x5 sc).symm

/-- Which entry a pass reads shows only in its error texts. -/
theorem scanCert_ok_index {payload : Bytes} {i : Nat} {sc r : CertsScan}
    (h : scanCert payload i sc = .ok r) (j : Nat) : scanCert payload j sc = .ok r := by
  revert h
  unfold scanCert
  dsimp only
  generalize (uint16 (payload.drop (sc.pos + 1))).toNat = L
  generalize parseTorCert (slice payload (sc.pos + 3) (sc.pos + 3 + L)) = res
  split_ifs <;> cases res <;> exact id

theorem scanCerts_ok_index {payload : Bytes} {n : Nat} :
    ∀ {i : Nat} {sc r : CertsScan}, scanCerts payload i n sc = .ok r →
      ∀ j, scanCerts payload j n sc = .ok r := by
  induction n with
  | zero => intro i sc r h j; exact h
  | succ n ih =>
    intro i sc r h j
    simp only [scanCerts] at h ⊢
    cases hs : scanCert payload i sc with
    | error e => simp only [hs] at h; cases h
    | ok sc' => simp only [hs] at h; rw [scanCert_ok_index hs j]; exact ih h (j + 1)

/-- What the checks after the loop ask of the certificates they are given. -/
theorem checkChain_ok {now : Int} {peerCertHash K : Bytes} {c4 c5 : Option TorCert}
    (h : checkChain P now peerCertHash c4 c5 = some (.ok K)) :
    ∃ cert4 cert5, c4 = some cert4 ∧ c5 = some cert5 ∧ cert4.verify P now none = .ok () ∧
      K = cert4.signingKey ∧ cert5.verify P now (some cert4.certifiedKey) = .ok () ∧
      cert5.keyType = 3 ∧ 32 ≤ peerCertHash.length ∧ cert5.certifiedKey = peerCertHash.take 32 := by
  rcases c4 with _ | cert4
  · cases h
  rcases c5 with _ | cert5
  · cases h
  refine ⟨cert4, cert5, rfl, rfl, ?_⟩
  simp only [checkChain] at h
  rcases h4 : cert4.verify P now none with e | ⟨⟩
  · simp only [h4] at h; cases h
  rcases h5 : cert5.verify P now (some cert4.certifiedKey) with e | ⟨⟩
  · simp only [h4, h5] at h; cases h
  simp only [h4, h5] at h
  split_ifs at h with hk hl hc <;> cases h
  exact ⟨rfl, rfl, rfl, not_not.mp hk, by omega, not_not.mp hc⟩

/-- What an accepted CERTS payload satisfies: the loop ends holding a type-4
and a type-5 certificate; the type-4 one verifies under its own signing-key
extension, which is the key returned; the type-5 one verifies under the
type-4 certified key, has key type 3 and certifies the first 32 bytes of the
TLS certificate hash. Nothing is asked of the certificates' own CERT_TYPE,
of the type-4 key type, or of how many entries of each type there are. -/
theorem validateCerts_ok {now : Int} {payload peerCertHash K : Bytes}
    (h : validateCerts P now payload peerCertHash = some (.ok K)) :
    ∃ pos cert4 cert5, scanCerts payload 0 (payload.getD 0 0).toNat ⟨1, none, none⟩ =
        .ok ⟨pos, some cert4, some cert5⟩ ∧
      cert4.verify P now none = .ok () ∧ K = cert4.signingKey ∧
      cert5.verify P now (some cert4.certifiedKey) = .ok () ∧ cert5.keyType = 3 ∧
      32 ≤ peerCertHash.length ∧ cert5.certifiedKey = peerCertHash.take 32 := by
  unfold validateCerts at h
  split_ifs at h
  · cases h
  rcases hs : scanCerts payload 0 (payload.getD 0 0).toNat ⟨1, none, none⟩ with e | ⟨pos, c4, c5⟩
  · simp only [hs] at h; cases h
  simp only [hs] at h
  obtain ⟨cert4, cert5, rfl, rfl, hrest⟩ := checkChain_ok h
  exact ⟨pos, cert4, cert5, rfl, hrest⟩

/-- A CERTS payload that `validateCerts` accepts stays accepted, with the
same identity key, when one more type-4 entry carrying any certificate that
parses is put in front of its entries and the count raised by one: a later
type-4 entry replaces an earlier one unchecked, so a payload with two type-4
entries is accepted. -/
theorem validateCerts_ignores_replaced_entry {now : Int} {n : UInt8}
    {entries peerCertHash junk K : Bytes} {tc : TorCert} (hn : n.toNat < 255)
    (hjunk : parseTorCert junk = .ok tc) (hlen : junk.length < 65536)
    (h : validateCerts P now (n :: entries) peerCertHash = some (.ok K)) :
    validateCerts P now
      ((n + 1) :: (4 :: putUint16 (UInt16.ofNat junk.length) ++ junk) ++ entries) peerCertHash =
        some (.ok K) := by
  have hn1 : (n + 1).toNat = n.toNat + 1 := by
    show (n.toNat + 1) % 256 = _; omega
  have hL : (uint16 (putUint16 (UInt16.ofNat junk.length) ++ junk ++ entries)).toNat = junk.length := by
    rw [List.append_assoc, uint16_putUint16, UInt16.toNat_ofNat']; omega
  have hfirst : scanCert ((n + 1) :: (4 :: putUint16 (UInt16.ofNat junk.length) ++ junk) ++ entries) 0
      ⟨1, none, none⟩ = .ok ⟨1 + 3 + junk.length, some tc, none⟩ := by
    have hslice : slice ((n + 1) :: (4 :: putUint16 (UInt16.ofNat junk.length) ++ junk) ++ entries)
        (1 + 3) (1 + 3 + junk.length) = junk := by
      simp [slice, putUint16]
    unfold scanCert
    simp only [show ((n + 1) :: (4 :: putUint16 (UInt16.ofNat junk.length) ++ junk) ++ entries).drop
      (1 + 1) = putUint16 (UInt16.ofNat junk.length) ++ junk ++ entries from rfl, hL, hslice, hjunk]
    rw [if_neg (by simp), if_neg (by simp; omega)]
    rfl
  have hrest : ((n + 1) :: (4 :: putUint16 (UInt16.ofNat junk.length) ++ junk) ++ entries).drop
      (1 + 3 + junk.length) = entries := by
    rw [show 1 + 3 + junk.length =
      ((n + 1) :: (4 :: putUint16 (UInt16.ofNat junk.length) ++ junk)).length by simp; omega,
      List.drop_left]
  unfold validateCerts at h ⊢
  rw [if_neg (by simp)] at h ⊢
  simp only [List.getD_cons_zero] at h
  rw [scanCerts_rebase, List.drop_one, List.tail_cons] at h
  rcases hs : scanCerts entries 0 n.toNat ⟨0, none, none⟩ with e | r
  · simp only [hs] at h; cases h
  simp only [hs, except_map_ok] at h
  obtain ⟨cert4, -, h4, -⟩ := checkChain_ok h
  rw [show ((n + 1) :: (4 :: putUint16 (UInt16.ofNat junk.length) ++ junk) ++ entries).getD 0 0 =
    n + 1 from rfl, hn1, scanCerts, hfirst]
  simp only [scanCerts_rebase, hrest, scanCerts_ok_index hs, except_map_ok]
  simp only [CertsScan.rebase, Option.or_none] at h h4 ⊢
  rw [h4, Option.or_some, ← h4]
  exact h

/-- Primitives under which every signature verifies. -/
def acceptAllPrims : CertPrims := ⟨fun _ _ _ => true, fun _ => ""⟩

/-- The entries of the source's test chain, written with the grammar: a
type-4 entry certifying the signing key `[2, …]` under the identity key
`[1, …]`, whose own CERT_TYPE is 7, and a type-5 entry certifying the TLS
hash `[3, …]`. -/
def testCertsEntries : Bytes :=
  let cert4 := encodeTorCert ⟨7, 0, 1, List.replicate 32 2, [⟨4, 0, List.replicate 32 1⟩],
    List.replicate 64 0⟩
  let cert5 := encodeTorCert ⟨5, 0, 3, List.replicate 32 3, [], List.replicate 64 0⟩
  (4 :: putUint16 (UInt16.ofNat cert4.length) ++ cert4) ++
    (5 :: putUint16 (UInt16.ofNat cert5.length) ++ cert5)

/-- A keyed stand-in for Ed25519 that the kernel can evaluate: the signature
of `msg` under `key` is 64 copies of the XOR of the key's first byte and of
every byte of `msg`, and only that signature verifies. -/
def xorSig (key msg : Bytes) : Bytes := List.replicate 64 (msg.foldl (· ^^^ ·) (key.headD 0))

def xorSigPrims : CertPrims := ⟨fun key msg sig => sig == xorSig key msg, fun _ => ""⟩

/-- The certificate with these fields, signed under `key`. -/
def signedCert (key : Bytes) (f : CertFields) : Bytes :=
  encodeTorCert { f with signature := xorSig key (f.header ++ UInt8.ofNat f.exts.length :: f.exts.flatMap CertExt.encode) }

/-- A chain valid until hour 500000 (January 2027): in a type-4 entry, a
certificate whose own CERT_TYPE is 7, certifying the signing key `[2, …]`
and signed by the identity key `[1, …]` it carries, and a type-5
certificate certifying the TLS hash `[3, …]`, signed by the signing key. -/
def signedCertsEntries : Bytes :=
  let cert4 := signedCert (List.replicate 32 1)
    ⟨7, 500000, 1, List.replicate 32 2, [⟨4, 0, List.replicate 32 1⟩], []⟩
  let cert5 := signedCert (List.replicate 32 2) ⟨5, 500000, 3, List.replicate 32 3, [], []⟩
  (4 :: putUint16 (UInt16.ofNat cert4.length) ++ cert4) ++
    (5 :: putUint16 (UInt16.ofNat cert5.length) ++ cert5)

set_option maxRecDepth 20000 in
/-- In October 2024, a signed chain behind a first type-4 entry of 103 zero
bytes, which is neither signed nor of version 1: the identity key is
returned. -/
theorem duplicate_identity_entry_accepted :
    validateCerts xorSigPrims 1730000000000000000
      ((2 + 1) :: (4 :: putUint16 (UInt16.ofNat (List.replicate 103 0).length) ++
        List.replicate 103 0) ++ signedCertsEntries) (List.replicate 32 3) =
      some (.ok (List.replicate 32 1)) :=
  @validateCerts_ignores_replaced_entry xorSigPrims 1730000000000000000 2 signedCertsEntries (List.replicate 32 3)
    (List.replicate 103 0) (List.replicate 32 1)
    ⟨0, 0, 0, 0, List.replicate 32 0, List.replicate 32 0, List.replicate 64 0, List.replicate 103 0⟩
    (by decide) rfl (by decide) rfl

end Chain

end TorGo.L2
