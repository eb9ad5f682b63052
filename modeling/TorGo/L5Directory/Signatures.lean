import TorGo.L5Directory.KeyCerts
import Mathlib.Data.List.Dedup

/-!
# Consensus signatures (`directory/consensus.go`)

`ValidateSignatures` accepts a consensus when at least five of the nine
hard-coded authorities have a `directory-signature` on it that verifies. A
signature names an authority and the SHA-1 of a signing key; the key is
looked up among the key certificates by that digest, the certificate must
name the same authority, and the signature must verify under the key over
the hash of the document up to and including `"\ndirectory-signature "`.
With no certificates at all it only counts the authorities that have a
`directory-signature` line (`ValidateSignaturesStructural`).

`parseSignatureBlocks` reads the blocks; its base64 slice
`remaining[sigStart+25 : sigEnd]` panics when `-----END SIGNATURE-----`
comes before the end of `-----BEGIN SIGNATURE-----`, so it and
`validateSignatures` return `none` for that panic. The Go maps
`certByDigest` (the last certificate with a digest wins) and `verified` (a
set of identities) are `certByDigest` and a `dedup`.

Results:
* `parseSignatureBlocks_sigText`: one turn of the loop over a signature
  block; `parseSignatureBlocks_forgeries`, `signedContent_forgeries`: how a
  consensus made of a body and signature blocks is read;
* `certByDigest_of_nodup`: with distinct digests every certificate is found
  by its own;
* `validateSignatures_ok`: what acceptance does guarantee, five distinct
  known authorities, each with a signature that verifies, over the text up to
  the first signature line, under a key of one of the certificates given;
* `validateSignatures_accepts_uncertified_keys`: key certificates that carry
  five authorities' fingerprints and signing keys of anybody's choosing, with
  no identity key and no certification, make any consensus that those keys
  sign valid.
-/
namespace TorGo.L5
open TorGo.L1

/-- `signatureBlock`. -/
structure SignatureBlock where
  algorithm : Bytes
  identity : Bytes
  signingKeyDigest : Bytes
  signature : Bytes

/-- `"\ndirectory-signature "`, before every signature; the signed content
ends with the first. -/
def sigMarker : Bytes := ascii "\ndirectory-signature "

/-- `"-----BEGIN SIGNATURE-----"`. -/
def beginSignature : Bytes := ascii "-----BEGIN SIGNATURE-----"

/-- `"-----END SIGNATURE-----"`. -/
def endSignature : Bytes := ascii "-----END SIGNATURE-----"

/-- The `switch len(parts)` of `parseSignatureBlocks` on the fields of a
`directory-signature` line. -/
def signatureHeader : List Bytes → Option SignatureBlock
  | [_, identity, digest] => some ⟨ascii "sha1", toUpper identity, toUpper digest, []⟩
  | [_, algorithm, identity, digest] => some ⟨algorithm, toUpper identity, toUpper digest, []⟩
  | _ => none

/-- `strings.NewReplacer("\n", "", "\r", "", " ", "").Replace`. -/
def stripBase64 (b : Bytes) : Bytes := b.filter fun c => !(c == 10 || c == 13 || c == 32)

/-- `parseSignatureBlocks`; `none` is the panic of the base64 slice. -/
def parseSignatureBlocks (remaining : Bytes) : Option (List SignatureBlock) :=
  if _h : index remaining sigMarker < 0 then some [] else
  let afterMarker := remaining.drop (index remaining sigMarker + 1).toNat
  let lineEnd := index afterMarker [10]
  if lineEnd < 0 then some [] else
  match signatureHeader (fields (trimRight (afterMarker.take lineEnd.toNat) (ascii "\r"))) with
  | none => parseSignatureBlocks afterMarker
  | some sig =>
    let afterLine := afterMarker.drop (lineEnd + 1).toNat
    let sigStart := index afterLine beginSignature
    if sigStart < 0 then parseSignatureBlocks afterLine else
    let sigEnd := index afterLine endSignature
    if sigEnd < 0 then parseSignatureBlocks afterLine else
    match (sliceUpTo afterLine sigEnd).bind (sliceFrom · (sigStart + 25)) with
    | none => none
    | some b64 =>
      match stdDecodeString (stripBase64 b64) with
      | .error _ => parseSignatureBlocks afterLine
      | .ok sigBytes =>
        (parseSignatureBlocks (afterLine.drop sigEnd.toNat)).map ({ sig with signature := sigBytes } :: ·)
termination_by remaining.length
decreasing_by
  all_goals
    have h21 : sigMarker.length ≤ remaining.length := (not_not.1 ((index_neg_iff _ _).not.1 _h)).length_le
    have : sigMarker.length = 21 := rfl
    try simp only [afterLine]
    simp only [afterMarker, List.length_drop]
    omega

variable {Key : Type} (lib : DirLib Key)

/-- `certByDigest[d]`: the map keeps the last certificate with digest `d`. -/
def certByDigest (certs : List (KeyCert Key)) (d : Bytes) : Option (KeyCert Key) :=
  certs.reverse.find? (·.signingKeyDigest == d)

/-- One turn of the loop of `ValidateSignatures`: the identity the signature
block adds to `verified`, if any. -/
def verifiedIdentity (certs : List (KeyCert Key)) (signedContent : Bytes) (sig : SignatureBlock) :
    Option Bytes :=
  if sig.identity ∉ dirAuthorityFingerprints then none else
  match certByDigest certs sig.signingKeyDigest with
  | none => none
  | some cert =>
    if cert.identityFingerprint ≠ sig.identity then none else
    let h := if sig.algorithm = ascii "sha1" ∨ sig.algorithm = [] then some lib.sha1
      else if sig.algorithm = ascii "sha256" then some lib.sha256 else none
    match h with
    | none => none
    | some h => if lib.verifyPKCS1v15 cert.signingKey (h signedContent) sig.signature then some sig.identity else none

/-- The identity a line of `ValidateSignaturesStructural` adds to `seen`, if any. -/
def structuralIdentity (line : Bytes) : Option Bytes :=
  let line := trimRight line (ascii "\r")
  if !hasPrefix line (ascii "directory-signature ") then none else
  let identity := match fields line with
    | [_, identity, _] => some (toUpper identity)
    | [_, _, identity, _] => some (toUpper identity)
    | _ => none
  identity.bind fun identity => if identity ∈ dirAuthorityFingerprints then some identity else none

/-- `ValidateSignaturesStructural`. -/
def validateSignaturesStructural (text : Bytes) : Except String Unit :=
  let seen := ((splitLines text).filterMap structuralIdentity).dedup
  if seen.length < 5 then
    .error ("consensus has signatures from " ++ toString seen.length ++ " authorities, need at least 5")
  else .ok ()

/-- `ValidateSignatures`; `none` is the panic of `parseSignatureBlocks`. -/
def validateSignatures (text : Bytes) (certs : List (KeyCert Key)) : Option (Except String Unit) :=
  if certs.isEmpty then some (validateSignaturesStructural text) else
  let signedContentEnd := index text sigMarker
  if signedContentEnd < 0 then some (.error "no directory-signature found in consensus") else
  let signedContent := text.take (signedContentEnd + 21).toNat
  (parseSignatureBlocks text).map fun sigs =>
    let verified := (sigs.filterMap (verifiedIdentity lib certs signedContent)).dedup
    if verified.length < 5 then
      .error ("consensus has " ++ toString verified.length ++ " valid cryptographic signatures, need at least 5")
    else .ok ()

/-! ## Looking up a certificate -/

theorem find?_digest_of_nodup :
    ∀ {l : List (KeyCert Key)}, (l.map (·.signingKeyDigest)).Nodup → ∀ {c : KeyCert Key}, c ∈ l →
      l.find? (·.signingKeyDigest == c.signingKeyDigest) = some c
  | [], _, _, hc => absurd hc (List.not_mem_nil _)
  | a :: l, hn, c, hc => by
    rw [List.map_cons, List.nodup_cons] at hn
    rcases List.mem_cons.1 hc with rfl | hc
    · simp
    · have ha : a.signingKeyDigest ≠ c.signingKeyDigest := fun h => hn.1 (h ▸ List.mem_map_of_mem _ hc)
      simp only [List.find?_cons, beq_eq_false_iff_ne.2 ha, find?_digest_of_nodup hn.2 hc]

/-- With distinct digests, `certByDigest` finds every certificate by its own. -/
theorem certByDigest_of_nodup {certs : List (KeyCert Key)} (hn : (certs.map (·.signingKeyDigest)).Nodup)
    {c : KeyCert Key} (hc : c ∈ certs) : certByDigest certs c.signingKeyDigest = some c :=
  find?_digest_of_nodup (by rw [List.map_reverse]; exact List.nodup_reverse.2 hn) (List.mem_reverse.2 hc)

/-! ## What acceptance implies -/

theorem certByDigest_mem {certs : List (KeyCert Key)} {d : Bytes} {cert : KeyCert Key}
    (h : certByDigest certs d = some cert) : cert ∈ certs :=
  List.mem_reverse.1 (List.mem_of_find?_eq_some h)

/-- A verified identity is the block's own, a known authority, and named by
the certificate its digest finds, whose key verifies the block's signature
over the signed content under SHA-1 or SHA-256. -/
theorem verifiedIdentity_eq_some {certs : List (KeyCert Key)} {signedContent : Bytes} {sig : SignatureBlock}
    {fp : Bytes} (h : verifiedIdentity lib certs signedContent sig = some fp) :
    fp = sig.identity ∧ fp ∈ dirAuthorityFingerprints ∧ ∃ cert ∈ certs, cert.identityFingerprint = fp ∧
      ∃ hash, (hash = lib.sha1 ∨ hash = lib.sha256) ∧
        lib.verifyPKCS1v15 cert.signingKey (hash signedContent) sig.signature = true := by
  unfold verifiedIdentity at h
  generalize hh : (if sig.algorithm = ascii "sha1" ∨ sig.algorithm = [] then some lib.sha1
    else if sig.algorithm = ascii "sha256" then some lib.sha256 else none) = chosen at h
  split_ifs at h with hk
  split at h
  · cases h
  rename_i cert hc
  split_ifs at h with hi
  rcases chosen with _ | hash
  · cases h
  dsimp only at h
  split_ifs at h with hv
  cases h
  refine ⟨rfl, hk, cert, certByDigest_mem hc, not_not.1 hi, hash, ?_, hv⟩
  split_ifs at hh <;> cases hh
  exacts [.inl rfl, .inr rfl]

/-- **What `ValidateSignatures` checks.** Accepted against certificates, a
consensus holds signature blocks of at least five distinct authorities, each
of which verifies under the signing key of a certificate that names the
authority. Nothing more: how that key came to be in the certificate is not
checked here. -/
theorem validateSignatures_ok {text : Bytes} {certs : List (KeyCert Key)} (hc : certs ≠ [])
    (h : validateSignatures lib text certs = some (.ok ())) :
    ∃ sigs, parseSignatureBlocks text = some sigs ∧ ∃ ids : List Bytes, ids.Nodup ∧ 5 ≤ ids.length ∧
      ∀ fp ∈ ids, fp ∈ dirAuthorityFingerprints ∧ ∃ sig ∈ sigs, sig.identity = fp ∧ ∃ cert ∈ certs,
        cert.identityFingerprint = fp ∧ ∃ hash, (hash = lib.sha1 ∨ hash = lib.sha256) ∧
          lib.verifyPKCS1v15 cert.signingKey (hash (text.take (index text sigMarker + 21).toNat)) sig.signature =
            true := by
  have hne : certs.isEmpty = false := by cases certs <;> simp_all
  simp only [validateSignatures, hne, Bool.false_eq_true, if_false] at h
  by_cases hi : index text sigMarker < 0
  · rw [if_pos hi] at h
    cases h
  rw [if_neg hi] at h
  obtain ⟨sigs, hs, h⟩ := Option.map_eq_some'.1 h
  refine ⟨sigs, hs, (sigs.filterMap (verifiedIdentity lib certs (text.take (index text sigMarker + 21).toNat))).dedup,
    List.nodup_dedup _, ?_, fun fp hfp => ?_⟩
  · by_contra hlt
    rw [if_pos (by omega)] at h
    cases h
  · obtain ⟨sig, hsig, hv⟩ := List.mem_filterMap.1 (List.mem_dedup.1 hfp)
    obtain ⟨rfl, hk, cert, hcert, hci, hash, hhash, hver⟩ := verifiedIdentity_eq_some lib hv
    exact ⟨hk, sig, hsig, rfl, cert, hcert, hci, hash, hhash, hver⟩

/-! ## A consensus signed with the keys of bare certificates -/

/-- An authority's bare certificate with a signature made with its key over
`signed`: base64 text that decodes to signature bytes that verify. -/
structure Forgery (signed : Bytes) extends BareCert lib where
  b64 : Bytes
  signature : Bytes
  b64_line : Base64Line b64
  b64_decodes : stdDecodeString b64 = .ok signature
  verifies : lib.verifyPKCS1v15 key (lib.sha1 signed) signature = true

namespace Forgery

variable {lib} {signed : Bytes} (f : Forgery lib signed)

/-- The signing key digest the certificate is filed under. -/
def digest : Bytes := f.keyCert.signingKeyDigest

/-- `directory-signature <fingerprint> <digest>`. -/
def header : Bytes := ascii "directory-signature" ++ 32 :: (f.fingerprint ++ 32 :: f.digest)

/-- The signature block in the consensus. -/
def sigText : Bytes := joinLines [f.header, beginSignature, f.b64, endSignature]

/-- The block `parseSignatureBlocks` reads from `sigText`. -/
def sigBlock : SignatureBlock := ⟨ascii "sha1", f.fingerprint, f.digest, f.signature⟩

theorem digest_char {c : UInt8} (h : c ∈ f.digest) : isAsciiSpace c = false ∧ c ≠ 10 ∧ c ≠ 13 ∧
    ¬ (97 ≤ c ∧ c ≤ 122) := by
  have : ∀ c ∈ ascii "0123456789ABCDEF", isAsciiSpace c = false ∧ c ≠ 10 ∧ c ≠ 13 ∧
      ¬ (97 ≤ c ∧ c ≤ 122) := by decide
  exact this c (mem_toUpper_hexEncode h)

theorem digest_ne_nil : f.digest ≠ [] :=
  toUpper_ne_nil (hexEncode_ne_nil fun h => by simpa [h] using lib.sha1_length f.der)

theorem fields_header : fields f.header = [ascii "directory-signature", f.fingerprint, f.digest] := by
  have hfp := fun c (hc : c ∈ f.fingerprint) => fingerprint_char f.known hc
  rw [header, fields_word (by decide) (by decide), fields_word (fun h => absurd (h ▸ f.known) (by decide))
    (fun b hb => (hfp b hb).1), fields_of_word f.digest_ne_nil fun b hb => (f.digest_char hb).1]

theorem header_no_lf : 10 ∉ f.header ∧ 13 ∉ f.header := by
  have hfp := fun c (hc : c ∈ f.fingerprint) => fingerprint_char f.known hc
  have hd := fun c (hc : c ∈ f.digest) => f.digest_char hc
  simp only [header, List.mem_append, List.mem_cons, not_or]
  exact ⟨⟨by decide, by decide, fun h => (hfp _ h).2.1 rfl, by decide, fun h => (hd _ h).2.1 rfl⟩,
    ⟨by decide, by decide, fun h => (hfp _ h).2.2.1 rfl, by decide, fun h => (hd _ h).2.2.1 rfl⟩⟩

theorem signatureHeader_header :
    signatureHeader (fields f.header) = some ⟨ascii "sha1", f.fingerprint, f.digest, []⟩ := by
  rw [fields_header, signatureHeader, toUpper_of_forall fun b hb => (fingerprint_char f.known hb).2.2.2.2,
    toUpper_of_forall fun b hb => (f.digest_char hb).2.2.2]

theorem sigText_append (R : Bytes) :
    f.sigText ++ R = f.header ++ 10 :: (joinLines [beginSignature, f.b64] ++ (endSignature ++ 10 :: R)) := by
  simp [sigText, joinLines]

theorem stripBase64_b64 : stripBase64 (10 :: (f.b64 ++ [10])) = f.b64 := by
  have h : ∀ c ∈ f.b64, (¬c = 10 ∧ ¬c = 13) ∧ ¬c = 32 := fun c hc =>
    have hc := base64_char (f.b64_line c hc)
    ⟨⟨hc.2.1, hc.2.2.1⟩, fun h => absurd (h ▸ hc.1) (by decide)⟩
  simpa [stripBase64, List.filter_append] using h

theorem index_beginSignature (E : Bytes) : index (joinLines [beginSignature, f.b64] ++ E) beginSignature = 0 :=
  index_eq_zero_of_isPrefixOf ⟨10 :: (f.b64 ++ [10]) ++ E, by simp [joinLines]⟩

/-- `-----END SIGNATURE-----` is found after the base64 line. -/
theorem index_endSignature (R : Bytes) :
    index (joinLines [beginSignature, f.b64] ++ (endSignature ++ R)) endSignature =
      (joinLines [beginSignature, f.b64]).length := by
  have hnot : ¬ endSignature <:+: joinLines [beginSignature, f.b64] :=
    not_infix_joinLines (by decide) (by decide) fun l hl => by
      rcases List.mem_pair.1 hl with rfl | rfl
      · decide
      · exact fun h => (base64_char (f.b64_line 45 (h.subset (by decide)))).2.2.2 rfl
  rw [index_append_of_last hnot (getLast?_joinLines (List.cons_ne_nil _ _)) (by decide)
      (index_nonneg_of_isPrefixOf (List.prefix_append _ R)),
    index_eq_zero_of_isPrefixOf (List.prefix_append _ R), Int.add_zero]

/-- The base64 slice: the line between the armour lines, with its line feeds. -/
theorem slice_b64 (E : Bytes) :
    (sliceUpTo (joinLines [beginSignature, f.b64] ++ E) (joinLines [beginSignature, f.b64]).length).bind
      (sliceFrom · (0 + 25)) = some (10 :: (f.b64 ++ [10])) := by
  rw [sliceUpTo_append rfl, Option.some_bind,
    show joinLines [beginSignature, f.b64] = beginSignature ++ 10 :: (f.b64 ++ [10]) by simp [joinLines],
    sliceFrom_append (x := beginSignature) (by decide)]

/-- A signature block after a line feed starts with `sigMarker`. -/
theorem sigMarker_prefix (R : Bytes) : sigMarker <+: 10 :: (f.sigText ++ R) := by
  have h : sigMarker = 10 :: (ascii "directory-signature" ++ [32]) := by decide
  rw [f.sigText_append, header, h]
  exact ⟨f.fingerprint ++ 32 :: (f.digest ++ 10 :: (joinLines [beginSignature, f.b64] ++
    (endSignature ++ 10 :: R))), by simp⟩

/-- One signature block after text `x` with no `sigMarker`: it is read, and
the loop goes on from its `-----END SIGNATURE-----` line. -/
theorem parseSignatureBlocks_sigText {x : Bytes} (hx : ¬ sigMarker <:+: x) (R : Bytes) :
    parseSignatureBlocks (x ++ 10 :: (f.sigText ++ R)) =
      (parseSignatureBlocks (endSignature ++ 10 :: R)).map (f.sigBlock :: ·) := by
  have hm := f.sigMarker_prefix R
  have hidx : index (x ++ 10 :: (f.sigText ++ R)) sigMarker = x.length := by
    rw [index_append_of_head (y := 10 :: (f.sigText ++ R)) (c := 10) hx rfl (by decide)
        (index_nonneg_of_isPrefixOf hm),
      index_eq_zero_of_isPrefixOf hm, Int.add_zero]
  rw [parseSignatureBlocks, dif_neg (by rw [hidx]; omega)]
  dsimp only
  rw [hidx, drop_line, f.sigText_append, index_line f.header_no_lf.1, if_neg (by omega), take_line,
    trimRight_cr f.header_no_lf.2, f.signatureHeader_header]
  dsimp only
  rw [drop_line, f.index_beginSignature, if_neg (by decide), f.index_endSignature, if_neg (by omega),
    f.slice_b64]
  dsimp only
  rw [f.stripBase64_b64, f.b64_decodes]
  dsimp only
  rw [Int.toNat_ofNat, List.drop_left]
  rfl

/-- With distinct digests, each block verifies against its own certificate. -/
theorem verifiedIdentity_sigBlock {fs : List (Forgery lib signed)} (hdig : (fs.map Forgery.digest).Nodup)
    (hf : f ∈ fs) :
    verifiedIdentity lib (fs.map (·.keyCert)) signed f.sigBlock = some f.fingerprint := by
  have hc : certByDigest (fs.map (·.keyCert)) f.digest = some f.keyCert :=
    certByDigest_of_nodup (by rw [List.map_map]; exact hdig) (List.mem_map_of_mem _ hf)
  simp only [verifiedIdentity, sigBlock, not_not.2 f.known, if_false, hc]
  rw [if_neg fun h => h rfl, if_pos (.inl trivial)]
  exact if_pos f.verifies

end Forgery

/-- After the last signature block nothing more is read. -/
theorem parseSignatureBlocks_endSignature {signed : Bytes} (fs : List (Forgery lib signed)) :
    parseSignatureBlocks (endSignature ++ 10 :: (fs.map Forgery.sigText).flatten) =
      some (fs.map Forgery.sigBlock) := by
  induction fs with
  | nil =>
    have h : ¬ sigMarker <:+: endSignature ++ [10] := fun h =>
      absurd (h.subset (by decide : 121 ∈ sigMarker)) (by decide)
    rw [List.map_nil, List.flatten_nil, parseSignatureBlocks, dif_pos ((index_neg_iff _ _).2 h)]
    rfl
  | cons f fs ih =>
    rw [List.map_cons, List.flatten_cons, f.parseSignatureBlocks_sigText (by decide), ih]
    rfl

/-- A body with no `sigMarker`, then signature blocks: the blocks are read. -/
theorem parseSignatureBlocks_forgeries {signed body : Bytes} (hbody : ¬ sigMarker <:+: body)
    {fs : List (Forgery lib signed)} (hfs : fs ≠ []) :
    parseSignatureBlocks (body ++ 10 :: (fs.map Forgery.sigText).flatten) = some (fs.map Forgery.sigBlock) := by
  obtain ⟨f, fs, rfl⟩ := List.exists_cons_of_ne_nil hfs
  rw [List.map_cons, List.flatten_cons, f.parseSignatureBlocks_sigText hbody, parseSignatureBlocks_endSignature]
  rfl

/-- The content the signatures are checked over is the body and `sigMarker`. -/
theorem signedContent_forgeries {signed body : Bytes} (hbody : ¬ sigMarker <:+: body)
    {fs : List (Forgery lib signed)} (hfs : fs ≠ []) :
    index (body ++ 10 :: (fs.map Forgery.sigText).flatten) sigMarker = body.length ∧
      (body ++ 10 :: (fs.map Forgery.sigText).flatten).take (body.length + 21 : Int).toNat = body ++ sigMarker := by
  obtain ⟨f, fs, rfl⟩ := List.exists_cons_of_ne_nil hfs
  obtain ⟨t, ht⟩ : sigMarker <+: 10 :: ((f :: fs).map Forgery.sigText).flatten := by
    rw [List.map_cons, List.flatten_cons]
    exact f.sigMarker_prefix _
  refine ⟨?_, ?_⟩
  · rw [index_append_of_head (y := 10 :: _) (c := 10) hbody rfl (by decide)
        (index_nonneg_of_isPrefixOf ⟨t, ht⟩), index_eq_zero_of_isPrefixOf ⟨t, ht⟩, Int.add_zero]
  · rw [← ht, ← List.append_assoc, show ((body.length : Int) + 21).toNat = (body ++ sigMarker).length by
      rw [List.length_append, show sigMarker.length = 21 from rfl]; omega, List.take_left]

/-- A consensus signed, with distinct keys, by the certificates' keys for five
distinct authorities is valid. -/
theorem validateSignatures_forgeries (body : Bytes) (fs : List (Forgery lib (body ++ sigMarker)))
    (hn : 5 ≤ fs.length) (hid : (fs.map (·.fingerprint)).Nodup) (hdig : (fs.map Forgery.digest).Nodup)
    (hbody : ¬ sigMarker <:+: body) :
    validateSignatures lib (body ++ 10 :: (fs.map Forgery.sigText).flatten) (fs.map (·.keyCert)) = some (.ok ()) := by
  have hfs : fs ≠ [] := by rintro rfl; simp at hn
  obtain ⟨hidx, htake⟩ := signedContent_forgeries lib hbody hfs
  have hv : (fs.map Forgery.sigBlock).filterMap (verifiedIdentity lib (fs.map (·.keyCert)) (body ++ sigMarker)) =
      fs.map (·.fingerprint) := by
    rw [List.filterMap_map]
    calc _ = fs.filterMap (some ∘ (·.fingerprint)) :=
          List.filterMap_congr fun f hf => f.verifiedIdentity_sigBlock hdig hf
      _ = _ := congrFun (List.filterMap_eq_map _) fs
  have hne : (fs.map (·.keyCert)).isEmpty = false := by cases fs <;> simp_all
  simp only [validateSignatures, hne, Bool.false_eq_true, if_false]
  rw [hidx, if_neg (by omega), htake, parseSignatureBlocks_forgeries lib hbody hfs]
  simp only [Option.map_some', hv, hid.dedup, List.length_map]
  rw [if_neg (by omega)]

/-- The key certificates of the forgeries, laid end to end. -/
def certsText {signed : Bytes} (fs : List (Forgery lib signed)) : Bytes :=
  ((fs.map (·.toBareCert)).map BareCert.text).flatten

/-- Key certificates that name five authorities and signing keys of anybody's
choosing, with no identity key and no certification, are all kept, and any
consensus those keys sign is valid. -/
theorem validateSignatures_accepts_uncertified_keys (body : Bytes) (fs : List (Forgery lib (body ++ sigMarker)))
    (hn : 5 ≤ fs.length) (hid : (fs.map (·.fingerprint)).Nodup) (hdig : (fs.map Forgery.digest).Nodup)
    (hbody : ¬ sigMarker <:+: body) (now : Int) :
    ¬ ascii "dir-identity-key" <:+: certsText lib fs ∧ ¬ ascii "dir-key-certification" <:+: certsText lib fs ∧
      parseKeyCerts lib (certsText lib fs) now ≠ [] ∧
      validateSignatures lib (body ++ 10 :: (fs.map Forgery.sigText).flatten) (parseKeyCerts lib (certsText lib fs) now) =
        some (.ok ()) := by
  have hp : parseKeyCerts lib (certsText lib fs) now = fs.map (·.keyCert) := by
    rw [certsText, parseKeyCerts_bareCerts, List.map_map]
    rfl
  refine ⟨(bareCerts_uncertified _).1, (bareCerts_uncertified _).2, ?_, ?_⟩
  · rw [hp, Ne, List.map_eq_nil_iff]
    rintro rfl
    simp at hn
  · rw [hp]
    exact validateSignatures_forgeries lib body fs hn hid hdig hbody

/-- A library in which a PEM block decodes to what follows its first line,
SHA-1 keeps 20 bytes, and every RSA signature verifies. -/
def exampleLib : DirLib Bytes where
  sha1 b := (b ++ List.replicate 20 0).take 20
  sha1_length b := by simp
  sha256 b := b
  pemDecode p := some (p.drop 31)
  parsePKCS1PublicKey der := .ok der
  verifyPKCS1v15 _ _ _ := true
  parseTime _ := none

/-- The body of a one-line consensus. -/
def exampleBody : Bytes := ascii "network-status-version 3 microdesc"

/-- A forgery for authority `fp` over that body: a key PEM with the one
base64 line `line`, and an empty signature. -/
def exampleForgery (fp line : Bytes) (hfp : fp ∈ dirAuthorityFingerprints) (hl : Base64Line line) :
    Forgery exampleLib (exampleBody ++ sigMarker) where
  fingerprint := fp
  body := [line]
  der := (joinLines (rsaKeyLines [line])).drop 31
  key := (joinLines (rsaKeyLines [line])).drop 31
  known := hfp
  base64 := by simpa using hl
  decodes := rfl
  parses := rfl
  b64 := []
  signature := []
  b64_line := fun _ h => absurd h (List.not_mem_nil _)
  b64_decodes := rfl
  verifies := rfl

/-- Forgeries for moria1, tor26, dizum, Faravahar and longclaw. -/
def exampleForgeries : List (Forgery exampleLib (exampleBody ++ sigMarker)) :=
  [exampleForgery (ascii "F533C81CEF0BC0267857C99B2F471ADF249FA232") (ascii "QQ==") (by decide) (by decide),
   exampleForgery (ascii "2F3DF9CA0E5D36F2685A2DA67184EB8DCB8CBA8C") (ascii "Qg==") (by decide) (by decide),
   exampleForgery (ascii "E8A9C45EDE6D711294FADF8E7951F4DE6CA56B58") (ascii "Qw==") (by decide) (by decide),
   exampleForgery (ascii "70849B868D606BAECFB6128C5E3D782029AA394F") (ascii "RA==") (by decide) (by decide),
   exampleForgery (ascii "23D15D965BC35114467363C165C4F724B64B4F66") (ascii "RQ==") (by decide) (by decide)]

theorem sigMarker_not_infix_exampleBody : ¬ sigMarker <:+: exampleBody :=
  fun h => absurd (h.subset (by decide : 10 ∈ sigMarker)) (by decide)

theorem five_bare_certs_validate :
    5 ≤ exampleForgeries.length ∧ (exampleForgeries.map (·.fingerprint)).Nodup ∧
      (exampleForgeries.map Forgery.digest).Nodup ∧ ¬ sigMarker <:+: exampleBody ∧
      (¬ ascii "dir-identity-key" <:+: certsText exampleLib exampleForgeries ∧
        ¬ ascii "dir-key-certification" <:+: certsText exampleLib exampleForgeries ∧
        parseKeyCerts exampleLib (certsText exampleLib exampleForgeries) 0 ≠ [] ∧
        validateSignatures exampleLib (exampleBody ++ 10 :: (exampleForgeries.map Forgery.sigText).flatten)
          (parseKeyCerts exampleLib (certsText exampleLib exampleForgeries) 0) = some (.ok ())) :=
  ⟨by decide, by decide, by decide, sigMarker_not_infix_exampleBody,
    validateSignatures_accepts_uncertified_keys exampleLib exampleBody exampleForgeries (by decide) (by decide)
      (by decide) sigMarker_not_infix_exampleBody 0⟩

/-- The example consensus, accepted against its own certificates, read back
through what acceptance guarantees. -/
theorem example_acceptance_guarantees :
    exampleForgeries.map (·.keyCert) ≠ [] ∧
      validateSignatures exampleLib (exampleBody ++ 10 :: (exampleForgeries.map Forgery.sigText).flatten)
        (exampleForgeries.map (·.keyCert)) = some (.ok ()) ∧
      ∃ sigs, parseSignatureBlocks (exampleBody ++ 10 :: (exampleForgeries.map Forgery.sigText).flatten) = some sigs ∧
        ∃ ids : List Bytes, ids.Nodup ∧ 5 ≤ ids.length ∧ ∀ fp ∈ ids, fp ∈ dirAuthorityFingerprints ∧
          ∃ sig ∈ sigs, sig.identity = fp ∧ ∃ cert ∈ exampleForgeries.map (·.keyCert),
            cert.identityFingerprint = fp ∧ ∃ hash, (hash = exampleLib.sha1 ∨ hash = exampleLib.sha256) ∧
              exampleLib.verifyPKCS1v15 cert.signingKey (hash ((exampleBody ++ 10 ::
                (exampleForgeries.map Forgery.sigText).flatten).take
                  (index (exampleBody ++ 10 :: (exampleForgeries.map Forgery.sigText).flatten) sigMarker + 21).toNat))
                sig.signature = true :=
  have hc : exampleForgeries.map (·.keyCert) ≠ [] := List.cons_ne_nil _ _
  have h := validateSignatures_forgeries exampleLib exampleBody exampleForgeries (by decide) (by decide) (by decide)
    sigMarker_not_infix_exampleBody
  ⟨hc, h, validateSignatures_ok exampleLib hc h⟩

end TorGo.L5
