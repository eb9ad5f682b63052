import TorGo.L2Crypto.Ntor

/-!
# The hs-ntor handshake, INTRODUCE1 and RENDEZVOUS2 (`onion` package)

The client side of the onion-service handshake: `HsNtorClientHandshake`
derives ENC_KEY and MAC_KEY for the INTRODUCE1 cell, `BuildINTRODUCE1`
builds that cell, `HsNtorClientCompleteHandshake` checks RENDEZVOUS2's AUTH
and returns NTOR_KEY_SEED, and `CompleteRendezvous` expands it into the keys
of the virtual hop. SHA3-256, SHAKE-256 (as the stream of bytes it yields)
and AES-256-CTR (as the keystream of a key and an IV) are parameters
(`HsPrims`); Curve25519 is the one of the ntor handshake. The key length
checks of `aes.NewCipher` never fail on the 32-byte keys the code passes.

The onion service is modelled from the protocol: it splits an INTRODUCE1
payload as `H || X || ENC || MAC`, derives the two keys from `b·X`, checks
the MAC and decrypts ENC (`serviceIntroduce`), then answers RENDEZVOUS2 with
`Y || AUTH` (`serviceRendezvous`); it rejects an all-zero product, as both
parties must.

Results:
* `buildINTRODUCE1_ok_iff`: `BuildINTRODUCE1` succeeds exactly when `x·B` is
  not all zero;
* `introduce_rendezvous_agree`: under the Diffie-Hellman law the service
  finds the MAC valid and decrypts the padded plaintext, and
  `CompleteRendezvous` on the service's answer returns the service's keys,
  while any other 32-byte AUTH is rejected;
* `ephemeral_key_kept_on_failed_completion`: the ephemeral key `x` that
  `BuildINTRODUCE1` put in the state is zeroed by `CompleteRendezvous` only
  when it succeeds; every failing completion leaves `x` in the state
  (`hsNtorClientCompleteHandshakeSt` and `completeRendezvousSt` model the
  write to `*state`).
-/
namespace TorGo.L5

open TorGo.L1 TorGo.L2

/-- The primitives of the onion-service handshake, with SHA3-256's output
length. -/
structure HsPrims extends Curve25519 where
  sha3_256 : Bytes → Bytes
  shake256 : Bytes → Nat → UInt8
  aes256CTR : Bytes → Bytes → Nat → UInt8
  sha3_256_length : ∀ m, (sha3_256 m).length = 32

def hsNtorProtoid : Bytes := ascii "tor-hs-ntor-curve25519-sha3-256-1"
def tHsenc : Bytes := hsNtorProtoid ++ ascii ":hs_key_extract"
def tHsverify : Bytes := hsNtorProtoid ++ ascii ":hs_verify"
def tHsmac : Bytes := hsNtorProtoid ++ ascii ":hs_mac"
def mHsexpand : Bytes := hsNtorProtoid ++ ascii ":hs_key_expand"

/-- `hsMAC(key, message) = SHA3-256(u64be(len(key)) || key || message)`. -/
def hsMAC (P : HsPrims) (key message : Bytes) : Bytes :=
  P.sha3_256 (putUint64 (UInt64.ofNat key.length) ++ key ++ message)

@[simp] theorem hsMAC_length (P : HsPrims) (key message : Bytes) : (hsMAC P key message).length = 32 :=
  P.sha3_256_length _

/-- `HsNtorClientState`. -/
structure HsNtorClientState where
  X : Bytes
  x : Bytes
  B : Bytes
  authKey : Bytes
  subcred : Bytes

/-- `RendezvousKeys`. -/
structure RendezvousKeys where
  df : Bytes
  db : Bytes
  kf : Bytes
  kb : Bytes
  deriving DecidableEq, Repr

/-- `buildIntroSecretInput`: `EXP(B,x) || AUTH_KEY || X || B || PROTOID`. -/
def buildIntroSecretInput (expBx authKey X B : Bytes) : Bytes := expBx ++ authKey ++ X ++ B ++ hsNtorProtoid

/-- `buildRendSecretInput`: `EXP(Y,x) || EXP(B,x) || AUTH_KEY || B || X || Y || PROTOID`. -/
def buildRendSecretInput (expYx expBx authKey B X Y : Bytes) : Bytes :=
  expYx ++ expBx ++ authKey ++ B ++ X ++ Y ++ hsNtorProtoid

/-- The 64 bytes of `SHAKE-256(intro_secret || t_hsenc || m_hsexpand || N)`. -/
def introKeys (P : HsPrims) (expBx authKey X B subcredential : Bytes) : Bytes :=
  keyBytes (P.shake256 (buildIntroSecretInput expBx authKey X B ++ tHsenc ++ (mHsexpand ++ subcredential)))
    0 64

/-- `HsNtorClientHandshake(B, authKey, subcredential)`, where `x` is the 32
bytes `rand.Read` returns: the state, ENC_KEY and MAC_KEY. -/
def hsNtorClientHandshake (P : HsPrims) (B authKey subcredential x : Bytes) :
    Except String (HsNtorClientState × Bytes × Bytes) := do
  let X := P.x25519Base x
  let expBx ← (P.x25519 x B).mapError ("curve25519 DH: " ++ ·)
  if isZero expBx then throw "EXP(B,x) produced all-zeros point"
  let keys := introKeys P expBx authKey X B subcredential
  return (⟨X, x, B, authKey, subcredential⟩, slice keys 0 32, slice keys 32 64)

/-- `auth_input = verify || AUTH_KEY || B || Y || X || PROTOID || "Server"`. -/
def hsAuthInput (verify authKey B Y X : Bytes) : Bytes :=
  verify ++ authKey ++ B ++ Y ++ X ++ hsNtorProtoid ++ ascii "Server"

/-- `HsNtorClientCompleteHandshake(state, serverPK, auth)`: NTOR_KEY_SEED.
(On success the code also zeroes `state.x`, which nothing reads again.) -/
def hsNtorClientCompleteHandshake (P : HsPrims) (st : HsNtorClientState) (serverPK auth : Bytes) :
    Except String Bytes := do
  let expYx ← (P.x25519 st.x serverPK).mapError ("EXP(Y,x): " ++ ·)
  if isZero expYx then throw "EXP(Y,x) produced all-zeros point"
  let expBx ← (P.x25519 st.x st.B).mapError ("EXP(B,x): " ++ ·)
  if isZero expBx then throw "EXP(B,x) produced all-zeros point"
  let rendSecret := buildRendSecretInput expYx expBx st.authKey st.B st.X serverPK
  let ntorKeySeed := hsMAC P rendSecret tHsenc
  let verify := hsMAC P rendSecret tHsverify
  if hsMAC P (hsAuthInput verify st.authKey st.B serverPK st.X) tHsmac ≠ auth then
    throw "hs-ntor AUTH verification failed"
  return ntorKeySeed

/-- `HsNtorExpandKeys`: `SHAKE-256(NTOR_KEY_SEED || m_hsexpand)`, 128 bytes
split in four. -/
def hsNtorExpandKeys (P : HsPrims) (ntorKeySeed : Bytes) : RendezvousKeys :=
  let keys := keyBytes (P.shake256 (ntorKeySeed ++ mHsexpand)) 0 128
  ⟨slice keys 0 32, slice keys 32 64, slice keys 64 96, slice keys 96 128⟩

/-- The INTRODUCE1 plaintext before padding:
`RENDEZVOUS_COOKIE || N_EXTENSIONS || ONION_KEY_TYPE || ONION_KEY_LEN || ONION_KEY || link specifiers`. -/
def introPlaintext (rendCookie rendNodeOnionKey rendLinkSpecs : Bytes) : Bytes :=
  rendCookie ++ [0x00] ++ [0x01] ++ putUint16 32 ++ rendNodeOnionKey ++ rendLinkSpecs

/-- The INTRODUCE1 header `LEGACY_KEY_ID || AUTH_KEY_TYPE || AUTH_KEY_LEN || AUTH_KEY || N_EXTENSIONS`. -/
def introHeader (authKey : Bytes) : Bytes :=
  List.replicate 20 0 ++ [0x02] ++ putUint16 (UInt16.ofNat authKey.length) ++ authKey ++ [0x00]

/-- `BuildINTRODUCE1`, where `x` is the client's ephemeral key: the payload
`H || X || encrypted || MAC` and the client state. -/
def buildINTRODUCE1 (P : HsPrims) (authKey encKey subcredential rendCookie rendNodeOnionKey rendLinkSpecs
    x : Bytes) : Except String (Bytes × HsNtorClientState) := do
  let (state, encKeyDerived, macKeyDerived) ←
    (hsNtorClientHandshake P encKey authKey subcredential x).mapError ("hs-ntor handshake: " ++ ·)
  let body := introPlaintext rendCookie rendNodeOnionKey rendLinkSpecs
  let plaintext := if body.length < 246 then body ++ List.replicate (246 - body.length) 0 else body
  let encrypted := xorBytes plaintext (keyBytes (P.aes256CTR encKeyDerived (List.replicate 16 0)) 0
    plaintext.length)
  let header := introHeader authKey
  let mac := hsMAC P macKeyDerived (header ++ state.X ++ encrypted)
  return (header ++ state.X ++ encrypted ++ mac, state)

/-- `CompleteRendezvous(state, rendezvous2Body)`. -/
def completeRendezvous (P : HsPrims) (st : HsNtorClientState) (rendezvous2Body : Bytes) :
    Except String RendezvousKeys := do
  if rendezvous2Body.length < 64 then
    throw ("RENDEZVOUS2 body too short: " ++ toString rendezvous2Body.length ++ " bytes")
  let serverPK := slice rendezvous2Body 0 32
  let auth := slice rendezvous2Body 32 64
  let ntorKeySeed ← (hsNtorClientCompleteHandshake P st serverPK auth).mapError ("hs-ntor complete: " ++ ·)
  return hsNtorExpandKeys P ntorKeySeed

/-! ## The onion service -/

/-- An onion service with encryption key `b`, reading an INTRODUCE1 payload
sent through its introduction point with auth key `authKey`, written from
the protocol and not from the client's helpers: it splits the payload as
`H || X || ENC || MAC` (`|H| = 24 + |AUTH_KEY|`), computes `b·X` (rejected
when all zero), `intro_secret = b·X || AUTH_KEY || X || B || PROTOID` and
`ENC_KEY[32] || MAC_KEY[32] = SHAKE-256(intro_secret || PROTOID:hs_key_extract
|| PROTOID:hs_key_expand || N)`, checks `MAC = SHA3-256(u64be(|MAC_KEY|) ||
MAC_KEY || H || X || ENC)` and decrypts ENC. It returns `X` and the
plaintext. -/
def serviceIntroduce (P : HsPrims) (b authKey subcredential payload : Bytes) :
    Except String (Bytes × Bytes) := do
  let hLen := 24 + authKey.length
  let H := payload.take hLen
  let X := slice payload hLen (hLen + 32)
  let enc := slice payload (hLen + 32) (payload.length - 32)
  let mac := payload.drop (payload.length - 32)
  let protoid := ascii "tor-hs-ntor-curve25519-sha3-256-1"
  let bX ← P.x25519 b X
  let introSecret := bX ++ authKey ++ X ++ P.x25519Base b ++ protoid
  let keys := keyBytes (P.shake256 (introSecret ++ (protoid ++ ascii ":hs_key_extract") ++
    (protoid ++ ascii ":hs_key_expand") ++ subcredential)) 0 64
  let encKey := keys.take 32
  let macKey := keys.drop 32
  if P.sha3_256 (putUint64 (UInt64.ofNat macKey.length) ++ macKey ++ H ++ X ++ enc) ≠ mac then
    throw "INTRODUCE1 MAC mismatch"
  return (X, xorBytes enc (keyBytes (P.aes256CTR encKey (List.replicate 16 0)) 0 enc.length))

/-- The service's RENDEZVOUS2 for the client key `X`, with ephemeral key `y`,
written from the protocol: `rend_secret = y·X || b·X || AUTH_KEY || B || X ||
Y || PROTOID` (both products rejected when all zero), `NTOR_KEY_SEED` and
`verify` its MACs under `PROTOID:hs_key_extract` and `PROTOID:hs_verify`,
`AUTH = MAC(verify || AUTH_KEY || B || Y || X || PROTOID || "Server",
PROTOID:hs_mac)`, where `MAC(k, m) = SHA3-256(u64be(|k|) || k || m)`; it
answers `Y || AUTH` and splits 128 bytes of `SHAKE-256(NTOR_KEY_SEED ||
PROTOID:hs_key_expand)` into `Df || Db || Kf || Kb`. -/
def serviceRendezvous (P : HsPrims) (b y authKey X : Bytes) : Except String (Bytes × RendezvousKeys) := do
  let protoid := ascii "tor-hs-ntor-curve25519-sha3-256-1"
  let mac := fun k m => P.sha3_256 (putUint64 (UInt64.ofNat k.length) ++ k ++ m)
  let B := P.x25519Base b
  let Y := P.x25519Base y
  let yX ← P.x25519 y X
  let bX ← P.x25519 b X
  let rendSecret := yX ++ bX ++ authKey ++ B ++ X ++ Y ++ protoid
  let seed := mac rendSecret (protoid ++ ascii ":hs_key_extract")
  let verify := mac rendSecret (protoid ++ ascii ":hs_verify")
  let auth := mac (verify ++ authKey ++ B ++ Y ++ X ++ protoid ++ ascii "Server") (protoid ++ ascii ":hs_mac")
  let K := keyBytes (P.shake256 (seed ++ (protoid ++ ascii ":hs_key_expand"))) 0 128
  return (Y ++ auth, ⟨K.take 32, (K.drop 32).take 32, (K.drop 64).take 32, (K.drop 96).take 32⟩)

/-! ## The client's computations -/

variable (P : HsPrims)

theorem hsNtorClientHandshake_eq (B authKey subcredential x : Bytes) :
    hsNtorClientHandshake P B authKey subcredential x =
      let keys := introKeys P (P.scalarMult x B) authKey (P.x25519Base x) B subcredential
      if isZero (P.scalarMult x B) then .error "curve25519 DH: bad input point: low order point"
      else .ok (⟨P.x25519Base x, x, B, authKey, subcredential⟩, slice keys 0 32, slice keys 32 64) := by
  unfold hsNtorClientHandshake Curve25519.x25519
  by_cases h : isZero (P.scalarMult x B) <;> simp [h]

/-- `HsNtorClientCompleteHandshake` without its unreachable all-zero checks. -/
theorem hsNtorClientCompleteHandshake_eq (st : HsNtorClientState) (serverPK auth : Bytes) :
    hsNtorClientCompleteHandshake P st serverPK auth =
      let rendSecret := buildRendSecretInput (P.scalarMult st.x serverPK) (P.scalarMult st.x st.B)
        st.authKey st.B st.X serverPK
      if isZero (P.scalarMult st.x serverPK) then .error "EXP(Y,x): bad input point: low order point"
      else if isZero (P.scalarMult st.x st.B) then .error "EXP(B,x): bad input point: low order point"
      else if hsMAC P (hsAuthInput (hsMAC P rendSecret tHsverify) st.authKey st.B serverPK st.X) tHsmac ≠ auth
      then .error "hs-ntor AUTH verification failed"
      else .ok (hsMAC P rendSecret tHsenc) := by
  simp only [hsNtorClientCompleteHandshake, Curve25519.x25519]
  by_cases h1 : isZero (P.scalarMult st.x serverPK)
  · simp [h1]
  by_cases h2 : isZero (P.scalarMult st.x st.B)
  · simp [h1, h2]
  simp only [h1, h2, if_false, Bool.false_eq_true, except_ok_bind, except_mapError_ok]
  split <;> rfl

/-- Padding to 246 bytes appends `246 - len` zeros, none when the body is
already that long. -/
theorem pad_eq (body : Bytes) :
    (if body.length < 246 then body ++ List.replicate (246 - body.length) 0 else body) =
      body ++ List.replicate (246 - body.length) 0 := by
  split
  · rfl
  · rw [Nat.sub_eq_zero_of_le (by omega), List.replicate_zero, List.append_nil]

theorem buildINTRODUCE1_ok_iff (authKey encKey subcredential rendCookie rendNodeOnionKey rendLinkSpecs
    x : Bytes) :
    (∃ r, buildINTRODUCE1 P authKey encKey subcredential rendCookie rendNodeOnionKey rendLinkSpecs x = .ok r) ↔
      isZero (P.scalarMult x encKey) = false := by
  unfold buildINTRODUCE1
  rw [hsNtorClientHandshake_eq]
  by_cases h : isZero (P.scalarMult x encKey) <;> simp [h]

/-- What `BuildINTRODUCE1` returns: the state of the handshake and
`H || X || ENC || MAC`, where ENC is the padded plaintext under ENC_KEY and
MAC is keyed by MAC_KEY. -/
theorem buildINTRODUCE1_eq_ok {authKey encKey subcredential rendCookie rendNodeOnionKey rendLinkSpecs
    x payload : Bytes} {st : HsNtorClientState}
    (h : buildINTRODUCE1 P authKey encKey subcredential rendCookie rendNodeOnionKey rendLinkSpecs x =
      .ok (payload, st)) :
    let keys := introKeys P (P.scalarMult x encKey) authKey (P.x25519Base x) encKey subcredential
    let body := introPlaintext rendCookie rendNodeOnionKey rendLinkSpecs
    let plaintext := body ++ List.replicate (246 - body.length) 0
    let encrypted := xorBytes plaintext (keyBytes (P.aes256CTR (slice keys 0 32) (List.replicate 16 0)) 0
      plaintext.length)
    isZero (P.scalarMult x encKey) = false ∧ st = ⟨P.x25519Base x, x, encKey, authKey, subcredential⟩ ∧
      payload = introHeader authKey ++ P.x25519Base x ++ encrypted ++
        hsMAC P (slice keys 32 64) (introHeader authKey ++ P.x25519Base x ++ encrypted) := by
  unfold buildINTRODUCE1 at h
  rw [hsNtorClientHandshake_eq] at h
  by_cases hz : isZero (P.scalarMult x encKey)
  · simp [hz] at h
  · simp only [hz, if_false, Bool.false_eq_true, except_mapError_ok, except_ok_bind, pad_eq] at h
    cases h
    exact ⟨by simpa using hz, rfl, rfl⟩

@[simp] theorem introHeader_length (authKey : Bytes) : (introHeader authKey).length = 24 + authKey.length := by
  simp [introHeader]; omega

/-- `CompleteRendezvous` on `Y || AUTH` runs the handshake on the two halves. -/
theorem completeRendezvous_append (st : HsNtorClientState) {Y auth : Bytes} (hY : Y.length = 32)
    (ha : auth.length = 32) :
    completeRendezvous P st (Y ++ auth) =
      ((hsNtorClientCompleteHandshake P st Y auth).mapError ("hs-ntor complete: " ++ ·)).map
        (hsNtorExpandKeys P) := by
  have h64 : ¬ (Y ++ auth).length < 64 := by simp [hY, ha]
  have h2 : slice (Y ++ auth) 32 64 = auth := slice_append_second _ _ hY ha
  simp only [completeRendezvous, h64, if_false, pure_bind, slice_append_first _ _ hY, h2]
  cases hsNtorClientCompleteHandshake P st Y auth <;> rfl

/-! ## The service's view -/

/-- The service's split of `H || X || ENC || MAC` gives back the four parts. -/
theorem split_introduce1 (H X enc mac : Bytes) (hX : X.length = 32) (hm : mac.length = 32) :
    let p := H ++ X ++ enc ++ mac
    p.take H.length = H ∧ slice p H.length (H.length + 32) = X ∧
      slice p (H.length + 32) (p.length - 32) = enc ∧ p.drop (p.length - 32) = mac := by
  refine ⟨by simp, ?_, ?_, ?_⟩
  · rw [List.append_assoc, List.append_assoc, slice_append_right _ _ _ _ (Nat.le_refl _)]
    simp only [Nat.sub_self, Nat.add_sub_cancel_left]
    exact slice_append_first _ _ hX
  · rw [List.append_assoc, slice_append_right _ _ _ _ (by simp [hX])]
    simp only [List.length_append, hX, hm, Nat.sub_self]
    exact slice_append_first _ _ (by omega)
  · simp only [List.length_append, hm, Nat.add_sub_cancel]
    exact List.drop_left' (by simp [Nat.add_assoc])

/-- The service's `SHAKE-256` input is the client's, so are its two keys. -/
theorem serviceKeys_eq (bX authKey X B subcredential : Bytes) :
    keyBytes (P.shake256 (bX ++ authKey ++ X ++ B ++ ascii "tor-hs-ntor-curve25519-sha3-256-1" ++
      (ascii "tor-hs-ntor-curve25519-sha3-256-1" ++ ascii ":hs_key_extract") ++
      (ascii "tor-hs-ntor-curve25519-sha3-256-1" ++ ascii ":hs_key_expand") ++ subcredential)) 0 64 =
      introKeys P bX authKey X B subcredential := by
  simp only [introKeys, buildIntroSecretInput, tHsenc, mHsexpand, hsNtorProtoid, List.append_assoc]

theorem slice_introKeys_enc (expBx authKey X B subcredential : Bytes) :
    slice (introKeys P expBx authKey X B subcredential) 0 32 = (introKeys P expBx authKey X B subcredential).take 32 := by
  simp [slice]

theorem slice_introKeys_mac (expBx authKey X B subcredential : Bytes) :
    slice (introKeys P expBx authKey X B subcredential) 32 64 = (introKeys P expBx authKey X B subcredential).drop 32 :=
  List.take_of_length_le (by simp [introKeys])

/-- The service reading `H || X || ENC || MAC` works on the four parts. -/
theorem serviceIntroduce_split (b authKey subcredential H X enc mac : Bytes)
    (hH : H.length = 24 + authKey.length) (hX : X.length = 32) (hm : mac.length = 32) :
    serviceIntroduce P b authKey subcredential (H ++ X ++ enc ++ mac) = do
      let expXb ← P.x25519 b X
      let keys := introKeys P expXb authKey X (P.x25519Base b) subcredential
      if hsMAC P (slice keys 32 64) (H ++ X ++ enc) ≠ mac then throw "INTRODUCE1 MAC mismatch"
      return (X, xorBytes enc (keyBytes (P.aes256CTR (slice keys 0 32) (List.replicate 16 0)) 0 enc.length)) := by
  obtain ⟨h1, h2, h3, h4⟩ := split_introduce1 H X enc mac hX hm
  simp only [serviceIntroduce, ← hH, h1, h2, h3, h4, serviceKeys_eq]
  simp only [slice_introKeys_enc, slice_introKeys_mac, hsMAC, List.append_assoc]

/-- What the service answers: `y·X` and `b·X` are not all zero, the answer is
`Y || AUTH` and the keys are expanded from its NTOR_KEY_SEED. -/
theorem serviceRendezvous_eq_ok {b y authKey X resp : Bytes} {keys : RendezvousKeys}
    (h : serviceRendezvous P b y authKey X = .ok (resp, keys)) :
    let rendSecret := buildRendSecretInput (P.scalarMult y X) (P.scalarMult b X) authKey (P.x25519Base b) X
      (P.x25519Base y)
    isZero (P.scalarMult y X) = false ∧ isZero (P.scalarMult b X) = false ∧
      resp = P.x25519Base y ++ hsMAC P (hsAuthInput (hsMAC P rendSecret tHsverify) authKey (P.x25519Base b)
        (P.x25519Base y) X) tHsmac ∧
      keys = hsNtorExpandKeys P (hsMAC P rendSecret tHsenc) := by
  simp only [serviceRendezvous, except_bind_eq_ok, Curve25519.x25519_eq_ok] at h
  obtain ⟨_, ⟨hz1, rfl⟩, _, ⟨hz2, rfl⟩, h⟩ := h
  cases h
  exact ⟨hz1, hz2, rfl, rfl⟩

/-- **INTRODUCE1 and RENDEZVOUS2 agree with the onion service.** Under the
Diffie-Hellman law, for every service key `b`, auth key, subcredential,
cookie, rendezvous onion key and link specifiers and every `x` and `y`:
`BuildINTRODUCE1` succeeds exactly when `x·B` is not all zero; the service
then finds the MAC of the payload valid and decrypts ENC to the plaintext
padded with zeros to 246 bytes; and `CompleteRendezvous` on the service's
RENDEZVOUS2 returns the service's keys, while any other 32-byte AUTH is
rejected. -/
theorem introduce_rendezvous_agree (hdh : P.DHLaw) (b authKey subcredential rendCookie rendNodeOnionKey
    rendLinkSpecs x y : Bytes) :
    let B := P.x25519Base b
    let body := rendCookie ++ [0x00, 0x01] ++ putUint16 32 ++ rendNodeOnionKey ++ rendLinkSpecs
    ((∃ r, buildINTRODUCE1 P authKey B subcredential rendCookie rendNodeOnionKey rendLinkSpecs x = .ok r) ↔
        isZero (P.scalarMult x B) = false) ∧
    ∀ payload st, buildINTRODUCE1 P authKey B subcredential rendCookie rendNodeOnionKey rendLinkSpecs x =
        .ok (payload, st) →
      serviceIntroduce P b authKey subcredential payload =
          .ok (st.X, body ++ List.replicate (246 - body.length) 0) ∧
      ∀ resp keys, serviceRendezvous P b y authKey st.X = .ok (resp, keys) →
        completeRendezvous P st resp = .ok keys ∧
        ∀ auth : Bytes, auth.length = 32 → auth ≠ slice resp 32 64 →
          ∃ e, completeRendezvous P st (slice resp 0 32 ++ auth) = .error e := by
  refine ⟨buildINTRODUCE1_ok_iff P .., fun payload st h => ?_⟩
  obtain ⟨hz, rfl, rfl⟩ := buildINTRODUCE1_eq_ok P h
  have hxb := hdh x b
  refine ⟨?_, fun resp keys hr => ?_⟩
  · rw [serviceIntroduce_split P _ _ _ _ _ _ _ (introHeader_length _) (P.x25519Base_length x)
      (hsMAC_length ..)]
    simp [Curve25519.x25519, ← hxb, hz, introPlaintext, xorBytes_xorBytes]
  · obtain ⟨hz1, hz2, rfl, rfl⟩ := serviceRendezvous_eq_ok P hr
    dsimp only at hz1 hz2
    have hY := P.x25519Base_length y
    refine ⟨?_, fun auth ha hne => ?_⟩
    · rw [completeRendezvous_append P _ hY (hsMAC_length ..), hsNtorClientCompleteHandshake_eq]
      simp [hz1, hz2, hdh x y, hxb]
    · rw [slice_append_first _ _ hY, completeRendezvous_append P _ hY ha, hsNtorClientCompleteHandshake_eq]
      rw [(slice_append_second _ _ hY (hsMAC_length ..) : slice _ 32 64 = _)] at hne
      simp [hz1, hz2, hdh x y, hxb, Ne.symm hne]

/-- A small instance of the primitives, over the XOR "curve" of `xorNtor`. -/
def xorHs : HsPrims where
  toCurve25519 := xorNtor.toCurve25519
  sha3_256 m := List.replicate 32 (m.headD 0)
  shake256 m i := m.getD i 0
  aes256CTR k _ i := k.getD i 0
  sha3_256_length _ := List.length_replicate _ _

theorem introduce_rendezvous_agree_xor :
    xorHs.DHLaw ∧
      (∃ r, buildINTRODUCE1 xorHs [4] (xorHs.x25519Base [2]) [5] [6] [7] [] [1] = .ok r) ∧
      ((∃ r, buildINTRODUCE1 xorHs [4] (xorHs.x25519Base [2]) [5] [6] [7] [] [1] = .ok r) ↔
        isZero (xorHs.scalarMult [1] (xorHs.x25519Base [2])) = false) :=
  ⟨xorNtor_dhLaw, ⟨_, rfl⟩, (introduce_rendezvous_agree xorHs xorNtor_dhLaw [2] [4] [5] [6] [7] [] [1] [3]).1⟩

/-! ## What completion leaves of the ephemeral key -/

section Wipe

variable (P : HsPrims)

/-- `HsNtorClientCompleteHandshake` with its write to `*state`: the loop
`for i := range state.x { state.x[i] = 0 }` runs once AUTH has been
verified, just before the key seed is returned. -/
def hsNtorClientCompleteHandshakeSt (st : HsNtorClientState) (serverPK auth : Bytes) :
    Except String Bytes × HsNtorClientState :=
  match hsNtorClientCompleteHandshake P st serverPK auth with
  | .ok ntorKeySeed => (.ok ntorKeySeed, { st with x := List.replicate st.x.length 0 })
  | .error e => (.error e, st)

/-- `CompleteRendezvous(state, rendezvous2Body)` with what it leaves in
`*state`. -/
def completeRendezvousSt (st : HsNtorClientState) (rendezvous2Body : Bytes) :
    Except String RendezvousKeys × HsNtorClientState :=
  if rendezvous2Body.length < 64 then
    (.error ("RENDEZVOUS2 body too short: " ++ toString rendezvous2Body.length ++ " bytes"), st)
  else
    match hsNtorClientCompleteHandshakeSt P st (slice rendezvous2Body 0 32) (slice rendezvous2Body 32 64) with
    | (.error e, st) => (.error ("hs-ntor complete: " ++ e), st)
    | (.ok ntorKeySeed, st) => (.ok (hsNtorExpandKeys P ntorKeySeed), st)

/-- The result is `CompleteRendezvous`'s, and the state keeps its
ephemeral key unless that result is a success. -/
theorem completeRendezvousSt_eq (st : HsNtorClientState) (body : Bytes) :
    completeRendezvousSt P st body = (completeRendezvous P st body,
      if (completeRendezvous P st body).toBool then { st with x := List.replicate st.x.length 0 } else st) := by
  unfold completeRendezvousSt hsNtorClientCompleteHandshakeSt
  by_cases hl : body.length < 64
  · simp only [completeRendezvous, hl, if_true]
    rfl
  · simp only [completeRendezvous, hl, if_false, pure_bind]
    cases hsNtorClientCompleteHandshake P st (slice body 0 32) (slice body 32 64) <;> rfl

/-- **The ephemeral key outlives a failed completion.** For every state
that `BuildINTRODUCE1` creates from the ephemeral key `x` and every
RENDEZVOUS2 body, the state holds all zeros after `CompleteRendezvous`
only when the completion succeeded; on every failure (a body shorter than
64 bytes, an all-zero Diffie-Hellman output, an AUTH mismatch) it still
holds `x`. -/
theorem ephemeral_key_kept_on_failed_completion {authKey encKey subcredential rendCookie rendNodeOnionKey
    rendLinkSpecs x payload : Bytes} {st : HsNtorClientState}
    (hb : buildINTRODUCE1 P authKey encKey subcredential rendCookie rendNodeOnionKey rendLinkSpecs x =
      .ok (payload, st)) (body : Bytes) :
    (completeRendezvousSt P st body).2.x =
      if (completeRendezvous P st body).toBool then List.replicate x.length 0 else x := by
  obtain ⟨-, rfl, -⟩ := buildINTRODUCE1_eq_ok P hb
  rw [completeRendezvousSt_eq]
  split_ifs <;> rfl

end Wipe

/-- The INTRODUCE1 of `introduce_rendezvous_agree_xor`, answered by an
empty RENDEZVOUS2 body: the completion fails and the state keeps the
ephemeral key `[1]`. -/
theorem short_rendezvous2_keeps_key :
    ∃ payload st, buildINTRODUCE1 xorHs [4] (xorHs.x25519Base [2]) [5] [6] [7] [] [1] = .ok (payload, st) ∧
      (completeRendezvous xorHs st []).toBool = false ∧ (completeRendezvousSt xorHs st []).2.x = [1] := by
  obtain ⟨⟨payload, st⟩, h⟩ : ∃ r, buildINTRODUCE1 xorHs [4] (xorHs.x25519Base [2]) [5] [6] [7] [] [1] = .ok r :=
    ⟨_, rfl⟩
  have hf : (completeRendezvous xorHs st []).toBool = false := rfl
  refine ⟨payload, st, h, hf, ?_⟩
  rw [ephemeral_key_kept_on_failed_completion xorHs h [], hf]
  rfl

end TorGo.L5
