import TorGo.L1Encoding.Text

/-!
# The ntor handshake (`ntor/ntor.go`)

The client side of the ntor handshake that CREATE2 and EXTEND2 carry:
`NewHandshake`, `ClientData` and `Complete`. Curve25519, HMAC-SHA256 and
HKDF-SHA256 are parameters (`NtorPrims`), with the output lengths the code
relies on. x/crypto's `curve25519.X25519` is the scalar multiplication
followed by its rejection of an all-zero product (`Curve25519.x25519`),
except on `Basepoint`, which it does not check (`Curve25519.x25519Base`).
The HKDF reader is the stream of bytes it yields; `io.ReadFull` takes the
first of them.

The relay is modelled from the protocol (`relayRespond`): from its identity,
its onion key `b` and an ephemeral key `y` it answers the client data
`ID || B || X` with `Y || AUTH` and installs 72 bytes of key material,
rejecting an all-zero `y·X` or `b·X` as both parties must.

Results:
* `complete_ok_iff`: for every response, `Complete` succeeds exactly when
  `x·Y` and `x·B` are not all zero and the AUTH half is
  `HMAC-SHA256(t_mac, verify || ID || B || Y || X || PROTOID || "Server")`
  for the Y half;
* `ntor_client_agrees_with_relay`: under the Diffie-Hellman law, `Complete`
  on a relay's answer returns the key material the relay installed, and the
  acceptance condition above holds for every 64-byte response.
-/
namespace TorGo.L2

open TorGo.L1

/-- `isZero` (and `isAllZeros` of the onion package): the OR of the bytes is
zero, that is every byte is. -/
def isZero (b : Bytes) : Bool := b.all (· == 0)

/-- Curve25519 as `golang.org/x/crypto/curve25519` computes it: the product
of a 32-byte scalar and a 32-byte point, and the base point. Every product
is 32 bytes. -/
structure Curve25519 where
  scalarMult : Bytes → Bytes → Bytes
  basepoint : Bytes
  scalarMult_length : ∀ s p, (scalarMult s p).length = 32

namespace Curve25519

variable (C : Curve25519)

/-- `curve25519.X25519(scalar, point)` for a point other than `Basepoint`:
the product, or an error when it is all zero. Every call passes `[32]byte`
arguments, so the length checks of x/crypto never fail. -/
def x25519 (scalar point : Bytes) : Except String Bytes :=
  if isZero (C.scalarMult scalar point) then .error "bad input point: low order point"
  else .ok (C.scalarMult scalar point)

/-- `curve25519.X25519(scalar, curve25519.Basepoint)`, which is not checked. -/
def x25519Base (scalar : Bytes) : Bytes := C.scalarMult scalar C.basepoint

/-- The Diffie-Hellman law `x·(y·G) = y·(x·G)`. -/
def DHLaw : Prop := ∀ x y, C.scalarMult x (C.x25519Base y) = C.scalarMult y (C.x25519Base x)

variable {C}

theorem x25519_eq_ok {s p r : Bytes} :
    C.x25519 s p = .ok r ↔ isZero (C.scalarMult s p) = false ∧ C.scalarMult s p = r := by
  unfold x25519
  split <;> simp_all

@[simp] theorem x25519Base_length (s : Bytes) : (C.x25519Base s).length = 32 :=
  C.scalarMult_length _ _

end Curve25519

/-- The primitives of the ntor handshake: Curve25519, `HMAC-SHA256` keyed by
its first argument, and the HKDF-SHA256 reader of a secret, a salt and an
info string, as the stream of bytes it yields. -/
structure NtorPrims extends Curve25519 where
  hmacSHA256 : Bytes → Bytes → Bytes
  hkdfSHA256 : Bytes → Bytes → Bytes → Nat → UInt8
  hmacSHA256_length : ∀ k m, (hmacSHA256 k m).length = 32

/-! ## The client -/

def protoID : Bytes := ascii "ntor-curve25519-sha256-1"
def tKey : Bytes := protoID ++ ascii ":key_extract"
def tMac : Bytes := protoID ++ ascii ":mac"
def tVerify : Bytes := protoID ++ ascii ":verify"
def mExpand : Bytes := protoID ++ ascii ":key_expand"

/-- `ntorHMAC(msg, key)`: HMAC-SHA256 of `msg` keyed by `key`. -/
def ntorHMAC (P : NtorPrims) (msg key : Bytes) : Bytes := P.hmacSHA256 key msg

@[simp] theorem ntorHMAC_length (P : NtorPrims) (msg key : Bytes) : (ntorHMAC P msg key).length = 32 :=
  P.hmacSHA256_length _ _

/-- `KeyMaterial`. -/
structure KeyMaterial where
  df : Bytes
  db : Bytes
  kf : Bytes
  kb : Bytes
  deriving DecidableEq, Repr

/-- `HandshakeState`. -/
structure HandshakeState where
  nodeID : Bytes
  ntorKey : Bytes
  x : Bytes
  X : Bytes

/-- `NewHandshake`, where `x` is the 32 bytes `rand.Read` returns. -/
def newHandshake (P : NtorPrims) (nodeID ntorKey x : Bytes) : HandshakeState :=
  ⟨nodeID, ntorKey, x, P.x25519Base x⟩

/-- `ClientData`: `node_id || B || X`. -/
def HandshakeState.clientData (hs : HandshakeState) : Bytes := hs.nodeID ++ hs.ntorKey ++ hs.X

/-- `secret_input = exp1 || exp2 || ID || B || X || Y || PROTOID`. -/
def secretInput (exp1 exp2 nodeID B X Y : Bytes) : Bytes :=
  exp1 ++ exp2 ++ nodeID ++ B ++ X ++ Y ++ protoID

/-- `auth_input = verify || ID || B || Y || X || PROTOID || "Server"`, where
`verify` is `ntorHMAC(secret_input, tVerify)`. -/
def authInput (P : NtorPrims) (secret nodeID B X Y : Bytes) : Bytes :=
  ntorHMAC P secret tVerify ++ nodeID ++ B ++ Y ++ X ++ protoID ++ ascii "Server"

/-- The four keys copied out of the HKDF output. -/
def keyMaterial (keys : Bytes) : KeyMaterial :=
  ⟨slice keys 0 20, slice keys 20 40, slice keys 40 56, slice keys 56 72⟩

/-- `Complete(serverData)`: `Y` and AUTH are the two halves of `serverData`;
92 bytes are read from HKDF and the first 72 copied out. -/
def HandshakeState.complete (P : NtorPrims) (hs : HandshakeState) (serverData : Bytes) :
    Except String KeyMaterial := do
  let Y := slice serverData 0 32
  let authReceived := slice serverData 32 64
  let exp1 ← (P.x25519 hs.x Y).mapError ("curve25519 x*Y: " ++ ·)
  if isZero exp1 then throw "x*Y produced all-zeros point"
  let exp2 ← (P.x25519 hs.x hs.ntorKey).mapError ("curve25519 x*B: " ++ ·)
  if isZero exp2 then throw "x*B produced all-zeros point"
  let secret := secretInput exp1 exp2 hs.nodeID hs.ntorKey hs.X Y
  if ntorHMAC P (authInput P secret hs.nodeID hs.ntorKey hs.X Y) tMac ≠ authReceived then
    throw "AUTH verification failed"
  return keyMaterial (keyBytes (P.hkdfSHA256 secret tKey mExpand) 0 92)

/-! ## The relay -/

/-- A relay with identity `nodeID`, onion key `b` and ephemeral key `y`
answering the client data `ID || B || X`, written from the protocol and not
from the client's helpers: `Y = y·G`, the products `y·X` and `b·X` (rejected
when all zero), `secret_input = y·X || b·X || ID || B || X || Y || PROTOID`,
`verify = HMAC(t_verify, secret_input)`, `AUTH = HMAC(t_mac, verify || ID ||
B || Y || X || PROTOID || "Server")`, and 72 bytes of HKDF output split as
`Df[20] || Db[20] || Kf[16] || Kb[16]`; it answers `Y || AUTH`. -/
def relayRespond (P : NtorPrims) (nodeID b y clientData : Bytes) :
    Except String (Bytes × KeyMaterial) := do
  let X := slice clientData 52 84
  let B := P.x25519Base b
  let Y := P.x25519Base y
  let yX ← P.x25519 y X
  let bX ← P.x25519 b X
  let secret := yX ++ bX ++ nodeID ++ B ++ X ++ Y ++ protoID
  let verify := P.hmacSHA256 tVerify secret
  let auth := P.hmacSHA256 tMac (verify ++ nodeID ++ B ++ Y ++ X ++ protoID ++ ascii "Server")
  let keys := keyBytes (P.hkdfSHA256 secret tKey mExpand) 0 72
  return (Y ++ auth, ⟨keys.take 20, (keys.drop 20).take 20, (keys.drop 40).take 16, (keys.drop 56).take 16⟩)

/-! ## What `Complete` accepts -/

variable (P : NtorPrims)

/-- `Complete` without its unreachable all-zero checks: x/crypto has already
rejected an all-zero product. -/
theorem complete_eq (hs : HandshakeState) (serverData : Bytes) :
    hs.complete P serverData =
      let Y := slice serverData 0 32
      let secret := secretInput (P.scalarMult hs.x Y) (P.scalarMult hs.x hs.ntorKey) hs.nodeID
        hs.ntorKey hs.X Y
      if isZero (P.scalarMult hs.x Y) then .error "curve25519 x*Y: bad input point: low order point"
      else if isZero (P.scalarMult hs.x hs.ntorKey) then
        .error "curve25519 x*B: bad input point: low order point"
      else if ntorHMAC P (authInput P secret hs.nodeID hs.ntorKey hs.X Y) tMac ≠ slice serverData 32 64
      then .error "AUTH verification failed"
      else .ok (keyMaterial (keyBytes (P.hkdfSHA256 secret tKey mExpand) 0 92)) := by
  simp only [HandshakeState.complete, Curve25519.x25519]
  by_cases h1 : isZero (P.scalarMult hs.x (slice serverData 0 32))
  · simp [h1]
  by_cases h2 : isZero (P.scalarMult hs.x hs.ntorKey)
  · simp [h1, h2]
  simp only [h1, h2, if_false, Bool.false_eq_true, except_ok_bind, except_mapError_ok]
  split <;> rfl

/-- **What `Complete` accepts.** For every response, `Complete` succeeds
exactly when `x·Y` and `x·B` are not all zero and the AUTH half is
`HMAC-SHA256(t_mac, verify || ID || B || Y || X || PROTOID || "Server")`. -/
theorem complete_ok_iff (hs : HandshakeState) (serverData : Bytes) :
    let Y := slice serverData 0 32
    let secret := P.scalarMult hs.x Y ++ P.scalarMult hs.x hs.ntorKey ++ hs.nodeID ++ hs.ntorKey ++
      hs.X ++ Y ++ protoID
    let verify := P.hmacSHA256 tVerify secret
    (∃ km, hs.complete P serverData = .ok km) ↔
      isZero (P.scalarMult hs.x Y) = false ∧ isZero (P.scalarMult hs.x hs.ntorKey) = false ∧
      slice serverData 32 64 = P.hmacSHA256 tMac
        (verify ++ hs.nodeID ++ hs.ntorKey ++ Y ++ hs.X ++ protoID ++ ascii "Server") := by
  rw [complete_eq]
  simp only [secretInput, authInput, ntorHMAC]
  split_ifs with h1 h2 h3
  · simp [h1]
  · simp [h2]
  · simpa [h1, h2] using Ne.symm h3
  · simpa [h1, h2] using (not_not.mp h3).symm

/-! ## Agreement with the relay -/

/-- At least 72 bytes of a stream hold the same four keys. -/
theorem keyMaterial_keyBytes (ks : Nat → UInt8) (n : Nat) (h : 72 ≤ n) :
    keyMaterial (keyBytes ks 0 n) =
      ⟨keyBytes ks 0 20, keyBytes ks 20 20, keyBytes ks 40 16, keyBytes ks 56 16⟩ := by
  simp only [keyMaterial, keyBytes_slice ks 0 n _ 20 (by omega), keyBytes_slice ks 0 n _ 40 (by omega),
    keyBytes_slice ks 0 n _ 56 (by omega), keyBytes_slice ks 0 n _ 72 (by omega)]

/-- The relay reads `X` back from the client data. -/
theorem clientData_X (hs : HandshakeState) (h1 : hs.nodeID.length = 20) (h2 : hs.ntorKey.length = 32)
    (h3 : hs.X.length = 32) : slice hs.clientData 52 84 = hs.X := by
  exact slice_append_second _ _ (by simp [h1, h2]) h3

/-- What the relay answers: `y·X` and `b·X` are not all zero, the answer is
`Y || AUTH` and the key material is read from 72 bytes of HKDF output. -/
theorem relayRespond_eq_ok {nodeID b y cd resp : Bytes} {keys : KeyMaterial} :
    relayRespond P nodeID b y cd = .ok (resp, keys) →
      let X := slice cd 52 84
      let secret := secretInput (P.scalarMult y X) (P.scalarMult b X) nodeID (P.x25519Base b) X
        (P.x25519Base y)
      isZero (P.scalarMult y X) = false ∧ isZero (P.scalarMult b X) = false ∧
      resp = P.x25519Base y ++
        ntorHMAC P (authInput P secret nodeID (P.x25519Base b) X (P.x25519Base y)) tMac ∧
      keys = keyMaterial (keyBytes (P.hkdfSHA256 secret tKey mExpand) 0 72) := by
  intro h
  simp only [relayRespond, except_bind_eq_ok, Curve25519.x25519_eq_ok] at h
  obtain ⟨_, ⟨hz1, rfl⟩, _, ⟨hz2, rfl⟩, h⟩ := h
  cases h
  exact ⟨hz1, hz2, rfl, by simp [keyMaterial, slice, secretInput]⟩

/-- **ntor agreement.** Under the Diffie-Hellman law, for every relay
identity, onion key `b`, client ephemeral `x` and relay ephemeral `y`,
`Complete` on the answer the relay computes from `ClientData()` succeeds with
the key material the relay installed; and for every 64-byte response
`Complete` succeeds exactly when `x·Y` and `x·B` are not all zero and the
AUTH half is `HMAC-SHA256(t_mac, auth_input)` for the Y half. -/
theorem ntor_client_agrees_with_relay (hdh : P.DHLaw) (nodeID b x y : Bytes)
    (hID : nodeID.length = 20) :
    let hs := newHandshake P nodeID (P.x25519Base b) x
    (∀ resp keys, relayRespond P nodeID b y hs.clientData = .ok (resp, keys) →
      hs.complete P resp = .ok keys) ∧
    ∀ serverData : Bytes, serverData.length = 64 →
      let Y := slice serverData 0 32
      let secret := P.scalarMult x Y ++ P.scalarMult x (P.x25519Base b) ++ nodeID ++
        P.x25519Base b ++ P.x25519Base x ++ Y ++ protoID
      let verify := P.hmacSHA256 tVerify secret
      ((∃ km, hs.complete P serverData = .ok km) ↔
        isZero (P.scalarMult x Y) = false ∧ isZero (P.scalarMult x (P.x25519Base b)) = false ∧
        slice serverData 32 64 = P.hmacSHA256 tMac
          (verify ++ nodeID ++ P.x25519Base b ++ Y ++ P.x25519Base x ++ protoID ++ ascii "Server")) := by
  refine ⟨fun resp keys h => ?_, fun serverData _ => complete_ok_iff P _ serverData⟩
  have hX := clientData_X (newHandshake P nodeID (P.x25519Base b) x) hID (by simp [newHandshake])
    (by simp [newHandshake])
  obtain ⟨hz1, hz2, rfl, rfl⟩ := relayRespond_eq_ok P h
  rw [hX] at hz1 hz2 ⊢
  rw [complete_eq, slice_append_first _ _ (P.x25519Base_length y),
    slice_append_second _ _ (P.x25519Base_length y) (ntorHMAC_length P _ _)]
  simp only [newHandshake, hdh x y, hdh x b] at hz1 hz2 ⊢
  simp [hz1, hz2, keyMaterial_keyBytes]

/-- A small instance of the primitives: the "product" of a scalar and a point
is 32 copies of the XOR of their first bytes, which satisfies the
Diffie-Hellman law. -/
def xorNtor : NtorPrims where
  scalarMult s p := List.replicate 32 (s.headD 0 ^^^ p.headD 0)
  basepoint := List.replicate 32 9
  scalarMult_length _ _ := List.length_replicate _ _
  hmacSHA256 k m := List.replicate 32 (k.headD 0 ^^^ m.headD 0)
  hkdfSHA256 s _ _ i := s.getD i 0
  hmacSHA256_length _ _ := List.length_replicate _ _

theorem xorNtor_dhLaw : xorNtor.DHLaw := fun x y => by
  have h : ∀ a b g : UInt8, a ^^^ (b ^^^ g) = b ^^^ (a ^^^ g) := fun a b g => by
    apply UInt8.eq_of_toBitVec_eq
    show a.toBitVec ^^^ (b.toBitVec ^^^ g.toBitVec) = b.toBitVec ^^^ (a.toBitVec ^^^ g.toBitVec)
    rw [← BitVec.xor_assoc, BitVec.xor_comm a.toBitVec, BitVec.xor_assoc]
  simp only [xorNtor, Curve25519.x25519Base, List.replicate_succ, List.headD_cons, h]

theorem ntor_agreement_xor :
    xorNtor.DHLaw ∧ (List.replicate 20 7 : Bytes).length = 20 ∧
    (∃ r, relayRespond xorNtor (List.replicate 20 7) [2] [3]
      (newHandshake xorNtor (List.replicate 20 7) (xorNtor.x25519Base [2]) [1]).clientData = .ok r) ∧
    ∀ resp keys, relayRespond xorNtor (List.replicate 20 7) [2] [3]
        (newHandshake xorNtor (List.replicate 20 7) (xorNtor.x25519Base [2]) [1]).clientData =
          .ok (resp, keys) →
      (newHandshake xorNtor (List.replicate 20 7) (xorNtor.x25519Base [2]) [1]).complete xorNtor resp =
        .ok keys :=
  ⟨xorNtor_dhLaw, rfl, ⟨_, rfl⟩,
    (ntor_client_agrees_with_relay xorNtor xorNtor_dhLaw (List.replicate 20 7) [2] [1] [3] rfl).1⟩

end TorGo.L2
