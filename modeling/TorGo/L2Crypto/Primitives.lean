import TorGo.L1Encoding.Bytes

/-!
# Stream ciphers and running digests

A circuit hop owns two `cipher.Stream`s (AES-128-CTR, or AES-256-CTR on the
onion-service hop) and two running `hash.Hash`es (SHA-1, or SHA3-256 on that
hop). The block cipher and the hash functions are not modelled; what the
circuit code relies on is their *state*:

* a CTR stream is a fixed keystream of which `XORKeyStream` uses the next
  `len(src)` bytes, so its state is a position (`Keystream`);
* a running hash is the byte string written into it so far, and `Sum(nil)`
  hashes that string without resetting it (`RunningDigest`). SHA-1 sums are
  20 bytes and SHA3-256 sums 32, so every sum has at least 20 bytes.

`MarshalBinary` / `UnmarshalBinary` on a running hash save and restore its
state; both SHA-1 and the x/crypto SHA3 state support them, so the model
takes them as always succeeding.
-/
namespace TorGo.L2

/-- A CTR-mode `cipher.Stream`: the keystream `ks` its key and IV determine,
and `pos`, the number of bytes `XORKeyStream` has used. -/
structure Keystream where
  ks : Nat → UInt8
  pos : Nat

/-- `XORKeyStream(dst, src)`: the next `len(src)` keystream bytes are XORed in
and used up. -/
def Keystream.xor (k : Keystream) (p : Bytes) : Bytes × Keystream :=
  (xorBytes p (keyBytes k.ks k.pos p.length), { k with pos := k.pos + p.length })

/-- A running `hash.Hash`: the hash function and everything written so far
(seed included). -/
structure RunningDigest where
  sum : Bytes → Bytes
  absorbed : Bytes
  sum_length : ∀ b, 20 ≤ (sum b).length

/-- `Write(p)`. -/
def RunningDigest.write (d : RunningDigest) (p : Bytes) : RunningDigest :=
  { d with absorbed := d.absorbed ++ p }

/-- `Sum(nil)`: the hash of everything written so far; the state is kept. -/
def RunningDigest.digest (d : RunningDigest) : Bytes := d.sum d.absorbed

@[simp] theorem Keystream.xor_length (k : Keystream) (p : Bytes) : (k.xor p).1.length = p.length := by
  simp [Keystream.xor]

@[simp] theorem Keystream.xor_pos (k : Keystream) (p : Bytes) : (k.xor p).2.pos = k.pos + p.length := rfl

@[simp] theorem Keystream.xor_ks (k : Keystream) (p : Bytes) : (k.xor p).2.ks = k.ks := rfl

/-- Decrypting with the keystream state that encrypted gives the plaintext
back and leaves the stream where encryption left it. -/
theorem Keystream.xor_xor (k : Keystream) (p : Bytes) :
    k.xor (k.xor p).1 = (p, (k.xor p).2) := by
  simp only [Keystream.xor, xorBytes_length, keyBytes_length, Nat.min_self]
  rw [xorBytes_xorBytes _ _ (by simp)]

@[simp] theorem RunningDigest.write_absorbed (d : RunningDigest) (p : Bytes) :
    (d.write p).absorbed = d.absorbed ++ p := rfl

theorem RunningDigest.digest_take_length (d : RunningDigest) : (d.digest.take 4).length = 4 := by
  have := d.sum_length d.absorbed
  simp only [RunningDigest.digest, List.length_take]; omega

end TorGo.L2
