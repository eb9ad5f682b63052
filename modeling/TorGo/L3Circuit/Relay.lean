import TorGo.L1Encoding.Cell
import TorGo.L2Crypto.Primitives

/-!
# Relay cells: framing and onion layers (`circuit` package, `relay.go`)

A RELAY cell's 509-byte payload is `command | recognized[2] | stream id[2] |
digest[4] | length[2] | data | padding`. `encryptRelayLocked` builds it with
the digest field zero, writes it into the last hop's forward digest, stamps
the first four bytes of that digest, and XORs it with every hop's forward
stream from the last hop to the first. `decryptRelayLocked` peels the layers
front to back; a hop whose layer shows a zero `recognized` field snapshots
its backward digest, writes the payload with the digest field zeroed, and
either accepts the cell (the stamped digest matches) or restores the
snapshot and moves on to the next hop.

The circuit's link is not part of `Circuit` here: the operations that read
or write cells take it separately (`Circuit.lean`).

Results:
* `decryptLoop_frame`, `decryptRelayLocked_frame`: what one decryption does
  to the hops. On success at hop `i`, hops `0..i` have used one payload of
  backward keystream, only hop `i`'s backward digest has changed (by the
  payload it peeled, digest field zeroed) and the later hops are untouched;
  when no hop recognizes the cell, every hop has used the keystream and every
  backward digest is restored.
-/
namespace TorGo.L3

open TorGo.L1 TorGo.L2

/-- `Hop`: forward and backward cipher streams and running digests. -/
structure Hop where
  kf : Keystream
  kb : Keystream
  df : RunningDigest
  db : RunningDigest

/-- `Circuit` without its link: the circuit id, the hops (guard first) and
the RELAY_EARLY counter. -/
structure Circuit where
  id : UInt32
  hops : List Hop
  relayEarlySent : Nat

def maxRelayEarly : Nat := 8

/-! ## Relay commands and offsets -/

def relayBegin : UInt8 := 1
def relayData : UInt8 := 2
def relayEnd : UInt8 := 3
def relayConnected : UInt8 := 4
def relaySendMe : UInt8 := 5
def relayBeginDir : UInt8 := 13
def relayExtend2 : UInt8 := 14
def relayExtended2 : UInt8 := 15
def relayEstablishRendezvous : UInt8 := 33
def relayIntroduce1 : UInt8 := 34
def relayRendezvous2 : UInt8 := 37
def relayRendezvousEstablished : UInt8 := 39
def relayIntroduceAck : UInt8 := 40

def relayPayloadLen : Nat := maxPayloadLen

/-- `MaxRelayDataLen = RelayPayloadLen - relayDataOff`. -/
def maxRelayDataLen : Nat := 498

/-! ## The plaintext payload -/

/-- The bytes after `n` data bytes: four zero bytes and `rand.Read` bytes up
to 509 (`rnd` is the random source), or only zeros when fewer than five
bytes are left. -/
def relayPadding (n : Nat) (rnd : Nat → UInt8) : Bytes :=
  if 11 + n + 4 < relayPayloadLen then
    List.replicate 4 0 ++ (List.range (relayPayloadLen - (11 + n + 4))).map rnd
  else List.replicate (relayPayloadLen - (11 + n)) 0

/-- The relay payload `encryptRelayLocked` builds, with digest field `d`. -/
def relayPayload (cmd : UInt8) (sid : UInt16) (d data : Bytes) (rnd : Nat → UInt8) : Bytes :=
  [cmd, 0, 0] ++ putUint16 sid ++ d ++ putUint16 (UInt16.ofNat data.length) ++ data ++
    relayPadding data.length rnd

/-- The all-zero digest field. -/
def zeroField : Bytes := [0, 0, 0, 0]

/-- Bytes 1..3. -/
def recognized (p : Bytes) : UInt16 := uint16 (p.drop 1)

/-- Bytes 5..9. -/
def digestField (p : Bytes) : Bytes := (p.drop 5).take 4

/-- The payload with bytes 5..9 replaced by the four bytes `d`. -/
def setDigest (p d : Bytes) : Bytes := p.take 5 ++ d ++ p.drop 9

/-! ## Encryption -/

/-- The hop list after `f` is applied to its last hop (`c.Hops[len(c.Hops)-1]`,
a pointer). -/
def updateLast (f : Hop → Hop) : List Hop → List Hop
  | [] => []
  | [h] => [f h]
  | h :: h' :: hs => h :: updateLast f (h' :: hs)

/-- `for i := len(c.Hops) - 1; i >= 0; i-- { c.Hops[i].kf.XORKeyStream(...) }`:
the payload and the hops with their forward streams advanced. -/
def onionEncrypt : List Hop → Bytes → Bytes × List Hop
  | [], p => (p, [])
  | h :: hs, p =>
    let r := onionEncrypt hs p
    ((h.kf.xor r.1).1, { h with kf := (h.kf.xor r.1).2 } :: r.2)

/-- `Circuit.encryptRelayLocked`; `rnd` is what `rand.Read` returns for the
padding. The circuit is unchanged on an error. -/
def encryptRelayLocked (c : Circuit) (cmd : UInt8) (sid : UInt16) (data : Bytes)
    (rnd : Nat → UInt8) : Except String (Cell × Circuit) :=
  match c.hops.getLast? with
  | none => .error "circuit has no hops"
  | some hop =>
    if data.length > maxRelayDataLen then
      .error ("relay data too large: " ++ toString data.length ++ " > " ++ toString maxRelayDataLen)
    else
      let p0 := relayPayload cmd sid zeroField data rnd
      let df := hop.df.write p0
      let enc := onionEncrypt (updateLast (fun h => { h with df := df }) c.hops)
        (setDigest p0 (df.digest.take 4))
      .ok ((newFixedCell c.id cmdRelay).withPayload enc.1, { c with hops := enc.2 })

/-! ## Decryption -/

/-- What `decryptRelayLocked` returns on success: the index of the hop that
recognized the cell, the relay command, the stream id and the data. -/
structure RelayMsg where
  hop : Nat
  cmd : UInt8
  streamID : UInt16
  data : Bytes
  deriving DecidableEq, Repr

/-- The loop `for i, hop := range c.Hops` of `decryptRelayLocked`, from hop
index `i` on, with the payload as it stands. On a false `recognized == 0`
the digest is restored, and the payload, digest field zeroed, goes on to the
next hop. -/
def decryptLoop (i : Nat) : List Hop → Bytes → Except String RelayMsg × List Hop
  | [], _ => (.error "relay cell not recognized at any hop", [])
  | h :: hs, p =>
    let p1 := (h.kb.xor p).1
    let h1 := { h with kb := (h.kb.xor p).2 }
    if recognized p1 ≠ 0 then
      let r := decryptLoop (i + 1) hs p1
      (r.1, h1 :: r.2)
    else
      let p2 := setDigest p1 zeroField
      let db := h1.db.write p2
      if digestField p1 = db.digest.take 4 then
        let dataLen := (uint16 (p2.drop 9)).toNat
        if dataLen > maxRelayDataLen then
          (.error ("relay data length " ++ toString dataLen ++ " exceeds maximum " ++
            toString maxRelayDataLen), { h1 with db := db } :: hs)
        else
          (.ok ⟨i, p2.getD 0 0, uint16 (p2.drop 3), (p2.drop 11).take dataLen⟩,
            { h1 with db := db } :: hs)
      else
        let r := decryptLoop (i + 1) hs p2
        (r.1, h1 :: r.2)

/-- `Circuit.decryptRelayLocked`. -/
def decryptRelayLocked (c : Circuit) (cell : Cell) : Except String RelayMsg × Circuit :=
  if c.hops.length = 0 then (.error "circuit has no hops", c)
  else
    let r := decryptLoop 0 c.hops (cell.payload.take relayPayloadLen)
    (r.1, { c with hops := r.2 })

/-! ## Payload lemmas -/

section Payload

variable (cmd : UInt8) (sid : UInt16) (data : Bytes) (rnd : Nat → UInt8)

theorem relayPadding_length (h : data.length ≤ maxRelayDataLen) :
    (relayPadding data.length rnd).length = relayPayloadLen - (11 + data.length) := by
  simp only [relayPadding, relayPayloadLen, maxPayloadLen, maxRelayDataLen] at *
  split
  · simp; omega
  · simp

theorem relayPayload_length (d : Bytes) (hd : d.length = 4) (h : data.length ≤ maxRelayDataLen) :
    (relayPayload cmd sid d data rnd).length = relayPayloadLen := by
  simp only [relayPayload, List.length_append, List.length_cons, List.length_nil, putUint16_length,
    hd, relayPadding_length data rnd h]
  simp only [relayPayloadLen, maxPayloadLen, maxRelayDataLen] at *
  omega

/-- The payload split at the digest field. -/
theorem relayPayload_eq (d : Bytes) :
    relayPayload cmd sid d data rnd = ([cmd, 0, 0] ++ putUint16 sid) ++ d ++
      (putUint16 (UInt16.ofNat data.length) ++ data ++ relayPadding data.length rnd) := by
  simp only [relayPayload, List.append_assoc]

theorem setDigest_split (a d d' b : Bytes) (ha : a.length = 5) (hd : d.length = 4) :
    setDigest (a ++ d ++ b) d' = a ++ d' ++ b := by
  have h9 : (a ++ d).length = 9 := by simp [ha, hd]
  rw [setDigest, List.append_assoc a d b, List.take_left' ha, ← List.append_assoc a d b,
    List.drop_left' h9]

theorem head5_length : ([cmd, 0, 0] ++ putUint16 sid).length = 5 := rfl

theorem setDigest_relayPayload (d d' : Bytes) (hd : d.length = 4) :
    setDigest (relayPayload cmd sid d data rnd) d' = relayPayload cmd sid d' data rnd := by
  rw [relayPayload_eq, relayPayload_eq, setDigest_split _ _ _ _ (head5_length cmd sid) hd]

theorem digestField_relayPayload (d : Bytes) (hd : d.length = 4) :
    digestField (relayPayload cmd sid d data rnd) = d := by
  rw [digestField, relayPayload_eq, List.append_assoc, List.drop_left' (head5_length cmd sid),
    List.take_left' hd]

@[simp] theorem recognized_relayPayload (d : Bytes) :
    recognized (relayPayload cmd sid d data rnd) = 0 := by
  rw [recognized, show relayPayload cmd sid d data rnd = [cmd] ++ ([0, 0] ++
    (putUint16 sid ++ d ++ putUint16 (UInt16.ofNat data.length) ++ data ++
      relayPadding data.length rnd)) by simp [relayPayload],
    List.drop_left' (show [cmd].length = 1 from rfl), uint16_append _ _ (by simp)]
  rfl

theorem command_relayPayload (d : Bytes) : (relayPayload cmd sid d data rnd).getD 0 0 = cmd := by
  simp [relayPayload]

theorem streamID_relayPayload (d : Bytes) :
    uint16 ((relayPayload cmd sid d data rnd).drop 3) = sid := by
  rw [show relayPayload cmd sid d data rnd = [cmd, 0, 0] ++ (putUint16 sid ++
    (d ++ putUint16 (UInt16.ofNat data.length) ++ data ++ relayPadding data.length rnd)) by
    simp [relayPayload], List.drop_left' (show [cmd, 0, 0].length = 3 from rfl), uint16_putUint16]

theorem length_relayPayload (d : Bytes) (hd : d.length = 4) (h : data.length ≤ maxRelayDataLen) :
    (uint16 ((relayPayload cmd sid d data rnd).drop 9)).toNat = data.length := by
  have h9 : ([cmd, 0, 0] ++ putUint16 sid ++ d).length = 9 := by simp [hd]
  rw [show relayPayload cmd sid d data rnd = ([cmd, 0, 0] ++ putUint16 sid ++ d) ++
    (putUint16 (UInt16.ofNat data.length) ++ (data ++ relayPadding data.length rnd)) by
    simp [relayPayload], List.drop_left' h9, uint16_putUint16, UInt16.toNat_ofNat']
  simp only [maxRelayDataLen] at h; omega

theorem data_relayPayload (d : Bytes) (hd : d.length = 4) :
    ((relayPayload cmd sid d data rnd).drop 11).take data.length = data := by
  have h11 : ([cmd, 0, 0] ++ putUint16 sid ++ d ++ putUint16 (UInt16.ofNat data.length)).length = 11 := by
    simp [hd]
  rw [show relayPayload cmd sid d data rnd =
    ([cmd, 0, 0] ++ putUint16 sid ++ d ++ putUint16 (UInt16.ofNat data.length)) ++
      (data ++ relayPadding data.length rnd) by simp [relayPayload],
    List.drop_left' h11, List.take_left' rfl]

/-- A payload split around its digest field. -/
theorem split_digest (k : Bytes) : k = k.take 5 ++ digestField k ++ k.drop 9 := by
  rw [digestField, show k.drop 9 = (k.drop 5).drop 4 by rw [List.drop_drop], List.append_assoc,
    List.take_append_drop, List.take_append_drop]

/-- XOR commutes with replacing the digest field. -/
theorem xorBytes_setDigest (a k z : Bytes) (h5 : 5 ≤ a.length) (hk : 9 ≤ k.length)
    (hz : z.length = 4) :
    xorBytes (setDigest a z) k = setDigest (xorBytes a k) (xorBytes z (digestField k)) := by
  conv_lhs => rw [split_digest k]
  rw [setDigest, setDigest, xorBytes_append _ _ _ _ (by simp [digestField]; omega),
    xorBytes_append _ _ _ _ (by simp; omega), xorBytes_take, xorBytes_drop]

theorem setDigest_length (p d : Bytes) (hp : 9 ≤ p.length) (hd : d.length = 4) :
    (setDigest p d).length = p.length := by
  simp only [setDigest, List.length_append, List.length_take, List.length_drop, hd]; omega

end Payload

/-! ## What decryption touches -/

/-- Hop `h` with its backward keystream `n` bytes further on. -/
def Hop.skipBack (n : Nat) (h : Hop) : Hop := { h with kb := { h.kb with pos := h.kb.pos + n } }

/-- The payload `decryptLoop` hands hop `k`: each hop before it peels its
layer and, where its layer shows a zero `recognized` field, zeroes the
digest field before passing the payload on. -/
def handedTo : List Hop → Bytes → Nat → Bytes
  | h :: hs, p, k + 1 =>
    let p1 := (h.kb.xor p).1
    handedTo hs (if recognized p1 ≠ 0 then p1 else setDigest p1 zeroField) k
  | _, p, _ => p

/-- The hop a layer is peeled off, as the loop leaves it. -/
theorem xor_hop (h : Hop) (p : Bytes) : { h with kb := (h.kb.xor p).2 } = h.skipBack p.length := rfl

/-- What one run of the loop does to the hops, from hop index `i` on, for a
payload of at least nine bytes: on success at hop `i + k`, hops before it
and hop `i + k` itself have used one payload's worth of backward keystream,
hop `i + k` has written the payload it peeled, digest field zeroed, into its
backward digest, and the hops after it are untouched; when no hop recognizes
the cell, every hop has used the keystream and no digest has changed. -/
theorem decryptLoop_frame : ∀ (hs : List Hop) (i : Nat) (p : Bytes), 9 ≤ p.length →
    (∀ m, (decryptLoop i hs p).1 = .ok m → ∃ k h rest, m.hop = i + k ∧ hs.drop k = h :: rest ∧
      (decryptLoop i hs p).2 = (hs.take k).map (Hop.skipBack p.length) ++
        { h.skipBack p.length with db := h.db.write (setDigest (h.kb.xor (handedTo hs p k)).1 zeroField) } ::
          rest) ∧
    ((decryptLoop i hs p).1 = .error "relay cell not recognized at any hop" →
      (decryptLoop i hs p).2 = hs.map (Hop.skipBack p.length))
  | [], _, _, _ => ⟨fun _ h => (by cases h), fun _ => rfl⟩
  | h :: hs, i, p, hp => by
    have hp1 : (h.kb.xor p).1.length = p.length := by simp
    rw [decryptLoop]
    by_cases hr : recognized (h.kb.xor p).1 ≠ 0
    · rw [if_pos hr]
      dsimp only
      obtain ⟨ihm, ihe⟩ := decryptLoop_frame hs (i + 1) _ (hp1 ▸ hp)
      refine ⟨fun m hm => ?_, fun he => ?_⟩
      · obtain ⟨k, h', rest, hk, hd, he⟩ := ihm m hm
        refine ⟨k + 1, h', rest, by omega, hd, ?_⟩
        rw [he, hp1, xor_hop]
        simp only [handedTo, if_pos hr, List.take_succ_cons, List.map_cons, List.cons_append]
      · rw [ihe he, hp1, xor_hop, List.map_cons]
    rw [if_neg hr]
    have hp2 : (setDigest (h.kb.xor p).1 zeroField).length = p.length := by
      rw [setDigest_length _ zeroField (hp1 ▸ hp) rfl, hp1]
    dsimp only
    split_ifs with hm hl
    · refine ⟨fun _ h => (by cases h), fun he => absurd (congrArg String.length (Except.error.inj he)) ?_⟩
      have h1 : "relay cell not recognized at any hop".length = 36 := rfl
      have h2 : "relay data length ".length = 18 := rfl
      have h3 : " exceeds maximum ".length = 17 := rfl
      have h4 : (toString maxRelayDataLen).length = 3 := by decide
      simp only [String.length_append, h1, h2, h3, h4]
      omega
    · refine ⟨fun m hm => ⟨0, h, hs, by cases hm; rfl, rfl, by cases hm; rfl⟩, fun h => (by cases h)⟩
    · obtain ⟨ihm, ihe⟩ := decryptLoop_frame hs (i + 1) _ (hp2 ▸ hp)
      refine ⟨fun m hm => ?_, fun he => ?_⟩
      · obtain ⟨k, h', rest, hk, hd, he⟩ := ihm m hm
        refine ⟨k + 1, h', rest, by omega, hd, ?_⟩
        rw [he, hp2, xor_hop]
        simp only [handedTo, hr, if_false, List.take_succ_cons, List.map_cons, List.cons_append]
      · rw [ihe he, hp2, xor_hop, List.map_cons]


/-- **What `decryptRelayLocked` touches.** For every circuit and every
RELAY cell (whose payload has the full 509 bytes): when hop `i` recognizes
the cell, hops `0..i` have each used 509 bytes of backward keystream, hop `i`
alone has a new backward digest, the old one with the payload it peeled
written in, digest field zeroed, and the hops after `i` are untouched; when
no hop recognizes it, every hop has used 509 bytes of backward keystream and
every backward digest is as it was. Nothing else of the circuit changes. -/
theorem decryptRelayLocked_frame (c : Circuit) (cell : Cell) (hp : relayPayloadLen ≤ cell.payload.length) :
    (∀ m, (decryptRelayLocked c cell).1 = .ok m → ∃ h rest, c.hops.drop m.hop = h :: rest ∧
      (decryptRelayLocked c cell).2 = { c with hops := (c.hops.take m.hop).map (Hop.skipBack relayPayloadLen) ++
        { h.skipBack relayPayloadLen with db := h.db.write (setDigest (h.kb.xor
          (handedTo c.hops (cell.payload.take relayPayloadLen) m.hop)).1 zeroField) } :: rest }) ∧
    ((decryptRelayLocked c cell).1 = .error "relay cell not recognized at any hop" →
      (decryptRelayLocked c cell).2 = { c with hops := c.hops.map (Hop.skipBack relayPayloadLen) }) := by
  have hlen : (cell.payload.take relayPayloadLen).length = relayPayloadLen := by
    rw [List.length_take]
    omega
  unfold decryptRelayLocked
  split_ifs with h0
  · exact ⟨fun _ h => (by cases h), fun h => absurd (Except.error.inj h) (by decide)⟩
  obtain ⟨hm, he⟩ := decryptLoop_frame c.hops 0 (cell.payload.take relayPayloadLen) (by rw [hlen]; decide)
  rw [hlen] at hm he
  dsimp only
  refine ⟨fun m h => ?_, fun h => by rw [he h]⟩
  obtain ⟨k, h', rest, hk, hd, hs⟩ := hm m h
  rw [Nat.zero_add] at hk
  exact ⟨h', rest, hk ▸ hd, by rw [hs, hk]⟩

/-! ## Test hops -/

/-- A running digest whose sums are all zero bytes. -/
def zeroDigest : RunningDigest := ⟨fun _ => List.replicate 20 0, [], fun _ => by simp⟩

/-- A hop whose forward and backward states coincide (as in the Go tests,
`kf == kb`), with keystream `ks` and all-zero digests. -/
def testHop (ks : Nat → UInt8) : Hop := ⟨⟨ks, 0⟩, ⟨ks, 0⟩, zeroDigest, zeroDigest⟩

set_option maxRecDepth 20000 in
/-- The frame of `decryptRelayLocked` on a one-hop circuit and a fresh
RELAY cell, which the hop recognizes: an all-zero payload under an
all-zero keystream and digest. -/
theorem one_hop_decrypt_frame :
    relayPayloadLen ≤ (newFixedCell 0x80000001 cmdRelay).payload.length ∧
      (decryptRelayLocked ⟨0x80000001, [testHop fun _ => 0], 0⟩ (newFixedCell 0x80000001 cmdRelay)).1 =
        .ok ⟨0, 0, 0, []⟩ ∧
      (∀ m, (decryptRelayLocked ⟨0x80000001, [testHop fun _ => 0], 0⟩ (newFixedCell 0x80000001 cmdRelay)).1 =
          .ok m → ∃ h rest, [testHop fun _ => 0].drop m.hop = h :: rest ∧
        (decryptRelayLocked ⟨0x80000001, [testHop fun _ => 0], 0⟩ (newFixedCell 0x80000001 cmdRelay)).2 =
          ⟨0x80000001, ([testHop fun _ => 0].take m.hop).map (Hop.skipBack relayPayloadLen) ++
            { h.skipBack relayPayloadLen with db := h.db.write (setDigest (h.kb.xor (handedTo [testHop fun _ => 0]
              ((newFixedCell 0x80000001 cmdRelay).payload.take relayPayloadLen) m.hop)).1 zeroField) } :: rest, 0⟩) ∧
      ((decryptRelayLocked ⟨0x80000001, [testHop fun _ => 0], 0⟩ (newFixedCell 0x80000001 cmdRelay)).1 =
          .error "relay cell not recognized at any hop" →
        (decryptRelayLocked ⟨0x80000001, [testHop fun _ => 0], 0⟩ (newFixedCell 0x80000001 cmdRelay)).2 =
          ⟨0x80000001, [testHop fun _ => 0].map (Hop.skipBack relayPayloadLen), 0⟩) :=
  have hc : (newFixedCell 0x80000001 cmdRelay).command = cmdRelay := rfl
  have hp : relayPayloadLen ≤ (newFixedCell 0x80000001 cmdRelay).payload.length := by
    rw [Cell.payload, Cell.payloadOff, hc, List.length_drop, newFixedCell_length]
    decide
  ⟨hp, rfl, decryptRelayLocked_frame ⟨0x80000001, [testHop fun _ => 0], 0⟩ (newFixedCell 0x80000001 cmdRelay) hp⟩

end TorGo.L3
