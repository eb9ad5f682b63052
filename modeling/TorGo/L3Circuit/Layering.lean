import TorGo.L3Circuit.Relay
import Mathlib.Data.List.Forall2

/-!
# Onion layering against the relay side

The relay side of a circuit is modelled by the client's own code run on a
second circuit `C` whose *forward* state is what the relays hold: hop `j`
originates a cell with `encryptRelayLocked` on the circuit made of `C`'s hops
`0..j` (it stamps its forward digest and every hop up to it adds its layer).
The client circuit `M` mirrors `C` when, hop by hop, its backward keystream
(position included) and backward digest are `C`'s forward ones (`Mirror`).

Results:
* `decryptLoop_originate`: one cell, by induction over the hops before its
  origin: when no earlier hop sees a zero `recognized` field, the client
  returns exactly the origin's message and the hops stay mirrored;
* `layerRun_mirror`: the same over every finite run of cells from any hops;
* `relay_cell_lost_after_false_recognized`: when an earlier hop *does* see a
  zero `recognized` field and its digest check fails, `decryptLoop` hands the
  next hop the payload with the digest field zeroed, so the origin compares
  its digest against keystream bytes and the cell is reported unrecognized.
-/
namespace TorGo.L3

open TorGo.L1 TorGo.L2

/-- Client hop `m` holds backwards what relay-side hop `c` holds forwards. -/
def Mirror (m c : Hop) : Prop := m.kb = c.kf ∧ m.db = c.df

/-- What hop `k` of `hs` sees of the payload `p` once its own layer is
peeled, every hop before it having passed the payload on unchanged. -/
def seenAt : List Hop → Bytes → Nat → Bytes
  | [], p, _ => p
  | h :: _, p, 0 => (h.kb.xor p).1
  | h :: hs, p, k + 1 => seenAt hs (h.kb.xor p).1 k

/-- Hop `m`'s digest check passes on the payload `p` it sees. -/
def DigestMatches (m : Hop) (p : Bytes) : Prop :=
  digestField p = ((m.db.write (setDigest p zeroField)).digest).take 4

/-- A hop that sees a nonzero `recognized` field passes the payload on. -/
theorem decryptLoop_recognized_ne (i : Nat) (h : Hop) (hs : List Hop) (p : Bytes)
    (hr : recognized (h.kb.xor p).1 ≠ 0) :
    (decryptLoop i (h :: hs) p).1 = (decryptLoop (i + 1) hs (h.kb.xor p).1).1 := by
  rw [decryptLoop]; simp only [hr, ne_eq, not_false_eq_true, if_true]

/-- A hop that sees a zero `recognized` field and a failing digest check
passes the payload on with its digest field zeroed. -/
theorem decryptLoop_false_match (i : Nat) (h : Hop) (hs : List Hop) (p : Bytes)
    (hr : recognized (h.kb.xor p).1 = 0) (hm : ¬ DigestMatches h (h.kb.xor p).1) :
    (decryptLoop i (h :: hs) p).1 = (decryptLoop (i + 1) hs (setDigest (h.kb.xor p).1 zeroField)).1 := by
  rw [DigestMatches] at hm
  rw [decryptLoop]; simp only [hr, ne_eq, not_true_eq_false, if_false, if_neg hm]

theorem updateLast_append (f : Hop → Hop) (l : Hop) :
    ∀ cs : List Hop, updateLast f (cs ++ [l]) = cs ++ [f l]
  | [] => rfl
  | [c] => rfl
  | c :: c' :: cs => by
    show c :: updateLast f (c' :: cs ++ [l]) = c :: (c' :: cs ++ [f l])
    rw [updateLast_append f l (c' :: cs)]

@[simp] theorem onionEncrypt_length (p : Bytes) :
    ∀ hs : List Hop, (onionEncrypt hs p).1.length = p.length ∧ (onionEncrypt hs p).2.length = hs.length
  | [] => ⟨rfl, rfl⟩
  | _ :: hs => by simp [onionEncrypt, onionEncrypt_length p hs]

theorem withPayload_payload (id : UInt32) (p : Bytes) (hp : p.length = relayPayloadLen) :
    ((newFixedCell id cmdRelay).withPayload p).payload.take relayPayloadLen = p := by
  have h5 : (newFixedCell id cmdRelay).payloadOff = 5 := rfl
  have hc : ((newFixedCell id cmdRelay).withPayload p).payloadOff = 5 := rfl
  rw [Cell.payload, hc, Cell.withPayload, h5, copyInto_of_length_eq _ _
    (by simp only [List.length_drop, newFixedCell_length, hp]; rfl)]
  rw [List.drop_left' (by simp [fixedCellLen]), List.take_of_length_le (by rw [hp])]

section Originate

variable (cmd : UInt8) (sid : UInt16) (data : Bytes) (rnd : Nat → UInt8)

/-- The payload that hop `l`, last of `cs ++ [l]`, originates, and the hops
after: the plaintext is written into `l`'s forward digest, stamped, and
encrypted from `l` back to the first hop. -/
def originate (cs : List Hop) (l : Hop) : Bytes × List Hop :=
  let df := l.df.write (relayPayload cmd sid zeroField data rnd)
  onionEncrypt (cs ++ [{ l with df := df }]) (relayPayload cmd sid (df.digest.take 4) data rnd)

theorem originate_cons (c : Hop) (cs : List Hop) (l : Hop) :
    originate cmd sid data rnd (c :: cs) l =
      ((c.kf.xor (originate cmd sid data rnd cs l).1).1,
        { c with kf := (c.kf.xor (originate cmd sid data rnd cs l).1).2 } ::
          (originate cmd sid data rnd cs l).2) := rfl

/-- `encryptRelayLocked` on a circuit whose hops end in `l` is `originate`. -/
theorem encryptRelayLocked_originate (c : Circuit) (cs : List Hop) (l : Hop)
    (hc : c.hops = cs ++ [l]) (hd : data.length ≤ maxRelayDataLen) :
    encryptRelayLocked c cmd sid data rnd =
      .ok ((newFixedCell c.id cmdRelay).withPayload (originate cmd sid data rnd cs l).1,
        { c with hops := (originate cmd sid data rnd cs l).2 }) := by
  rw [encryptRelayLocked, hc, List.getLast?_append_of_ne_nil _ (by simp)]
  simp only [List.getLast?_singleton, gt_iff_lt, not_lt.mpr hd, if_false, updateLast_append,
    setDigest_relayPayload cmd sid data rnd zeroField _ rfl, originate]

theorem originate_length (cs : List Hop) (l : Hop) (hd : data.length ≤ maxRelayDataLen) :
    (originate cmd sid data rnd cs l).1.length = relayPayloadLen := by
  rw [originate, (onionEncrypt_length _ _).1,
    relayPayload_length _ _ _ _ _ (RunningDigest.digest_take_length _) hd]

/-- **One cell.** A cell hop `l` originates behind mirrored hops `cs` is
returned by the client as `l`'s message, at index `i + |cs|`, provided none
of the hops before `l` sees a zero `recognized` field; the hops it touched
stay mirrored and the hops after `l` are untouched. -/
theorem decryptLoop_originate (l ml : Hop) (hl : Mirror ml l) (hd : data.length ≤ maxRelayDataLen)
    (ms2 : List Hop) :
    ∀ (cs ms0 : List Hop) (i : Nat), List.Forall₂ Mirror ms0 cs →
      (∀ k < cs.length, recognized (seenAt ms0 (originate cmd sid data rnd cs l).1 k) ≠ 0) →
      ∃ ms', decryptLoop i (ms0 ++ ml :: ms2) (originate cmd sid data rnd cs l).1 =
          (.ok ⟨i + cs.length, cmd, sid, data⟩, ms' ++ ms2) ∧
        List.Forall₂ Mirror ms' (originate cmd sid data rnd cs l).2
  | [], ms0, i, hm, _ => by
    obtain rfl := List.forall₂_nil_right_iff.mp hm
    have hD := RunningDigest.digest_take_length (l.df.write (relayPayload cmd sid zeroField data rnd))
    simp only [originate, List.nil_append, onionEncrypt, hl.1, Keystream.xor_xor, decryptLoop,
      recognized_relayPayload, ne_eq, not_true_eq_false, if_false,
      setDigest_relayPayload cmd sid data rnd _ _ hD, hl.2, digestField_relayPayload _ _ _ _ _ hD,
      if_true, length_relayPayload cmd sid data rnd zeroField rfl hd, gt_iff_lt, not_lt.mpr hd,
      command_relayPayload, streamID_relayPayload, data_relayPayload cmd sid data rnd zeroField rfl,
      Nat.add_zero]
    exact ⟨[_], rfl, List.Forall₂.cons ⟨rfl, rfl⟩ List.Forall₂.nil⟩
  | c :: cs, ms0, i, hm, hfresh => by
    obtain ⟨mc, ms0', ⟨hkb, hdb⟩, hm', rfl⟩ := List.forall₂_cons_right_iff.mp hm
    have h0 : recognized (originate cmd sid data rnd cs l).1 ≠ 0 := by
      simpa only [seenAt, originate_cons, hkb, Keystream.xor_xor] using hfresh 0 (by simp)
    obtain ⟨ms', h, hms'⟩ := decryptLoop_originate l ml hl hd ms2 cs ms0' (i + 1) hm'
      (fun k hk => by
        simpa only [seenAt, originate_cons, hkb, Keystream.xor_xor] using hfresh (k + 1) (by simp; omega))
    refine ⟨{ mc with kb := (c.kf.xor (originate cmd sid data rnd cs l).1).2 } :: ms', ?_,
      List.Forall₂.cons ⟨rfl, hdb⟩ hms'⟩
    rw [show i + (c :: cs).length = i + 1 + cs.length by simp; omega]
    simp only [List.cons_append, originate_cons, decryptLoop, hkb, Keystream.xor_xor, ne_eq, h0,
      not_false_eq_true, if_true, List.append_eq, h]

end Originate

/-! ## Runs -/

/-- A message relay-side hop `hop` sends towards the client, with the bytes
`rand.Read` gives its padding. -/
structure Origin where
  hop : Nat
  cmd : UInt8
  streamID : UInt16
  data : Bytes
  rnd : Nat → UInt8

/-- The cell hop `o.hop` of the relay side `C` sends: `encryptRelayLocked` on
the circuit made of `C`'s hops `0..o.hop`; the hops after it are untouched. -/
def relaySend (C : Circuit) (o : Origin) : Except String (Cell × Circuit) :=
  match encryptRelayLocked { C with hops := C.hops.take (o.hop + 1) } o.cmd o.streamID o.data o.rnd with
  | .error e => .error e
  | .ok (cell, C') => .ok (cell, { C' with hops := C'.hops ++ C.hops.drop (o.hop + 1) })

/-- The relay side `C` sends `os` in order and the client `M` decrypts each
cell as it arrives: the client's results, and the final relay side and client. -/
def layerRun (C M : Circuit) : List Origin → List (Except String RelayMsg) × Circuit × Circuit
  | [] => ([], C, M)
  | o :: os =>
    match relaySend C o with
    | .error e => ([.error e], C, M)
    | .ok (cell, C') =>
      let r := layerRun C' (decryptRelayLocked M cell).2 os
      ((decryptRelayLocked M cell).1 :: r.1, r.2)

/-- At every step of the run no client hop before the cell's origin sees a
zero `recognized` field. -/
def FreshRecognized (C M : Circuit) : List Origin → Prop
  | [] => True
  | o :: os =>
    match relaySend C o with
    | .error _ => True
    | .ok (cell, C') =>
      (∀ k < o.hop, recognized (seenAt M.hops (cell.payload.take relayPayloadLen) k) ≠ 0) ∧
        FreshRecognized C' (decryptRelayLocked M cell).2 os

/-- Mirrored hop lists split alike around any hop. -/
theorem forall₂_mirror_split : ∀ {ms cs : List Hop}, List.Forall₂ Mirror ms cs → ∀ j < cs.length,
    ∃ ms0 ml ms2 cs0 l rest, ms = ms0 ++ ml :: ms2 ∧ cs = cs0 ++ l :: rest ∧ cs0.length = j ∧
      List.Forall₂ Mirror ms0 cs0 ∧ Mirror ml l ∧ List.Forall₂ Mirror ms2 rest
  | _, _, List.Forall₂.nil, _, hj => absurd hj (by simp)
  | m :: ms, c :: cs, List.Forall₂.cons hmc hr, 0, _ => ⟨[], m, ms, [], c, cs, rfl, rfl, rfl, .nil, hmc, hr⟩
  | m :: ms, c :: cs, List.Forall₂.cons hmc hr, j + 1, hj => by
    obtain ⟨ms0, ml, ms2, cs0, l, rest, rfl, rfl, hl, h0, hml, h2⟩ :=
      forall₂_mirror_split hr j (by simpa using hj)
    exact ⟨m :: ms0, ml, ms2, c :: cs0, l, rest, rfl, rfl, by simp [hl], .cons hmc h0, hml, h2⟩

theorem seenAt_append : ∀ (ms rest : List Hop) (p : Bytes) (k : Nat), k < ms.length →
    seenAt (ms ++ rest) p k = seenAt ms p k
  | [], _, _, _, hk => absurd hk (by simp)
  | _ :: _, _, _, 0, _ => rfl
  | _ :: ms, rest, _, k + 1, hk => seenAt_append ms rest _ k (by simpa using hk)

/-- **One step of a run.** Hop `o.hop` of a relay side mirrored by the client
sends a cell: the hop count is kept, and when no earlier client hop sees a
zero `recognized` field the client returns `o`'s message and stays mirrored. -/
theorem relaySend_decrypt (C M : Circuit) (o : Origin) (hm : List.Forall₂ Mirror M.hops C.hops)
    (hj : o.hop < C.hops.length) (hd : o.data.length ≤ maxRelayDataLen) :
    ∃ cell C', relaySend C o = .ok (cell, C') ∧ C'.hops.length = C.hops.length ∧
      ((∀ k < o.hop, recognized (seenAt M.hops (cell.payload.take relayPayloadLen) k) ≠ 0) →
        (decryptRelayLocked M cell).1 = .ok ⟨o.hop, o.cmd, o.streamID, o.data⟩ ∧
        List.Forall₂ Mirror (decryptRelayLocked M cell).2.hops C'.hops) := by
  obtain ⟨ms0, ml, ms2, cs0, l, rest, hM, hC, hl, h0, hml, h2⟩ := forall₂_mirror_split hm o.hop hj
  have hsplit : C.hops = (cs0 ++ [l]) ++ rest := by simp [hC]
  have hlen : (cs0 ++ [l]).length = o.hop + 1 := by simp [hl]
  have he := encryptRelayLocked_originate o.cmd o.streamID o.data o.rnd
    { C with hops := C.hops.take (o.hop + 1) } cs0 l (by simp only [hsplit, List.take_left' hlen]) hd
  have hE := originate_length o.cmd o.streamID o.data o.rnd cs0 l hd
  refine ⟨_, _, by rw [relaySend, he], ?_, fun hfresh => ?_⟩
  · simp only [hsplit, List.drop_left' hlen, List.length_append, (onionEncrypt_length _ _).2, hlen]
    simp [originate, hl]
  · have hpay := withPayload_payload C.id _ hE
    rw [hpay] at hfresh
    have hfresh' : ∀ k < cs0.length,
        recognized (seenAt ms0 (originate o.cmd o.streamID o.data o.rnd cs0 l).1 k) ≠ 0 := by
      intro k hk
      rw [← seenAt_append ms0 (ml :: ms2) _ k (by rw [h0.length_eq]; exact hk), ← hM]
      exact hfresh k (by omega)
    obtain ⟨ms', hdec, hms'⟩ := decryptLoop_originate o.cmd o.streamID o.data o.rnd l ml hml hd ms2
      cs0 ms0 0 h0 hfresh'
    rw [decryptRelayLocked, if_neg (by simp [hM]), hpay, hM, hdec]
    simp only [Nat.zero_add, hl, true_and, List.drop_left' hlen, hsplit]
    exact List.rel_append hms' h2

/-- **Runs.** For every finite sequence of messages, each from any hop of a
relay side mirrored by the client and with at most 498 data bytes, the client
returns every message exactly, from its origin hop and in order, and stays
mirrored, as long as no hop before a cell's origin ever sees a zero
`recognized` field. -/
theorem layerRun_mirror : ∀ (os : List Origin) (C M : Circuit), List.Forall₂ Mirror M.hops C.hops →
    (∀ o ∈ os, o.hop < C.hops.length ∧ o.data.length ≤ maxRelayDataLen) → FreshRecognized C M os →
    (layerRun C M os).1 = os.map (fun o => .ok ⟨o.hop, o.cmd, o.streamID, o.data⟩) ∧
      List.Forall₂ Mirror (layerRun C M os).2.2.hops (layerRun C M os).2.1.hops
  | [], _, _, hm, _, _ => ⟨rfl, hm⟩
  | o :: os, C, M, hm, hos, hfresh => by
    obtain ⟨hj, hd⟩ := hos o (List.mem_cons_self _ _)
    obtain ⟨cell, C', hs, hlen, hstep⟩ := relaySend_decrypt C M o hm hj hd
    simp only [FreshRecognized, hs] at hfresh
    obtain ⟨hr, hm'⟩ := hstep hfresh.1
    obtain ⟨ih1, ih2⟩ := layerRun_mirror os C' _ hm'
      (fun o' ho' => by rw [hlen]; exact hos o' (List.mem_cons_of_mem _ ho')) hfresh.2
    simp only [layerRun, hs, hr, ih1, ih2, List.map_cons, and_true]


/-- A two-hop circuit whose layers XOR with 7 and with 1. -/
def twoHops : Circuit := ⟨1, [testHop (fun _ => 7), testHop (fun _ => 1)], 0⟩

/-- A DATA cell from the last hop, then one from the first. -/
def twoOrigins : List Origin := [⟨1, relayData, 1, [1, 2, 3], fun _ => 0⟩, ⟨0, relayData, 1, [4], fun _ => 0⟩]

set_option maxRecDepth 20000 in
/-- The first hop, peeling its layer off the last hop's cell, sees the
`recognized` field `0x0101`. -/
theorem twoHops_recognized :
    ((relaySend twoHops ⟨1, relayData, 1, [1, 2, 3], fun _ => 0⟩).toOption.map fun r =>
      recognized (seenAt twoHops.hops (r.1.payload.take relayPayloadLen) 0)) = some 257 := rfl

theorem layerRun_mirror_two_hops :
    (layerRun twoHops twoHops twoOrigins).1 =
        twoOrigins.map (fun o => .ok ⟨o.hop, o.cmd, o.streamID, o.data⟩) ∧
      List.Forall₂ Mirror (layerRun twoHops twoHops twoOrigins).2.2.hops
        (layerRun twoHops twoHops twoOrigins).2.1.hops :=
  layerRun_mirror _ _ _ (.cons ⟨rfl, rfl⟩ (.cons ⟨rfl, rfl⟩ .nil))
    (fun o ho => by
      simp only [twoOrigins, List.mem_cons, List.mem_singleton, List.not_mem_nil, or_false] at ho
      rcases ho with rfl | rfl <;> decide)
    (by
      unfold twoOrigins FreshRecognized
      split
      · trivial
      · rename_i cell C' h
        have hr := twoHops_recognized
        rw [h] at hr
        refine ⟨fun k hk => ?_, ?_⟩
        · obtain rfl : k = 0 := by simp only at hk; omega
          simp only [Except.toOption, Option.map_some', Option.some.injEq] at hr
          rw [hr]
          decide
        · unfold FreshRecognized
          split
          · trivial
          · exact ⟨fun k hk => absurd hk (Nat.not_lt_zero k), trivial⟩)

/-! ## A coincidental zero `recognized` field -/

/-- The payload a hop passes on after a false match has its digest field
zeroed. The hop whose layer is under it, peeling that layer with the
keystream `k` that added it, sees its plaintext `p` with bytes 5..9 of its
keystream in the digest field instead of its stamp. -/
theorem xor_setDigest_zeroField (k : Keystream) (p : Bytes) (hp : p.length = relayPayloadLen) :
    (k.xor (setDigest (k.xor p).1 zeroField)).1 =
      setDigest p (digestField (keyBytes k.ks k.pos relayPayloadLen)) := by
  have hK : (digestField (keyBytes k.ks k.pos relayPayloadLen)).length = 4 := by
    simp [digestField, relayPayloadLen, maxPayloadLen]
  have hX : (xorBytes p (keyBytes k.ks k.pos relayPayloadLen)).length = relayPayloadLen := by
    simp [hp]
  have hs : (setDigest (xorBytes p (keyBytes k.ks k.pos relayPayloadLen)) zeroField).length =
      relayPayloadLen := by
    rw [setDigest_length _ zeroField (by rw [hX]; decide) rfl, hX]
  simp only [Keystream.xor, hp, hs]
  rw [xorBytes_setDigest _ _ zeroField (by rw [hX]; decide) (by simp; decide) rfl,
    xorBytes_xorBytes _ _ (by simp [hp]), show zeroField = List.replicate 4 0 from rfl, ← hK,
    zeros_xorBytes]

/-- **A false match loses the cell.** On a two-hop circuit mirrored by the
client, a cell the second hop originates is lost when the first hop sees a
zero `recognized` field whose digest check fails: that hop restores its
digest but passes the payload on with the digest field zeroed, so the
origin compares its stamp against its own keystream bytes and, unless they
coincide, the client reports the cell unrecognized. -/
theorem relay_cell_lost_after_false_recognized (C M : Circuit) (c0 c1 m0 m1 : Hop)
    (hC : C.hops = [c0, c1]) (hM : M.hops = [m0, m1]) (h0 : Mirror m0 c0) (h1 : Mirror m1 c1)
    (cmd : UInt8) (sid : UInt16) (data : Bytes) (rnd : Nat → UInt8)
    (hd : data.length ≤ maxRelayDataLen)
    (hrec : recognized (seenAt M.hops (originate cmd sid data rnd [c0] c1).1 0) = 0)
    (hmis : ¬ DigestMatches m0 (seenAt M.hops (originate cmd sid data rnd [c0] c1).1 0))
    (hkey : digestField (keyBytes c1.kf.ks c1.kf.pos relayPayloadLen) ≠
      ((c1.df.write (relayPayload cmd sid zeroField data rnd)).digest).take 4) :
    ∃ cell C', encryptRelayLocked C cmd sid data rnd = .ok (cell, C') ∧
      (decryptRelayLocked M cell).1 = .error "relay cell not recognized at any hop" := by
  refine ⟨_, _, encryptRelayLocked_originate cmd sid data rnd C [c0] c1 hC hd, ?_⟩
  have hE := originate_length cmd sid data rnd [c0] c1 hd
  have hD := RunningDigest.digest_take_length (c1.df.write (relayPayload cmd sid zeroField data rnd))
  have hK : (digestField (keyBytes c1.kf.ks c1.kf.pos relayPayloadLen)).length = 4 := by
    simp [digestField, relayPayloadLen, maxPayloadLen]
  -- hop 0 peels its layer and sees the payload under it
  have hX : (m0.kb.xor (originate cmd sid data rnd [c0] c1).1).1 = (originate cmd sid data rnd [] c1).1 := by
    rw [originate_cons, h0.1, Keystream.xor_xor]
  rw [hM, seenAt, hX] at hrec hmis
  -- hop 1 peels its layer and sees its keystream bytes in the digest field
  have hZ : (m1.kb.xor (setDigest (originate cmd sid data rnd [] c1).1 zeroField)).1 =
      relayPayload cmd sid (digestField (keyBytes c1.kf.ks c1.kf.pos relayPayloadLen)) data rnd := by
    rw [h1.1, show (originate cmd sid data rnd [] c1).1 = (c1.kf.xor (relayPayload cmd sid
      ((c1.df.write (relayPayload cmd sid zeroField data rnd)).digest.take 4) data rnd)).1 from rfl,
      xor_setDigest_zeroField _ _ (relayPayload_length _ _ _ _ _ hD hd), setDigest_relayPayload _ _ _ _ _ _ hD]
  have hm1 : ¬ DigestMatches m1 (relayPayload cmd sid (digestField (keyBytes c1.kf.ks c1.kf.pos relayPayloadLen))
      data rnd) := by
    rwa [DigestMatches, digestField_relayPayload _ _ _ _ _ hK, setDigest_relayPayload _ _ _ _ _ _ hK, h1.2]
  have step0 := decryptLoop_false_match 0 m0 [m1] (originate cmd sid data rnd [c0] c1).1
    (by rw [hX]; exact hrec) (by rw [hX]; exact hmis)
  have step1 := decryptLoop_false_match 1 m1 [] (setDigest (originate cmd sid data rnd [] c1).1 zeroField)
    (by rw [hZ]; exact recognized_relayPayload ..) (by rw [hZ]; exact hm1)
  rw [decryptRelayLocked, if_neg (by simp [hM]), withPayload_payload _ _ hE, hM, step0, hX, step1]
  rfl

set_option maxRecDepth 20000 in
theorem relay_cell_lost_at_second_hop :
    ∃ cell C', encryptRelayLocked ⟨1, [testHop (fun _ => 0), testHop (fun i => if i = 5 then 1 else 0)], 0⟩
        relayData 1 [] (fun _ => 0) = .ok (cell, C') ∧
      (decryptRelayLocked ⟨1, [testHop (fun _ => 0), testHop (fun i => if i = 5 then 1 else 0)], 0⟩
        cell).1 = .error "relay cell not recognized at any hop" :=
  relay_cell_lost_after_false_recognized _ _ _ _ _ _ rfl rfl ⟨rfl, rfl⟩ ⟨rfl, rfl⟩ relayData 1 []
    (fun _ => 0) (by decide) (by decide) (by unfold DigestMatches; decide) (by decide)

end TorGo.L3
