import TorGo.L3Circuit.Circuit
import TorGo.L3Circuit.Layering

/-!
# The RELAY_EARLY budget (`Circuit.SendRelayEarly`, `Circuit.Extend`)

A circuit may send at most `MaxRelayEarly = 8` RELAY_EARLY cells;
`SendRelayEarly` and `Extend` count them in `RelayEarlySent`.
`SendRelayEarly` checks the budget before it touches anything. `Extend`
encrypts the EXTEND2 relay cell first and checks the budget after, and on
the error path it keeps the circuit the encryption returned.

Results:
* `runOps_budget`: over every run of circuit operations, `RelayEarlySent`
  grows by exactly the number of RELAY_EARLY cells written, and never
  passes 8 unless it started above;
* `sendRelayEarly_exhausted`: a rejected `SendRelayEarly` writes nothing and
  leaves the circuit as it was;
* `extend_rejected_moves_forward_state`: a rejected `Extend` writes nothing
  and keeps the counter, but every hop's forward keystream has moved on by
  a cell and the last hop's forward digest has absorbed the EXTEND2
  plaintext, so the client's forward state is no longer the relays'.
-/
namespace TorGo.L3

open TorGo.L1 TorGo.L2

/-- The RELAY_EARLY cells a link has written. -/
def earlyCells (l : Link) : Nat := l.outbound.countP fun x => x.command = cmdRelayEarly

@[simp] theorem earlyCells_writeCell (l : Link) (x : Cell) :
    earlyCells (l.writeCell x) = earlyCells l + if x.command = cmdRelayEarly then 1 else 0 := by
  by_cases h : x.command = cmdRelayEarly <;> simp [earlyCells, Link.writeCell, List.countP_append, h]

theorem relayEarlyCell_command (id : UInt32) (p : Bytes) :
    ((newFixedCell id cmdRelayEarly).withPayload p).command = cmdRelayEarly := rfl

theorem relayCell_command (id : UInt32) (p : Bytes) :
    ((newFixedCell id cmdRelay).withPayload p).command = cmdRelay := rfl

/-! ## What each operation does to the budget -/

section Steps

variable (ntor : Ntor) (c : Circuit) (l : Link)

theorem receiveRelay_budget :
    (receiveRelay c l).2.1.relayEarlySent = c.relayEarlySent ∧ (receiveRelay c l).2.2.outbound = l.outbound := by
  unfold receiveRelay
  split
  · exact ⟨rfl, rfl⟩
  · split_ifs
    · exact ⟨rfl, rfl⟩
    · simp only [decryptRelayLocked]; split_ifs <;> simp
    · exact ⟨rfl, rfl⟩

theorem encryptRelayLocked_relayEarlySent {cmd : UInt8} {sid : UInt16} {data : Bytes} {rnd : Nat → UInt8}
    {cell : Cell} {c' : Circuit} (h : encryptRelayLocked c cmd sid data rnd = .ok (cell, c')) :
    c'.relayEarlySent = c.relayEarlySent ∧ cell.command = cmdRelay := by
  unfold encryptRelayLocked at h
  split at h
  · cases h
  · split_ifs at h
    cases h
    exact ⟨rfl, relayCell_command _ _⟩

theorem sendRelay_budget (cmd : UInt8) (sid : UInt16) (data : Bytes) (rnd : Nat → UInt8) :
    (sendRelay c l cmd sid data rnd).2.1.relayEarlySent = c.relayEarlySent ∧
      earlyCells (sendRelay c l cmd sid data rnd).2.2 = earlyCells l := by
  unfold sendRelay
  split
  · exact ⟨rfl, rfl⟩
  · obtain ⟨h1, h2⟩ := encryptRelayLocked_relayEarlySent c ‹_›
    simp [h1, h2, cmdRelay, cmdRelayEarly]

theorem finishExtend_budget (hs : Handshake) (r : Except String RelayMsg × Circuit × Link) :
    (finishExtend ntor hs r).2.1.relayEarlySent = r.2.1.relayEarlySent ∧ (finishExtend ntor hs r).2.2 = r.2.2 := by
  obtain ⟨_ | m, c, l⟩ := r
  · exact ⟨rfl, rfl⟩
  · simp only [finishExtend]
    split_ifs
    all_goals (try exact ⟨rfl, rfl⟩)
    split
    · exact ⟨rfl, rfl⟩
    · split <;> exact ⟨rfl, rfl⟩

/-- `Extend` adds one to the counter exactly when it writes its RELAY_EARLY
cell, which it does only below the budget. -/
theorem extend_budget (info : RelayInfo) (rnd : Nat → UInt8) :
    (extend ntor c l info rnd).2.1.relayEarlySent + earlyCells l =
        c.relayEarlySent + earlyCells (extend ntor c l info rnd).2.2 ∧
      (c.relayEarlySent ≤ maxRelayEarly → (extend ntor c l info rnd).2.1.relayEarlySent ≤ maxRelayEarly) := by
  unfold extend
  split
  · exact ⟨rfl, id⟩
  · split
    · exact ⟨rfl, id⟩
    · split
      · exact ⟨rfl, id⟩
      · rename_i cell c1 hen
        have h1 := (encryptRelayLocked_relayEarlySent c hen).1
        split_ifs with hb
        · exact ⟨by rw [h1], fun h => h1 ▸ h⟩
        · obtain ⟨f1, f2⟩ := finishExtend_budget ntor _ (receiveRelay { c1 with relayEarlySent := c1.relayEarlySent + 1 }
            (l.writeCell ((newFixedCell c.id cmdRelayEarly).withPayload cell.payload)))
          obtain ⟨r1, r2⟩ := receiveRelay_budget { c1 with relayEarlySent := c1.relayEarlySent + 1 }
            (l.writeCell ((newFixedCell c.id cmdRelayEarly).withPayload cell.payload))
          have e : earlyCells (receiveRelay { c1 with relayEarlySent := c1.relayEarlySent + 1 }
              (l.writeCell ((newFixedCell c.id cmdRelayEarly).withPayload cell.payload))).2.2 = earlyCells l + 1 := by
            rw [earlyCells, r2, ← earlyCells, earlyCells_writeCell, relayEarlyCell_command, if_pos rfl]
          rw [f1, f2, r1, e]
          dsimp only
          omega

theorem sendRelayEarly_budget (p : Bytes) :
    (sendRelayEarly c l p).2.1.relayEarlySent + earlyCells l = c.relayEarlySent + earlyCells (sendRelayEarly c l p).2.2 ∧
      (c.relayEarlySent ≤ maxRelayEarly → (sendRelayEarly c l p).2.1.relayEarlySent ≤ maxRelayEarly) := by
  unfold sendRelayEarly
  split_ifs with h
  · exact ⟨rfl, id⟩
  · rw [earlyCells_writeCell, relayEarlyCell_command, if_pos rfl]
    dsimp only
    omega

/-- One operation keeps the books of the budget. -/
theorem applyOp_budget (op : CircOp) :
    (applyOp ntor c l op).2.1.relayEarlySent + earlyCells l =
        c.relayEarlySent + earlyCells (applyOp ntor c l op).2.2 ∧
      (c.relayEarlySent ≤ maxRelayEarly → (applyOp ntor c l op).2.1.relayEarlySent ≤ maxRelayEarly) := by
  cases op with
  | sendRelay cmd sid data rnd =>
    obtain ⟨h1, h2⟩ := sendRelay_budget c l cmd sid data rnd
    exact ⟨by simp only [applyOp, h1, h2], fun h => by simp only [applyOp, h1, h]⟩
  | receiveRelay =>
    obtain ⟨h1, h2⟩ := receiveRelay_budget c l
    exact ⟨by simp only [applyOp, h1, earlyCells, h2], fun h => by simp only [applyOp, h1, h]⟩
  | sendRelayEarly p => exact sendRelayEarly_budget c l p
  | extend info rnd => exact extend_budget ntor c l info rnd
  | destroy =>
    have h : (destroyCell c.id).command = cmdDestroy := rfl
    simp [applyOp, destroy, h, cmdDestroy, cmdRelayEarly]
  | addHop h => exact ⟨rfl, id⟩

end Steps

/-- **The budget over runs.** Over every run of circuit operations the
counter grows by exactly the number of RELAY_EARLY cells written, and stays
at most 8 when it starts so. -/
theorem runOps_budget (ntor : Ntor) :
    ∀ (ops : List CircOp) (c : Circuit) (l : Link),
      (runOps ntor ops c l).2.1.relayEarlySent + earlyCells l =
          c.relayEarlySent + earlyCells (runOps ntor ops c l).2.2 ∧
        (c.relayEarlySent ≤ maxRelayEarly → (runOps ntor ops c l).2.1.relayEarlySent ≤ maxRelayEarly)
  | [], c, l => ⟨rfl, id⟩
  | op :: ops, c, l => by
    obtain ⟨h1, h2⟩ := applyOp_budget ntor c l op
    obtain ⟨r1, r2⟩ := runOps_budget ntor ops (applyOp ntor c l op).2.1 (applyOp ntor c l op).2.2
    simp only [runOps]
    constructor <;> omega

/-- A `SendRelayEarly` over the budget writes nothing and changes nothing. -/
theorem sendRelayEarly_exhausted (c : Circuit) (l : Link) (p : Bytes) (h : maxRelayEarly ≤ c.relayEarlySent) :
    sendRelayEarly c l p = (.error ("RELAY_EARLY budget exhausted (" ++ toString c.relayEarlySent ++ "/" ++
      toString maxRelayEarly ++ ")"), c, l) := by
  rw [sendRelayEarly, if_pos h]

/-! ## A rejected `Extend` -/

/-- Encryption moves every hop's forward keystream by the payload's length. -/
theorem onionEncrypt_pos (p : Bytes) :
    ∀ hs : List Hop, (onionEncrypt hs p).2.map (fun h => h.kf.pos) = hs.map (fun h => h.kf.pos + p.length)
  | [] => rfl
  | h :: hs => by
    simp only [onionEncrypt, List.map_cons, Keystream.xor_pos, (onionEncrypt_length p hs).1,
      onionEncrypt_pos p hs]

/-- Encryption leaves the forward digests alone. -/
theorem onionEncrypt_df (p : Bytes) : ∀ hs : List Hop, (onionEncrypt hs p).2.map Hop.df = hs.map Hop.df
  | [] => rfl
  | h :: hs => by simp only [onionEncrypt, List.map_cons, onionEncrypt_df p hs]

theorem buildExtend2Payload_length (ip4 : Option Bytes) (info : RelayInfo) (clientData : Bytes) :
    (buildExtend2Payload ip4 info clientData).length ≤ maxRelayDataLen := by
  cases ip4 <;> simp [buildExtend2Payload, maxRelayDataLen]

/-- **A rejected `Extend` is not atomic.** On a circuit over its RELAY_EARLY
budget, an `Extend` whose address and handshake are fine fails with the
budget error, writes nothing and keeps the counter; but the EXTEND2 cell has
been encrypted: every hop's forward keystream has moved on by a cell and
the last hop's forward digest has absorbed the EXTEND2 plaintext, none of
which reached the relays. -/
theorem extend_rejected_moves_forward_state (ntor : Ntor) (c : Circuit) (l : Link) (info : RelayInfo)
    (rnd : Nat → UInt8) (ip : Bytes) (hs : Handshake) (cs : List Hop) (last : Hop)
    (hc : c.hops = cs ++ [last]) (hb : maxRelayEarly ≤ c.relayEarlySent)
    (hip : ntor.parseIPv4 info.address = some ip) (hh : ntor.newHandshake info = .ok hs) :
    let r := extend ntor c l info rnd
    r.1 = .error ("RELAY_EARLY budget exhausted (" ++ toString c.relayEarlySent ++ "/" ++
        toString maxRelayEarly ++ ")") ∧
      r.2.2 = l ∧ r.2.1.relayEarlySent = c.relayEarlySent ∧
      r.2.1.hops.map (fun h => h.kf.pos) = c.hops.map (fun h => h.kf.pos + relayPayloadLen) ∧
      r.2.1.hops.map (fun h => h.df.absorbed) = cs.map (fun h => h.df.absorbed) ++
        [last.df.absorbed ++ relayPayload relayExtend2 0 zeroField
          (buildExtend2Payload (some ip) info hs.clientData) rnd] := by
  have hd := buildExtend2Payload_length (some ip) info hs.clientData
  have he := encryptRelayLocked_originate relayExtend2 0 _ rnd c cs last hc hd
  have hlen := originate_length relayExtend2 0 _ rnd cs last hd
  simp only [extend, hip, hh, he, ge_iff_le, hb, if_true, true_and]
  refine ⟨?_, ?_⟩
  · rw [originate, onionEncrypt_pos, hc, relayPayload_length _ _ _ _ _ (RunningDigest.digest_take_length _) hd]
    simp
  · have hdf := congrArg (List.map RunningDigest.absorbed) (onionEncrypt_df
      (relayPayload relayExtend2 0 (((last.df.write (relayPayload relayExtend2 0 zeroField
        (buildExtend2Payload (some ip) info hs.clientData) rnd))).digest.take 4)
        (buildExtend2Payload (some ip) info hs.clientData) rnd)
      (cs ++ [{ last with df := last.df.write (relayPayload relayExtend2 0 zeroField
        (buildExtend2Payload (some ip) info hs.clientData) rnd) }]))
    simp only [List.map_map] at hdf
    rw [originate]
    simpa using hdf

/-- Circuit operations whose address parser reads every address as
127.0.0.1 and whose handshakes never complete: enough to reach the budget
check of `Extend`. -/
def loopbackNtor : Ntor :=
  ⟨fun _ => some [127, 0, 0, 1], fun _ => .ok ⟨List.replicate 84 0, fun _ => .error "no answer"⟩,
    fun _ => .error "no hop"⟩

theorem extend_rejected_on_spent_circuit :
    (⟨1, [testHop fun _ => 0], 8⟩ : Circuit).hops = [] ++ [testHop fun _ => 0] ∧
      maxRelayEarly ≤ (⟨1, [testHop fun _ => 0], 8⟩ : Circuit).relayEarlySent ∧
      loopbackNtor.parseIPv4 "127.0.0.1" = some [127, 0, 0, 1] ∧
      loopbackNtor.newHandshake ⟨List.replicate 20 1, List.replicate 32 2, "127.0.0.1", 9001⟩ =
        .ok ⟨List.replicate 84 0, fun _ => .error "no answer"⟩ ∧
      (extend loopbackNtor ⟨1, [testHop fun _ => 0], 8⟩ ⟨[], [], []⟩
          ⟨List.replicate 20 1, List.replicate 32 2, "127.0.0.1", 9001⟩ fun _ => 0).2.1.hops.map
          (fun h => h.kf.pos) =
        (⟨1, [testHop fun _ => 0], 8⟩ : Circuit).hops.map (fun h => h.kf.pos + relayPayloadLen) :=
  ⟨rfl, Nat.le_refl _, rfl, rfl,
    (extend_rejected_moves_forward_state loopbackNtor ⟨1, [testHop fun _ => 0], 8⟩ ⟨[], [], []⟩
      ⟨List.replicate 20 1, List.replicate 32 2, "127.0.0.1", 9001⟩ (fun _ => 0) [127, 0, 0, 1]
      ⟨List.replicate 84 0, fun _ => .error "no answer"⟩ [] (testHop fun _ => 0) rfl (Nat.le_refl _) rfl
      rfl).2.2.2.1⟩

end TorGo.L3
