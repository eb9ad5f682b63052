import TorGo.L3Circuit.Relay

/-!
# Circuits on a link (`circuit.go`, `extend.go`, `link.go`)

A `Circuit` reads and writes cells through its `Link`. Here the link is the
byte string still to arrive on the connection (what `Reader.ReadCell`
consumes), the cells written so far (`Writer.WriteCell`, taken to succeed)
and the set of claimed circuit ids. Every operation takes the circuit and
the link and returns its result with both.

The ntor handshake, `aes.NewCipher` and `net.ParseIP(..).To4()` are not
modelled; `Ntor` collects what the circuit code asks of them, and the
random circuit ids are given as the list of values `allocateCircID` draws.

Results:
* `circuit_ignores_circID`: neither `ReceiveRelay` nor `Create` reads a
  cell's circuit id: cells that differ only there give the same results and
  circuit states, over any run of reads;
* `runOps_afterOut`: a run of operations does not depend on what the link
  has written before it;
* `destroy_leaves_circuit`: `Destroy` writes one DESTROY cell and nothing
  else, and a DESTROY cell read by `ReceiveRelay` changes no state, so every
  later operation behaves as on a circuit never destroyed.
-/
namespace TorGo.L3

open TorGo.L1 TorGo.L2

/-- `link.Link`, as the circuit code uses it. -/
structure Link where
  inbound : Bytes
  outbound : List Cell
  circIDs : List UInt32

/-- `Link.ClaimCircID`: false when the id is already in use. -/
def Link.claimCircID (l : Link) (id : UInt32) : Bool × Link :=
  if id ∈ l.circIDs then (false, l) else (true, { l with circIDs := l.circIDs ++ [id] })

/-- `Writer.WriteCell`. -/
def Link.writeCell (l : Link) (c : Cell) : Link := { l with outbound := l.outbound ++ [c] }

/-- `RelayInfo`: the fields the circuit code reads. -/
structure RelayInfo where
  nodeID : Bytes
  ntorOnionKey : Bytes
  address : String
  orPort : UInt16

/-- A client ntor handshake in progress: its 84 bytes of client data and
`Complete`, from the relay's 64 bytes to the key material. -/
structure Handshake where
  clientData : Bytes
  complete : Bytes → Except String Bytes

/-- What the circuit code takes from outside: `net.ParseIP(a).To4()`,
`ntor.NewHandshake` and `initHop`. -/
structure Ntor where
  parseIPv4 : String → Option Bytes
  newHandshake : RelayInfo → Except String Handshake
  initHop : Bytes → Except String Hop

/-! ## Reading and writing relay cells -/

/-- The loop of `ReceiveRelay` over PADDING cells: the first other cell, or
the read error. -/
def readNonPadding (inp : Bytes) : Except String Cell × Bytes :=
  match h : readCell inp with
  | (.error e, r) => (.error e, r)
  | (.ok cell, r) =>
    if cell.command = cmdPadding then
      have := readCell_ok_length h
      readNonPadding r
    else (.ok cell, r)
termination_by inp.length

/-- `Circuit.ReceiveRelay`: PADDING is skipped, DESTROY and any other
non-relay command are errors, RELAY and RELAY_EARLY cells are decrypted. -/
def receiveRelay (c : Circuit) (l : Link) : Except String RelayMsg × Circuit × Link :=
  match readNonPadding l.inbound with
  | (.error e, r) => (.error ("read cell: " ++ e), c, { l with inbound := r })
  | (.ok cell, r) =>
    if cell.command = cmdDestroy then
      (.error ("circuit destroyed by relay (reason=" ++ toString (cell.payload.getD 0 0) ++ ")"), c,
        { l with inbound := r })
    else if cell.command = cmdRelay ∨ cell.command = cmdRelayEarly then
      ((decryptRelayLocked c cell).1, (decryptRelayLocked c cell).2, { l with inbound := r })
    else
      (.error ("unexpected cell command " ++ toString cell.command ++ " on circuit"), c,
        { l with inbound := r })

/-- `n` successive `ReceiveRelay` calls. -/
def receiveRun (c : Circuit) (l : Link) : Nat → List (Except String RelayMsg) × Circuit × Link
  | 0 => ([], c, l)
  | n + 1 =>
    let r := receiveRun (receiveRelay c l).2.1 (receiveRelay c l).2.2 n
    ((receiveRelay c l).1 :: r.1, r.2)

/-- `Circuit.SendRelay`; `rnd` is what `rand.Read` gives the padding. -/
def sendRelay (c : Circuit) (l : Link) (relayCmd : UInt8) (streamID : UInt16) (data : Bytes)
    (rnd : Nat → UInt8) : Except String Unit × Circuit × Link :=
  match encryptRelayLocked c relayCmd streamID data rnd with
  | .error e => (.error ("encrypt relay: " ++ e), c, l)
  | .ok (cell, c') => (.ok (), c', l.writeCell cell)

/-- `Circuit.BackwardDigest`: the last hop's backward digest (`nil` with no
hops). -/
def backwardDigest (c : Circuit) : Bytes :=
  match c.hops.getLast? with
  | none => []
  | some h => h.db.digest

/-- `Circuit.SendRelayEarly`, with its budget of 8. -/
def sendRelayEarly (c : Circuit) (l : Link) (payload : Bytes) : Except String Unit × Circuit × Link :=
  if c.relayEarlySent ≥ maxRelayEarly then
    (.error ("RELAY_EARLY budget exhausted (" ++ toString c.relayEarlySent ++ "/" ++
      toString maxRelayEarly ++ ")"), c, l)
  else
    (.ok (), { c with relayEarlySent := c.relayEarlySent + 1 },
      l.writeCell ((newFixedCell c.id cmdRelayEarly).withPayload payload))

/-- The DESTROY cell `Destroy` sends: reason 0 (NONE). -/
def destroyCell (id : UInt32) : Cell := newFixedCell id cmdDestroy

/-- `Circuit.Destroy`: one DESTROY cell is written; the circuit keeps no
record of it. -/
def destroy (c : Circuit) (l : Link) : Link := l.writeCell (destroyCell c.id)

/-- `Circuit.AddHop`. -/
def addHop (c : Circuit) (h : Hop) : Circuit := { c with hops := c.hops ++ [h] }

/-! ## Forward and backward state -/

/-- A hop's backward state: what decrypting reads and writes. -/
def Hop.back (h : Hop) : Keystream × RunningDigest := (h.kb, h.db)

theorem onionEncrypt_back (p : Bytes) :
    ∀ hs : List Hop, (onionEncrypt hs p).2.map Hop.back = hs.map Hop.back
  | [] => rfl
  | h :: hs => by simp only [onionEncrypt, List.map_cons, onionEncrypt_back p hs]; rfl

theorem updateLast_back (f : Hop → Hop) (hf : ∀ h, (f h).back = h.back) :
    ∀ hs : List Hop, (updateLast f hs).map Hop.back = hs.map Hop.back
  | [] => rfl
  | [h] => by simp [updateLast, hf]
  | h :: h' :: hs => by
    simp only [updateLast, List.map_cons, updateLast_back f hf (h' :: hs)]

/-- Encrypting only moves forward state. -/
theorem encryptRelayLocked_back {c c' : Circuit} {cmd : UInt8} {sid : UInt16} {data : Bytes}
    {rnd : Nat → UInt8} {cell : Cell} (h : encryptRelayLocked c cmd sid data rnd = .ok (cell, c')) :
    c'.hops.map Hop.back = c.hops.map Hop.back := by
  unfold encryptRelayLocked at h
  split at h
  · cases h
  · split_ifs at h
    simp only [Except.ok.injEq, Prod.mk.injEq] at h
    rw [← h.2, onionEncrypt_back]
    apply updateLast_back
    intro _
    rfl

theorem sendRelay_back (c : Circuit) (l : Link) (cmd : UInt8) (sid : UInt16) (data : Bytes)
    (rnd : Nat → UInt8) : (sendRelay c l cmd sid data rnd).2.1.hops.map Hop.back = c.hops.map Hop.back := by
  unfold sendRelay
  split
  · rfl
  · exact encryptRelayLocked_back ‹_›

/-- Decrypting reads only the hops' backward state. -/
theorem decryptLoop_back (p : Bytes) : ∀ (i : Nat) (hs hs' : List Hop), hs.map Hop.back = hs'.map Hop.back →
    (decryptLoop i hs p).1 = (decryptLoop i hs' p).1
  | _, [], [], _ => rfl
  | i, h :: hs, h' :: hs', e => by
    simp only [List.map_cons, List.cons.injEq, Hop.back, Prod.mk.injEq] at e
    obtain ⟨⟨hkb, hdb⟩, e⟩ := e
    simp only [decryptLoop, hkb, hdb]
    split_ifs <;> first | rfl | exact decryptLoop_back _ (i + 1) hs hs' e

theorem receiveRelay_back {c c' : Circuit} (l : Link) (h : c.hops.map Hop.back = c'.hops.map Hop.back) :
    (receiveRelay c l).1 = (receiveRelay c' l).1 ∧ (receiveRelay c l).2.2 = (receiveRelay c' l).2.2 := by
  have hn : c.hops.length = c'.hops.length := by simpa using congrArg List.length h
  unfold receiveRelay
  split
  · exact ⟨rfl, rfl⟩
  · split_ifs
    · exact ⟨rfl, rfl⟩
    · refine ⟨?_, rfl⟩
      simp only [decryptRelayLocked, hn]
      split_ifs
      · rfl
      · exact decryptLoop_back _ 0 _ _ h
    · exact ⟨rfl, rfl⟩

theorem backwardDigest_congr {c c' : Circuit} (h : c.hops.map Hop.back = c'.hops.map Hop.back) :
    backwardDigest c = backwardDigest c' := by
  have hl : c.hops.getLast?.map Hop.back = c'.hops.getLast?.map Hop.back := by
    rw [← List.getLast?_map, ← List.getLast?_map, h]
  unfold backwardDigest
  cases h1 : c.hops.getLast? <;> cases h2 : c'.hops.getLast? <;> simp_all [Hop.back]

/-- Sending leaves the backward digest as it was. -/
theorem backwardDigest_sendRelay (c : Circuit) (l : Link) (cmd : UInt8) (sid : UInt16) (data : Bytes)
    (rnd : Nat → UInt8) : backwardDigest (sendRelay c l cmd sid data rnd).2.1 = backwardDigest c :=
  backwardDigest_congr (sendRelay_back c l cmd sid data rnd)

/-- A circuit with a hop has a backward digest of at least 20 bytes. -/
theorem backwardDigest_length {c : Circuit} (h : c.hops ≠ []) : 20 ≤ (backwardDigest c).length := by
  unfold backwardDigest
  rw [List.getLast?_eq_getLast _ h]
  exact RunningDigest.sum_length _ _

theorem decryptLoop_length (p : Bytes) : ∀ (i : Nat) (hs : List Hop), (decryptLoop i hs p).2.length = hs.length
  | _, [] => rfl
  | i, h :: hs => by
    unfold decryptLoop
    dsimp only
    split_ifs <;> simp [decryptLoop_length]

/-- A relay message is only received through a hop, which the circuit
keeps. -/
theorem receiveRelay_ok_hops {c : Circuit} {l : Link} {m : RelayMsg} (h : (receiveRelay c l).1 = .ok m) :
    (receiveRelay c l).2.1.hops ≠ [] := by
  unfold receiveRelay at h ⊢
  rcases hr : readNonPadding l.inbound with ⟨_ | cell, r⟩ <;> simp only [hr] at h ⊢
  · cases h
  by_cases h1 : cell.command = cmdDestroy
  · simp [h1] at h
  by_cases h2 : cell.command = cmdRelay ∨ cell.command = cmdRelayEarly
  · simp only [h1, h2, if_false, if_true] at h ⊢
    unfold decryptRelayLocked at h ⊢
    by_cases h3 : c.hops.length = 0
    · simp [h3] at h
    · rw [if_neg h3, ← List.length_pos, decryptLoop_length]
      exact Nat.pos_of_ne_zero h3
  · simp [h1, h2] at h

/-! ## Extending and creating -/

def linkSpecIPv4 : UInt8 := 0
def linkSpecRSAID : UInt8 := 2

/-- `buildExtend2Payload`: `NSPEC | specifiers | HTYPE 2 | HLEN 84 | HDATA`,
with an IPv4 specifier when the address parses as one (`ip4`) and always
the RSA identity. -/
def buildExtend2Payload (ip4 : Option Bytes) (info : RelayInfo) (clientData : Bytes) : Bytes :=
  let specs := (match ip4 with
      | some ip => [[linkSpecIPv4, 6] ++ copyInto (List.replicate 4 0) ip ++ putUint16 info.orPort]
      | none => []) ++
    [[linkSpecRSAID, 20] ++ copyInto (List.replicate 20 0) info.nodeID]
  [UInt8.ofNat specs.length] ++ specs.flatten ++ putUint16 2 ++ putUint16 84 ++
    copyInto (List.replicate 84 0) clientData

/-- The tail of `Extend` once EXTENDED2 may have arrived: its checks, the
handshake's completion and the new hop. -/
def finishExtend (ntor : Ntor) (hs : Handshake) :
    Except String RelayMsg × Circuit × Link → Except String Unit × Circuit × Link
  | (.error e, c, l) => (.error ("receive EXTENDED2: " ++ e), c, l)
  | (.ok m, c, l) =>
    if m.cmd ≠ relayExtended2 then
      (.error ("expected EXTENDED2 (15), got relay command " ++ toString m.cmd), c, l)
    else if m.data.length < 2 then
      (.error ("EXTENDED2 too short: " ++ toString m.data.length ++ " bytes"), c, l)
    else if uint16 m.data ≠ 64 then
      (.error ("EXTENDED2 HLEN=" ++ toString (uint16 m.data) ++ ", expected 64"), c, l)
    else if m.data.length < 2 + (uint16 m.data).toNat then
      (.error ("EXTENDED2 truncated: " ++ toString m.data.length ++ " bytes, need " ++
        toString (2 + (uint16 m.data).toNat)), c, l)
    else
      match hs.complete ((m.data.drop 2).take 64) with
      | .error e => (.error ("ntor complete for new hop: " ++ e), c, l)
      | .ok km =>
        match ntor.initHop km with
        | .error e => (.error ("init new hop: " ++ e), c, l)
        | .ok hop => (.ok (), addHop c hop, l)

/-- `Circuit.Extend`. The EXTEND2 relay cell is encrypted before the
RELAY_EARLY budget is checked, so an exhausted budget leaves the forward
streams advanced. -/
def extend (ntor : Ntor) (c : Circuit) (l : Link) (info : RelayInfo) (rnd : Nat → UInt8) :
    Except String Unit × Circuit × Link :=
  match ntor.parseIPv4 info.address with
  | none => (.error ("invalid IPv4 address for relay: " ++ info.address), c, l)
  | some _ =>
    match ntor.newHandshake info with
    | .error e => (.error ("ntor handshake init: " ++ e), c, l)
    | .ok hs =>
      match encryptRelayLocked c relayExtend2 0
          (buildExtend2Payload (ntor.parseIPv4 info.address) info hs.clientData) rnd with
      | .error e => (.error ("encrypt EXTEND2: " ++ e), c, l)
      | .ok (relayCell, c1) =>
        if c1.relayEarlySent ≥ maxRelayEarly then
          (.error ("RELAY_EARLY budget exhausted (" ++ toString c1.relayEarlySent ++ "/" ++
            toString maxRelayEarly ++ ")"), c1, l)
        else
          finishExtend ntor hs (receiveRelay { c1 with relayEarlySent := c1.relayEarlySent + 1 }
            (l.writeCell ((newFixedCell c.id cmdRelayEarly).withPayload relayCell.payload)))

/-- `allocateCircID` on four random bytes read as `v`: the MSB is set. -/
def allocateCircID (v : UInt32) : UInt32 := v ||| 0x80000000

/-- The id loop of `Create`: up to 16 draws, the first one the link accepts. -/
def claimLoop (l : Link) : Nat → List UInt32 → UInt32 × Link
  | 0, _ => (0, l)
  | _, [] => (0, l)
  | n + 1, v :: vs =>
    match l.claimCircID (allocateCircID v) with
    | (true, l') => (allocateCircID v, l')
    | (false, l') => claimLoop l' n vs

/-- The CREATE2 cell: HTYPE 2 (ntor), HLEN 84 and the client data. -/
def create2Cell (id : UInt32) (clientData : Bytes) : Cell :=
  (newFixedCell id cmdCreate2).withPayload
    (putUint16 2 ++ putUint16 84 ++ copyInto (List.replicate 84 0) clientData)

/-- The handling of the response in `Create`. -/
def finishCreate (ntor : Ntor) (hs : Handshake) (id : UInt32) (resp : Cell) :
    Except String Circuit :=
  if resp.command = cmdDestroy then
    .error ("relay sent DESTROY (reason=" ++ toString (resp.payload.getD 0 0) ++ ") instead of CREATED2")
  else if resp.command ≠ cmdCreated2 then
    .error ("expected CREATED2 (11), got command " ++ toString resp.command)
  else if uint16 resp.payload ≠ 64 then
    .error ("CREATED2 HLEN=" ++ toString (uint16 resp.payload) ++ ", expected 64")
  else
    match hs.complete ((resp.payload.drop 2).take 64) with
    | .error e => .error ("ntor complete: " ++ e)
    | .ok km =>
      match ntor.initHop km with
      | .error e => .error ("init hop: " ++ e)
      | .ok hop => .ok ⟨id, [hop], 0⟩

/-- `Create`; `draws` are the values `allocateCircID` reads. -/
def create (ntor : Ntor) (l : Link) (info : RelayInfo) (draws : List UInt32) : Except String Circuit × Link :=
  let (id, l) := claimLoop l 16 draws
  if id = 0 then (.error "failed to allocate unique circuit ID after 16 attempts", l)
  else
    match ntor.newHandshake info with
    | .error e => (.error ("ntor handshake init: " ++ e), l)
    | .ok hs =>
      let l := l.writeCell (create2Cell id hs.clientData)
      match readCell l.inbound with
      | (.error e, r) => (.error ("read CREATED2: " ++ e), { l with inbound := r })
      | (.ok resp, r) => (finishCreate ntor hs id resp, { l with inbound := r })

/-! ## Reading valid cells -/

theorem readNonPadding_unfold (inp : Bytes) :
    readNonPadding inp =
      match readCell inp with
      | (.error e, r) => (.error e, r)
      | (.ok cell, r) => if cell.command = cmdPadding then readNonPadding r else (.ok cell, r) := by
  rw [readNonPadding]
  split <;> rename_i h <;> conv_rhs => rw [h]

/-- `readNonPadding` on a valid cell: skipped when it is PADDING, returned
otherwise. -/
theorem readNonPadding_cons (a : ValidCell) (rest : Bytes) :
    readNonPadding (a.cell.bytes ++ rest) =
      if a.cell.bytes.command = cmdPadding then readNonPadding rest else (.ok a.cell.bytes, rest) := by
  rw [readNonPadding_unfold, readCell_bytes]

/-- The padding loop consumes input. -/
theorem readNonPadding_ok_length (inp : Bytes) :
    ∀ {c : Cell} {r : Bytes}, readNonPadding inp = (.ok c, r) → r.length < inp.length := by
  induction inp using readNonPadding.induct with
  | case1 inp e r h => intro c r' hr; rw [readNonPadding_unfold, h] at hr; cases hr
  | case2 inp cell r h hpad hlen ih =>
    intro c r' hr
    rw [readNonPadding_unfold, h] at hr
    simp only [hpad, if_true] at hr
    have := ih hr
    omega
  | case3 inp cell r h hpad =>
    intro c r' hr
    rw [readNonPadding_unfold, h] at hr
    simp only [hpad, if_false, Prod.mk.injEq] at hr
    obtain ⟨-, rfl⟩ := hr
    have := readCell_ok_length h
    omega

/-- A message returned by `ReceiveRelay` consumed input. -/
theorem receiveRelay_ok_length {c c' : Circuit} {l l' : Link} {m : RelayMsg}
    (h : receiveRelay c l = (.ok m, c', l')) : l'.inbound.length < l.inbound.length := by
  unfold receiveRelay at h
  split at h
  · cases h
  · rename_i cell r hr
    split_ifs at h <;> simp only [Prod.mk.injEq, reduceCtorEq, false_and] at h
    rw [← h.2.2]
    exact readNonPadding_ok_length _ hr

/-- `ReceiveRelay` reads only the link's input, and changes only that. -/
theorem receiveRelay_link (c : Circuit) (l : Link) :
    receiveRelay c l = ((receiveRelay c ⟨l.inbound, [], []⟩).1, (receiveRelay c ⟨l.inbound, [], []⟩).2.1,
      { l with inbound := (receiveRelay c ⟨l.inbound, [], []⟩).2.2.inbound }) := by
  unfold receiveRelay
  dsimp only
  split <;> (try split_ifs) <;> rfl

/-- `ReceiveRelay` on a valid RELAY cell decrypts its payload. -/
theorem receiveRelay_relayCell (c : Circuit) (l : Link) (a : ValidCell) (rest : Bytes)
    (hcmd : a.cell.bytes.command = cmdRelay) :
    receiveRelay c { l with inbound := a.cell.bytes ++ rest } =
      ((decryptRelayLocked c a.cell.bytes).1, (decryptRelayLocked c a.cell.bytes).2,
        { l with inbound := rest }) := by
  rw [receiveRelay]
  dsimp only
  rw [readNonPadding_cons, hcmd, if_neg (by decide)]
  dsimp only
  rw [hcmd, if_neg (by decide), if_pos (.inl rfl)]

/-- `ReceiveRelay` on an exhausted link. -/
theorem receiveRelay_nil (c : Circuit) (l : Link) :
    receiveRelay c { l with inbound := [] } =
      (.error "read cell: read cell header: EOF", c, { l with inbound := [] }) := by
  rw [receiveRelay]
  dsimp only
  rw [readNonPadding_unfold]
  rfl

/-- `SendRelay` succeeds on a circuit with a hop and at most 498 data bytes,
and reads nothing. -/
theorem sendRelay_ok (c : Circuit) (l : Link) (cmd : UInt8) (sid : UInt16) (data : Bytes)
    (rnd : Nat → UInt8) (hc : c.hops ≠ []) (hd : data.length ≤ maxRelayDataLen) :
    (sendRelay c l cmd sid data rnd).1 = .ok () ∧ (sendRelay c l cmd sid data rnd).2.2.inbound = l.inbound := by
  obtain ⟨h, hs⟩ := Option.isSome_iff_exists.mp (List.getLast?_isSome.mpr hc)
  unfold sendRelay encryptRelayLocked
  simp only [hs, gt_iff_lt, not_lt.mpr hd, if_false]
  exact ⟨trivial, rfl⟩

/-- `ReceiveRelay` only reads and decrypts the payload. -/
theorem decryptRelayLocked_congr (c : Circuit) {a b : Cell} (h : a.payload = b.payload) :
    decryptRelayLocked c a = decryptRelayLocked c b := by
  simp only [decryptRelayLocked, h]

/-! ## Circuit ids are not read -/

/-- Two cells that differ at most in their 4-byte circuit id. -/
def SameButCircID (a b : Cell) : Prop := a.drop 4 = b.drop 4

theorem SameButCircID.command {a b : Cell} (h : SameButCircID a b) : a.command = b.command := by
  have key : ∀ c : Cell, c.command = (c.drop 4).getD 0 0 := by
    intro c; simp [Cell.command, List.getD_eq_getElem?_getD]
  rw [key a, key b, h]

theorem SameButCircID.payload {a b : Cell} (h : SameButCircID a b) : a.payload = b.payload := by
  have key : ∀ c : Cell, c.payload = (c.drop 4).drop (c.payloadOff - 4) := by
    intro c
    rw [List.drop_drop, Cell.payload, Cell.payloadOff]
    split <;> rfl
  rw [key a, key b, h, Cell.payloadOff, Cell.payloadOff, h.command]

/-- Two inputs holding the same valid cells up to their circuit ids, then
the same bytes. -/
def SameCellsButCircID (x y : Bytes) : Prop :=
  ∃ (cs ds : List ValidCell) (rest : Bytes),
    List.Forall₂ (fun a b => SameButCircID a.cell.bytes b.cell.bytes) cs ds ∧
      x = (cs.map (·.cell.bytes)).flatten ++ rest ∧ y = (ds.map (·.cell.bytes)).flatten ++ rest

theorem SameCellsButCircID.refl (x : Bytes) : SameCellsButCircID x x := ⟨[], [], x, .nil, rfl, rfl⟩

/-- The padding loop on such inputs returns the same cell up to its id, or
the same error, and leaves such inputs. -/
theorem readNonPadding_sameBut {x y : Bytes} (h : SameCellsButCircID x y) :
    (readNonPadding x).1.map (·.drop 4) = (readNonPadding y).1.map (·.drop 4) ∧
      SameCellsButCircID (readNonPadding x).2 (readNonPadding y).2 := by
  obtain ⟨cs, ds, rest, hF, rfl, rfl⟩ := h
  induction hF with
  | nil => exact ⟨rfl, .refl _⟩
  | @cons a b cs ds hab _ ih =>
    simp only [List.map_cons, List.flatten_cons, List.append_assoc, readNonPadding_cons,
      hab.command]
    split
    · exact ih
    · exact ⟨congrArg Except.ok hab, _, _, _, ‹List.Forall₂ _ cs ds›, rfl, rfl⟩

/-- One `ReceiveRelay` on such inputs: the same result and circuit, and such
inputs left. -/
theorem receiveRelay_sameBut (c : Circuit) (l : Link) {x y : Bytes} (h : SameCellsButCircID x y) :
    (receiveRelay c { l with inbound := x }).1 = (receiveRelay c { l with inbound := y }).1 ∧
      (receiveRelay c { l with inbound := x }).2.1 = (receiveRelay c { l with inbound := y }).2.1 ∧
      ∃ x' y', SameCellsButCircID x' y' ∧ (receiveRelay c { l with inbound := x }).2.2 =
        { l with inbound := x' } ∧ (receiveRelay c { l with inbound := y }).2.2 = { l with inbound := y' } := by
  obtain ⟨hm, hr⟩ := readNonPadding_sameBut h
  unfold receiveRelay
  dsimp only
  generalize readNonPadding x = px at hm hr
  generalize readNonPadding y = py at hm hr
  rcases px with ⟨ex | a, rx⟩ <;> rcases py with ⟨ey | b, ry⟩ <;>
    simp only [Except.map, Except.error.injEq, Except.ok.injEq, reduceCtorEq] at hm
  · subst hm; exact ⟨rfl, rfl, rx, ry, hr, rfl, rfl⟩
  · have hab : SameButCircID a b := hm
    simp only [hab.command, hab.payload, decryptRelayLocked_congr c hab.payload]
    split_ifs <;> exact ⟨rfl, rfl, rx, ry, hr, rfl, rfl⟩


/-- **Runs of reads.** Inputs holding the same cells up to their circuit ids
give the same messages and errors and the same circuit states. -/
theorem receiveRun_sameBut (n : Nat) :
    ∀ (c : Circuit) (l : Link) {x y : Bytes}, SameCellsButCircID x y →
      (receiveRun c { l with inbound := x } n).1 = (receiveRun c { l with inbound := y } n).1 ∧
        (receiveRun c { l with inbound := x } n).2.1 = (receiveRun c { l with inbound := y } n).2.1 := by
  induction n with
  | zero => exact fun _ _ _ _ _ => ⟨rfl, rfl⟩
  | succ n ih =>
    intro c l x y h
    obtain ⟨h1, h2, x', y', h', hx, hy⟩ := receiveRelay_sameBut c l h
    obtain ⟨ih1, ih2⟩ := ih (receiveRelay c { l with inbound := y }).2.1 l h'
    simp only [receiveRun, hx, hy, h1, h2, ih1, ih2, and_self]

/-- The id loop leaves the link's input alone. -/
theorem claimLoop_inbound (x : Bytes) : ∀ (l : Link) (n : Nat) (vs : List UInt32),
    claimLoop { l with inbound := x } n vs =
      ((claimLoop l n vs).1, { (claimLoop l n vs).2 with inbound := x })
  | _, 0, vs => by cases vs <;> rfl
  | _, _ + 1, [] => rfl
  | l, n + 1, v :: vs => by
    simp only [claimLoop, Link.claimCircID]
    split_ifs
    · exact claimLoop_inbound x l n vs
    · rfl

theorem finishCreate_congr (ntor : Ntor) (hs : Handshake) (id : UInt32) {a b : Cell}
    (h : SameButCircID a b) : finishCreate ntor hs id a = finishCreate ntor hs id b := by
  simp only [finishCreate, h.command, h.payload]

/-- `Create` reads one cell and not its circuit id. -/
theorem create_sameBut (ntor : Ntor) (l : Link) (info : RelayInfo) (draws : List UInt32)
    {a b : ValidCell} (h : SameButCircID a.cell.bytes b.cell.bytes) (rest : Bytes) :
    (create ntor { l with inbound := a.cell.bytes ++ rest } info draws).1 =
      (create ntor { l with inbound := b.cell.bytes ++ rest } info draws).1 := by
  simp only [create, claimLoop_inbound, Link.writeCell, readCell_bytes, finishCreate_congr ntor _ _ h]
  split_ifs
  · rfl
  · split <;> rfl

/-- **Circuit ids.** `Create` and `ReceiveRelay` act on the cells arriving on
the link whatever circuit ids they carry: a response that differs only in
its id gives the same `Create` outcome, and over any run of `ReceiveRelay`
calls, cells that differ only in their ids give the same messages, errors
and circuit states. -/
theorem circuit_ignores_circID (ntor : Ntor) (c : Circuit) (l : Link) :
    (∀ (info : RelayInfo) (draws : List UInt32) (a b : ValidCell) (rest : Bytes),
      SameButCircID a.cell.bytes b.cell.bytes →
        (create ntor { l with inbound := a.cell.bytes ++ rest } info draws).1 =
          (create ntor { l with inbound := b.cell.bytes ++ rest } info draws).1) ∧
    (∀ (cs ds : List ValidCell) (rest : Bytes) (n : Nat),
      List.Forall₂ (fun a b => SameButCircID a.cell.bytes b.cell.bytes) cs ds →
        (receiveRun c { l with inbound := (cs.map (·.cell.bytes)).flatten ++ rest } n).1 =
          (receiveRun c { l with inbound := (ds.map (·.cell.bytes)).flatten ++ rest } n).1 ∧
        (receiveRun c { l with inbound := (cs.map (·.cell.bytes)).flatten ++ rest } n).2.1 =
          (receiveRun c { l with inbound := (ds.map (·.cell.bytes)).flatten ++ rest } n).2.1) :=
  ⟨fun info draws _ _ rest h => create_sameBut ntor l info draws h rest,
    fun _ _ rest n h => receiveRun_sameBut n c l ⟨_, _, rest, h, rfl, rfl⟩⟩

/-- A relay cell for circuit `id` with relay command `cmd`, stream `sid` and
no data, as a hop with zero keystream and zero digests originates it. -/
def testRelayCell (id : UInt32) (cmd : UInt8) (sid : UInt16) : ValidCell :=
  ⟨.fixed id cmdRelay (relayPayload cmd sid zeroField [] (fun _ => 0)), rfl,
    relayPayload_length _ _ _ _ _ rfl (by decide)⟩

theorem circuit_ignores_circID_relay_cell :
    (receiveRun ⟨0x80000001, [testHop (fun _ => 0)], 0⟩
        ⟨([testRelayCell 0x80000001 relayData 1].map (·.cell.bytes)).flatten ++ [], [], []⟩ 1).1 =
      (receiveRun ⟨0x80000001, [testHop (fun _ => 0)], 0⟩
        ⟨([testRelayCell 0x80000002 relayData 1].map (·.cell.bytes)).flatten ++ [], [], []⟩ 1).1 ∧
    (receiveRun ⟨0x80000001, [testHop (fun _ => 0)], 0⟩
        ⟨([testRelayCell 0x80000001 relayData 1].map (·.cell.bytes)).flatten ++ [], [], []⟩ 1).2.1 =
      (receiveRun ⟨0x80000001, [testHop (fun _ => 0)], 0⟩
        ⟨([testRelayCell 0x80000002 relayData 1].map (·.cell.bytes)).flatten ++ [], [], []⟩ 1).2.1 :=
  (circuit_ignores_circID ⟨fun _ => none, fun _ => .error "", fun _ => .error ""⟩
    ⟨0x80000001, [testHop (fun _ => 0)], 0⟩ ⟨[], [], []⟩).2 [testRelayCell 0x80000001 relayData 1]
    [testRelayCell 0x80000002 relayData 1] [] 1 (.cons rfl .nil)

set_option maxRecDepth 20000 in
/-- A RELAY cell addressed to circuit `0x80000002` is decrypted with the keys
of circuit `0x80000001` and returned as its message. -/
theorem other_circuit_cell_returned :
    (testRelayCell 0x80000002 relayData 1).cell.bytes.circID ≠ (0x80000001 : UInt32) ∧
      (receiveRelay ⟨0x80000001, [testHop (fun _ => 0)], 0⟩
        ⟨(testRelayCell 0x80000002 relayData 1).cell.bytes, [], []⟩).1 = .ok ⟨0, relayData, 1, []⟩ := by
  have h := readNonPadding_cons (testRelayCell 0x80000002 relayData 1) []
  rw [List.append_nil] at h
  refine ⟨by decide, ?_⟩
  rw [receiveRelay]
  dsimp only
  rw [h]
  rfl

/-! ## Operations, runs and `Destroy` -/

/-- The operations the circuit's owner performs on it. -/
inductive CircOp where
  | sendRelay (relayCmd : UInt8) (streamID : UInt16) (data : Bytes) (rnd : Nat → UInt8)
  | receiveRelay
  | sendRelayEarly (payload : Bytes)
  | extend (info : RelayInfo) (rnd : Nat → UInt8)
  | destroy
  | addHop (h : Hop)

/-- One operation: its result (with the message `ReceiveRelay` returns),
the circuit and the link. -/
def applyOp (ntor : Ntor) (c : Circuit) (l : Link) :
    CircOp → Except String (Option RelayMsg) × Circuit × Link
  | .sendRelay cmd sid data rnd =>
    ((sendRelay c l cmd sid data rnd).1.map fun _ => none, (sendRelay c l cmd sid data rnd).2)
  | .receiveRelay => ((receiveRelay c l).1.map some, (receiveRelay c l).2)
  | .sendRelayEarly p => ((sendRelayEarly c l p).1.map fun _ => none, (sendRelayEarly c l p).2)
  | .extend info rnd => ((extend ntor c l info rnd).1.map fun _ => none, (extend ntor c l info rnd).2)
  | .destroy => (.ok none, c, destroy c l)
  | .addHop h => (.ok none, addHop c h, l)

/-- A run of operations, from the circuit and link given. -/
def runOps (ntor : Ntor) : List CircOp → Circuit → Link →
    List (Except String (Option RelayMsg)) × Circuit × Link
  | [], c, l => ([], c, l)
  | op :: ops, c, l =>
    let r := runOps ntor ops (applyOp ntor c l op).2.1 (applyOp ntor c l op).2.2
    ((applyOp ntor c l op).1 :: r.1, r.2)

/-- The link with the cells `o` written before everything it has written. -/
def Link.afterOut (o : List Cell) (l : Link) : Link := { l with outbound := o ++ l.outbound }

@[simp] theorem Link.writeCell_afterOut (o : List Cell) (l : Link) (x : Cell) :
    (l.afterOut o).writeCell x = (l.writeCell x).afterOut o := by
  simp [Link.writeCell, Link.afterOut]

section Frame

variable (ntor : Ntor) (c : Circuit) (l : Link) (o : List Cell)

/-- What was written before does not matter to `ReceiveRelay`. -/
theorem receiveRelay_afterOut :
    receiveRelay c (l.afterOut o) =
      ((receiveRelay c l).1, (receiveRelay c l).2.1, (receiveRelay c l).2.2.afterOut o) := by
  unfold receiveRelay Link.afterOut
  dsimp only
  split <;> (try split_ifs) <;> rfl

theorem sendRelay_afterOut (cmd : UInt8) (sid : UInt16) (data : Bytes) (rnd : Nat → UInt8) :
    sendRelay c (l.afterOut o) cmd sid data rnd =
      ((sendRelay c l cmd sid data rnd).1, (sendRelay c l cmd sid data rnd).2.1,
        (sendRelay c l cmd sid data rnd).2.2.afterOut o) := by
  unfold sendRelay
  split <;> simp

theorem sendRelayEarly_afterOut (p : Bytes) :
    sendRelayEarly c (l.afterOut o) p =
      ((sendRelayEarly c l p).1, (sendRelayEarly c l p).2.1, (sendRelayEarly c l p).2.2.afterOut o) := by
  unfold sendRelayEarly
  split_ifs <;> simp

theorem finishExtend_afterOut (hs : Handshake) (r : Except String RelayMsg × Circuit × Link) :
    finishExtend ntor hs (r.1, r.2.1, r.2.2.afterOut o) =
      ((finishExtend ntor hs r).1, (finishExtend ntor hs r).2.1, (finishExtend ntor hs r).2.2.afterOut o) := by
  obtain ⟨_ | m, c, l⟩ := r
  · rfl
  · simp only [finishExtend]
    split_ifs
    all_goals (try rfl)
    split
    · rfl
    · split <;> rfl

theorem extend_afterOut (info : RelayInfo) (rnd : Nat → UInt8) :
    extend ntor c (l.afterOut o) info rnd =
      ((extend ntor c l info rnd).1, (extend ntor c l info rnd).2.1,
        (extend ntor c l info rnd).2.2.afterOut o) := by
  unfold extend
  split
  · rfl
  · split
    · rfl
    · split
      · rfl
      · split_ifs
        · rfl
        · rw [Link.writeCell_afterOut, receiveRelay_afterOut, finishExtend_afterOut]

theorem apply_afterOut (op : CircOp) :
    applyOp ntor c (l.afterOut o) op =
      ((applyOp ntor c l op).1, (applyOp ntor c l op).2.1, (applyOp ntor c l op).2.2.afterOut o) := by
  cases op <;> simp only [applyOp, receiveRelay_afterOut, sendRelay_afterOut,
    sendRelayEarly_afterOut, extend_afterOut, destroy, Link.writeCell_afterOut]

end Frame

/-- **Runs.** Every run goes the same way whatever the link had written
before it. -/
theorem runOps_afterOut (ntor : Ntor) (o : List Cell) :
    ∀ (ops : List CircOp) (c : Circuit) (l : Link),
      runOps ntor ops c (l.afterOut o) =
        ((runOps ntor ops c l).1, (runOps ntor ops c l).2.1, (runOps ntor ops c l).2.2.afterOut o)
  | [], _, _ => rfl
  | op :: ops, c, l => by
    simp only [runOps, apply_afterOut, runOps_afterOut ntor o ops]

/-- **`Destroy`.** Neither `Destroy` nor a DESTROY cell read by
`ReceiveRelay` changes the circuit. `Destroy` writes one DESTROY cell, after
which any run of operations has the results, circuit states and link
traffic it has without it; `ReceiveRelay` on a DESTROY cell reports it and
leaves the circuit, and the link after the cell, as they were. -/
theorem destroy_leaves_circuit (ntor : Ntor) (c : Circuit) (l : Link) :
    (∀ ops : List CircOp, ∃ w, (runOps ntor ops c l).2.2.outbound = l.outbound ++ w ∧
      runOps ntor ops c (destroy c l) = ((runOps ntor ops c l).1, (runOps ntor ops c l).2.1,
        { (runOps ntor ops c l).2.2 with outbound := l.outbound ++ destroyCell c.id :: w })) ∧
    (∀ (id : UInt32) (p rest : Bytes), p.length = maxPayloadLen →
      receiveRelay c { l with inbound := (WireCell.fixed id cmdDestroy p).bytes ++ rest } =
        (.error ("circuit destroyed by relay (reason=" ++ toString (p.getD 0 0) ++ ")"), c,
          { l with inbound := rest })) := by
  obtain ⟨inb, out, ids⟩ := l
  refine ⟨fun ops => ?_, fun id p rest hp => ?_⟩
  · have h1 : Link.mk inb out ids = Link.afterOut out ⟨inb, [], ids⟩ := by simp [Link.afterOut]
    have h2 : destroy c ⟨inb, out, ids⟩ = Link.afterOut (out ++ [destroyCell c.id]) ⟨inb, [], ids⟩ := by
      simp [destroy, Link.writeCell, Link.afterOut]
    refine ⟨(runOps ntor ops c ⟨inb, [], ids⟩).2.2.outbound, by rw [h1, runOps_afterOut]; simp [Link.afterOut], ?_⟩
    rw [h2, h1, runOps_afterOut, runOps_afterOut]
    simp [Link.afterOut]
  · have hc := fixed_command id cmdDestroy p rfl hp
    rw [receiveRelay]
    dsimp only
    rw [readNonPadding_cons ⟨.fixed id cmdDestroy p, rfl, hp⟩ rest, hc,
      if_neg (by decide : cmdDestroy ≠ cmdPadding)]
    simp only [hc, if_true, fixed_payload id cmdDestroy p rfl hp]

theorem destroy_received_on_test_circuit :
    receiveRelay ⟨0x80000001, [testHop (fun _ => 0)], 0⟩
        ⟨(WireCell.fixed 0x80000001 cmdDestroy (List.replicate 509 0)).bytes ++ [], [], []⟩ =
      (.error ("circuit destroyed by relay (reason=" ++ toString ((List.replicate 509 0 : Bytes).getD 0 0) ++
        ")"), ⟨0x80000001, [testHop (fun _ => 0)], 0⟩, ⟨[], [], []⟩) :=
  (destroy_leaves_circuit ⟨fun _ => none, fun _ => .error "", fun _ => .error ""⟩
    ⟨0x80000001, [testHop (fun _ => 0)], 0⟩ ⟨[], [], []⟩).2 0x80000001 (List.replicate 509 0) []
    (List.length_replicate _ _)

set_option maxRecDepth 20000 in
/-- After `Destroy`, `SendRelay` on the same circuit still succeeds and
writes a RELAY cell behind the DESTROY. -/
theorem sendRelay_after_destroy :
    (sendRelay ⟨0x80000001, [testHop (fun _ => 0)], 0⟩
        (destroy ⟨0x80000001, [testHop (fun _ => 0)], 0⟩ ⟨[], [], []⟩) relayData 1 [] (fun _ => 0)).1 =
        .ok () ∧
      ((sendRelay ⟨0x80000001, [testHop (fun _ => 0)], 0⟩
        (destroy ⟨0x80000001, [testHop (fun _ => 0)], 0⟩ ⟨[], [], []⟩) relayData 1 [] (fun _ => 0)).2.2.outbound.map
          Cell.command) = [cmdDestroy, cmdRelay] :=
  ⟨rfl, by decide⟩

end TorGo.L3
