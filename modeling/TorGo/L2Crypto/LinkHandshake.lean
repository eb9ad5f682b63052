import TorGo.L2Crypto.LinkCerts
import TorGo.L1Encoding.Cell

/-!
# The link handshake (`link.Handshake`)

`Handshake` (`src/unnamed/part_017:58-180`) opens a link to a relay. After
TLS it writes a VERSIONS cell offering 4 and 5 and then reads, on the
relay's byte stream:

1. the relay's VERSIONS cell (`ReadVersionsCell`); `negotiateVersion` picks
   the highest version both offer, and `0` ends the handshake;
2. a CERTS cell, whose payload `validateCerts` checks against the SHA-256 of
   the relay's TLS certificate, giving the relay's Ed25519 identity;
3. an AUTH_CHALLENGE cell, discarded;
4. a NETINFO cell;

each of 2-4 through `readExpectedCell`, which skips PADDING and VPADDING
cells, at most 99 of them, and fails on any other command. It then writes
its own NETINFO (`buildNetInfo`) with the relay's IPv4 address.

The relay's bytes after TLS are the input; the TLS handshake itself, the
dial and the deadlines are not modelled, and writes are taken to succeed.
The SHA-256 of the relay's certificate, the host `net.SplitHostPort` gives
for the address and `net.ParseIP(host).To4()` are arguments. The two debug
slices `identityKey[:8]` and `netinfoCell.Payload()[:20]` are within
bounds (a signing key is a 32-byte array, a NETINFO cell has 509 payload
bytes), and the log lines are left out. A `none` result is the panic of
`validateCerts` on a hash shorter than 32 bytes.

Results:
* `negotiateVersion_eq`: the negotiated version is 5 when the relay offers
  it, else 4 when it offers that, else 0;
* `readExpectedLoop_padding`, `readExpectedLoop_too_much_padding`: fewer
  padding cells than passes are skipped and the expected cell is returned,
  with what follows it left unread; as many as the passes fail;
* `handshake_complete`: a relay that sends a VERSIONS cell offering 4 or 5
  and then CERTS, AUTH_CHALLENGE and NETINFO cells, each behind fewer than
  100 padding cells, with a CERTS payload `validateCerts` accepts, gets a
  link with the negotiated version and the identity `validateCerts` gave,
  and everything it sent after the NETINFO cell is left for the link;
* `handshake_sound`: every link the handshake returns comes from such a
  stream: its version is one the relay offered and 4 or 5, its identity is
  what `validateCerts` gave for the first CERTS cell after padding, and the
  client wrote VERSIONS and NETINFO and nothing else.
-/
namespace TorGo.L2

open TorGo.L1

/-! ## `negotiateVersion`, `readExpectedCell`, `buildNetInfo` -/

/-- `negotiateVersion`: the highest of the relay's versions that is 4 or 5,
`0` when there is none. -/
def negotiateVersion (serverVersions : List UInt16) : UInt16 :=
  serverVersions.foldl (fun best v => if (v = 4 ∨ v = 5) ∧ v > best then v else best) 0

/-- The loop of `readExpectedCell` with `n` passes left: PADDING and
VPADDING cells are skipped, another command than `expected` is an error. -/
def readExpectedLoop (expected : UInt8) : Nat → Bytes → Except String Cell × Bytes
  | 0, inp => (.error ("too many padding cells before command " ++ toString expected.toNat), inp)
  | n + 1, inp =>
    match readCell inp with
    | (.error e, r) => (.error e, r)
    | (.ok c, r) =>
      if c.command = cmdPadding ∨ c.command = cmdVPadding then readExpectedLoop expected n r
      else if c.command ≠ expected then
        (.error ("expected command " ++ toString expected.toNat ++ ", got " ++ toString c.command.toNat), r)
      else (.ok c, r)

/-- `readExpectedCell`: `for i := 0; i < 100; i++`. -/
def readExpectedCell (expected : UInt8) (inp : Bytes) : Except String Cell × Bytes :=
  readExpectedLoop expected 100 inp

/-- `buildNetInfo`: a fixed NETINFO cell with circuit id 0, timestamp 0,
the relay's IPv4 address as OTHERADDR (type 4, length 4) and no address of
our own. -/
def buildNetInfo (relayIP : Bytes) : Cell :=
  (newFixedCell 0 cmdNetInfo).withPayload ([0, 0, 0, 0, 4, 4] ++ copyInto [0, 0, 0, 0] relayIP ++ [0])

/-- `%v` of a `[]uint16`. -/
def versionsText (vs : List UInt16) : String := "[" ++ " ".intercalate (vs.map fun v => toString v.toNat) ++ "]"

/-- The `Link` `Handshake` returns: the negotiated version, the relay's
Ed25519 identity, what its `Reader` has not read and what its `Writer`
wrote. -/
structure Established where
  version : UInt16
  relayIdentityEd25519 : Bytes
  inbound : Bytes
  outbound : List Cell
  deriving DecidableEq, Repr

section Handshake

variable (P : CertPrims)

/-- `Handshake` after TLS, at the time `now`, on the relay's bytes `inp`;
`host` is what `net.SplitHostPort` gives for the address and `parseIPv4`
is `net.ParseIP(..).To4()`. -/
def handshake (now : Int) (peerCertHash : Bytes) (host : Except String String)
    (parseIPv4 : String → Option Bytes) (inp : Bytes) : Option (Except String Established) :=
  match readVersionsCell inp with
  | (.error e, _) => some (.error ("read VERSIONS: " ++ e))
  | (.ok serverVersions, r) =>
    let versions := parseVersions serverVersions
    let negotiated := negotiateVersion versions
    if negotiated = 0 then
      some (.error ("no common link protocol version >= 4 (server offered " ++ versionsText versions ++ ")"))
    else
      match readExpectedCell cmdCerts r with
      | (.error e, _) => some (.error ("read CERTS: " ++ e))
      | (.ok certsCell, r) =>
        match validateCerts P now certsCell.payload peerCertHash with
        | none => none
        | some (.error e) => some (.error ("validate CERTS: " ++ e))
        | some (.ok identityKey) =>
          match readExpectedCell cmdAuthChallenge r with
          | (.error e, _) => some (.error ("read AUTH_CHALLENGE: " ++ e))
          | (.ok _, r) =>
            match readExpectedCell cmdNetInfo r with
            | (.error e, _) => some (.error ("read NETINFO: " ++ e))
            | (.ok _, r) =>
              match host with
              | .error e => some (.error ("parse relay addr: " ++ e))
              | .ok host =>
                match parseIPv4 host with
                | none => some (.error ("relay IP not IPv4: " ++ host))
                | some relayIP =>
                  some (.ok ⟨negotiated, identityKey, r, [newVersionsCell [4, 5], buildNetInfo relayIP]⟩)

end Handshake

/-! ## Version negotiation -/

theorem negotiateVersion_foldl (vs : List UInt16) :
    ∀ best, best = 0 ∨ best = 4 ∨ best = 5 →
      vs.foldl (fun best v => if (v = 4 ∨ v = 5) ∧ v > best then v else best) best =
        if 5 ∈ vs ∨ best = 5 then 5 else if 4 ∈ vs ∨ best = 4 then 4 else best := by
  induction vs with
  | nil => intro best hb; rcases hb with rfl | rfl | rfl <;> rfl
  | cons v vs ih =>
    intro best hb
    rw [List.foldl_cons, ih _ (by rcases hb with rfl | rfl | rfl <;> split_ifs <;> simp_all)]
    by_cases h4 : v = 4
    · subst h4; rcases hb with rfl | rfl | rfl <;> simp
    · by_cases h5 : v = 5
      · subst h5; rcases hb with rfl | rfl | rfl <;> simp
      · simp [h4, h5, List.mem_cons, Ne.symm h4, Ne.symm h5]

/-- The negotiated version is 5 when the relay offers it, else 4 when it
offers that, else 0. -/
theorem negotiateVersion_eq (vs : List UInt16) :
    negotiateVersion vs = if 5 ∈ vs then 5 else if 4 ∈ vs then 4 else 0 := by
  rw [negotiateVersion, negotiateVersion_foldl vs 0 (.inl rfl)]
  simp

/-! ## Skipping padding -/

/-- A PADDING or VPADDING command. -/
def IsPadding (cmd : UInt8) : Prop := cmd = cmdPadding ∨ cmd = cmdVPadding

instance : DecidablePred IsPadding := fun cmd => inferInstanceAs (Decidable (cmd = _ ∨ cmd = _))

/-- The bytes of a list of cells, written one after another. -/
def joinCells (cs : List ValidCell) : Bytes := (cs.map (·.cell.bytes)).flatten

@[simp] theorem joinCells_cons (c : ValidCell) (cs : List ValidCell) :
    joinCells (c :: cs) = c.cell.bytes ++ joinCells cs := rfl

theorem readExpectedLoop_ok {expected : UInt8} {n : Nat} {inp r : Bytes} {c : Cell}
    (h : readExpectedLoop expected n inp = (.ok c, r)) : c.command = expected := by
  induction n generalizing inp with
  | zero => cases h
  | succ n ih =>
    unfold readExpectedLoop at h
    split at h
    · cases h
    · split_ifs at h with h1 h2
      · exact ih h
      · cases h
      · cases h; exact not_not.1 h2

/-- Fewer padding cells than passes are skipped, and the cell behind them is
returned when it has the expected command, with what follows it unread. -/
theorem readExpectedLoop_padding {expected : UInt8} (he : ¬ IsPadding expected) (c : ValidCell)
    (hc : c.cell.cmd = expected) (rest : Bytes) :
    ∀ (ps : List ValidCell) (n : Nat), (∀ p ∈ ps, IsPadding p.cell.cmd) → ps.length < n →
      readExpectedLoop expected n (joinCells ps ++ c.cell.bytes ++ rest) = (.ok c.cell.bytes, rest)
  | [], n + 1, _, _ => by
    have he : ¬ (expected = cmdPadding ∨ expected = cmdVPadding) := he
    simp only [joinCells, List.map_nil, List.flatten_nil, List.nil_append, readExpectedLoop, readCell_bytes,
      ValidCell.command_bytes, hc]
    rw [if_neg he, if_neg (not_not.2 rfl)]
  | p :: ps, n + 1, hp, hl => by
    have hpad : p.cell.cmd = cmdPadding ∨ p.cell.cmd = cmdVPadding := hp p (List.mem_cons_self _ _)
    rw [joinCells_cons, List.append_assoc, List.append_assoc, readExpectedLoop, readCell_bytes]
    simp only [ValidCell.command_bytes]
    rw [if_pos hpad, ← List.append_assoc]
    exact readExpectedLoop_padding he c hc rest ps n (fun q hq => hp q (List.mem_cons_of_mem _ hq))
      (Nat.lt_of_succ_lt_succ hl)

/-- As many padding cells as passes end the loop with its error. -/
theorem readExpectedLoop_too_much_padding (expected : UInt8) (rest : Bytes) :
    ∀ (ps : List ValidCell) (n : Nat), (∀ p ∈ ps, IsPadding p.cell.cmd) → n ≤ ps.length →
      (readExpectedLoop expected n (joinCells ps ++ rest)).1 =
        .error ("too many padding cells before command " ++ toString expected.toNat)
  | _, 0, _, _ => rfl
  | p :: ps, n + 1, hp, hl => by
    have hpad : p.cell.cmd = cmdPadding ∨ p.cell.cmd = cmdVPadding := hp p (List.mem_cons_self _ _)
    rw [joinCells_cons, List.append_assoc, readExpectedLoop, readCell_bytes]
    simp only [ValidCell.command_bytes]
    rw [if_pos hpad]
    exact readExpectedLoop_too_much_padding expected rest ps n (fun q hq => hp q (List.mem_cons_of_mem _ hq))
      (Nat.le_of_succ_le_succ hl)

/-! ## The whole handshake -/

/-- What a relay sends in the handshake (tor-spec §4): its VERSIONS cell,
then CERTS, AUTH_CHALLENGE and NETINFO cells, each behind padding cells. -/
structure RelayFlight where
  versions : List UInt16
  pad1 : List ValidCell
  certs : ValidCell
  pad2 : List ValidCell
  authChallenge : ValidCell
  pad3 : List ValidCell
  netinfo : ValidCell

def RelayFlight.bytes (f : RelayFlight) : Bytes :=
  newVersionsCell f.versions ++ joinCells f.pad1 ++ f.certs.cell.bytes ++ joinCells f.pad2 ++
    f.authChallenge.cell.bytes ++ joinCells f.pad3 ++ f.netinfo.cell.bytes

/-- The cells carry the commands their places ask for, the padding cells
are fewer than 100 in each place, and the versions fit one VERSIONS cell. -/
structure RelayFlight.WellFormed (f : RelayFlight) : Prop where
  versions_length : f.versions.length ≤ 32767
  pad : ∀ p ∈ f.pad1 ++ f.pad2 ++ f.pad3, IsPadding p.cell.cmd
  pad_length : f.pad1.length < 100 ∧ f.pad2.length < 100 ∧ f.pad3.length < 100
  certs : f.certs.cell.cmd = cmdCerts
  authChallenge : f.authChallenge.cell.cmd = cmdAuthChallenge
  netinfo : f.netinfo.cell.cmd = cmdNetInfo

theorem readVersionsCell_newVersionsCell (vs : List UInt16) (h : vs.length ≤ 32767) (rest : Bytes) :
    readVersionsCell (newVersionsCell vs ++ rest) = (.ok (newVersionsCell vs), rest) := by
  have hl := flatMap_putUint16_length vs
  have hlen : (uint16 (putUint16 (UInt16.ofNat (vs.flatMap putUint16).length) ++ [])).toNat =
      (vs.flatMap putUint16).length := by
    rw [uint16_putUint16, UInt16.toNat_ofNat']; omega
  exact readVersionsCell_spec ([0, 0, cmdVersions] ++ putUint16 _) _ rest rfl rfl (by simpa using hlen)

theorem parseVersions_newVersionsCell (vs : List UInt16) : parseVersions (newVersionsCell vs) = vs := by
  rw [parseVersions, newVersionsCell, List.drop_left' (by rfl), uint16s_flatMap]

section Handshake

variable {P : CertPrims}

/-- A relay that sends a well-formed flight offering version 4 or 5, with a
CERTS payload that `validateCerts` accepts, gets a link: version 5 if it
offered it and 4 otherwise, the identity `validateCerts` gave, and all it
sent after its NETINFO cell left to read. -/
theorem handshake_complete {now : Int} {peerCertHash K : Bytes} {f : RelayFlight} (hf : f.WellFormed)
    (hv : 4 ∈ f.versions ∨ 5 ∈ f.versions)
    (hK : validateCerts P now f.certs.cell.payload peerCertHash = some (.ok K))
    {host : String} {parseIPv4 : String → Option Bytes} {relayIP : Bytes} (hip : parseIPv4 host = some relayIP)
    (rest : Bytes) :
    handshake P now peerCertHash (.ok host) parseIPv4 (f.bytes ++ rest) =
      some (.ok ⟨if 5 ∈ f.versions then 5 else 4, K, rest, [newVersionsCell [4, 5], buildNetInfo relayIP]⟩) := by
  have hpad : ∀ cs, cs = f.pad1 ∨ cs = f.pad2 ∨ cs = f.pad3 → ∀ p ∈ cs, IsPadding p.cell.cmd := by
    rintro cs (rfl | rfl | rfl) p hp <;> exact hf.pad p (by simp [hp])
  have hneg : negotiateVersion f.versions = if 5 ∈ f.versions then 5 else 4 := by
    rw [negotiateVersion_eq]
    by_cases h5 : 5 ∈ f.versions <;> simp_all
  have hread : ∀ (expected : UInt8) (c : ValidCell) (ps : List ValidCell) (r : Bytes),
      c.cell.cmd = expected → ¬ IsPadding expected → (ps = f.pad1 ∨ ps = f.pad2 ∨ ps = f.pad3) →
      readExpectedCell expected (joinCells ps ++ c.cell.bytes ++ r) = (.ok c.cell.bytes, r) :=
    fun expected c ps r hc he hps => readExpectedLoop_padding he c hc r ps 100 (hpad ps hps)
      (by rcases hps with rfl | rfl | rfl <;> simp [hf.pad_length])
  simp only [RelayFlight.bytes, List.append_assoc]
  rw [handshake, readVersionsCell_newVersionsCell _ hf.versions_length]
  dsimp only
  rw [parseVersions_newVersionsCell, hneg, if_neg (by split_ifs <;> decide), ← List.append_assoc,
    hread cmdCerts f.certs _ _ hf.certs (by decide) (.inl rfl)]
  dsimp only
  rw [ValidCell.payload_bytes, hK]
  dsimp only
  rw [← List.append_assoc, hread cmdAuthChallenge f.authChallenge _ _ hf.authChallenge (by decide) (.inr (.inl rfl))]
  dsimp only
  rw [← List.append_assoc, hread cmdNetInfo f.netinfo _ _ hf.netinfo (by decide) (.inr (.inr rfl))]
  dsimp only
  rw [hip]

set_option maxRecDepth 20000 in
/-- A relay offering versions 3, 4 and 5, with one PADDING cell before its
CERTS cell, which carries the entries of the source's test chain. -/
def testFlight : RelayFlight where
  versions := [3, 4, 5]
  pad1 := [⟨.fixed 0 cmdPadding (List.replicate 509 0), rfl, rfl⟩]
  certs := ⟨.var 0 cmdCerts (2 :: testCertsEntries), rfl, by decide⟩
  pad2 := []
  authChallenge := ⟨.var 0 cmdAuthChallenge [], rfl, by decide⟩
  pad3 := []
  netinfo := ⟨.fixed 0 cmdNetInfo (List.replicate 509 0), rfl, rfl⟩

set_option maxRecDepth 20000 in
theorem handshake_complete_testFlight :
    handshake acceptAllPrims 0 (List.replicate 32 3) (.ok "127.0.0.1") (fun _ => some [127, 0, 0, 1])
        (testFlight.bytes ++ []) =
      some (.ok ⟨if 5 ∈ testFlight.versions then 5 else 4, List.replicate 32 1, [],
        [newVersionsCell [4, 5], buildNetInfo [127, 0, 0, 1]]⟩) :=
  handshake_complete (show testFlight.WellFormed from ⟨by decide, by decide, by decide, rfl, rfl, rfl⟩)
    (.inr (by decide))
    (show validateCerts acceptAllPrims 0 testFlight.certs.cell.payload (List.replicate 32 3) =
      some (.ok (List.replicate 32 1)) from rfl) rfl []

/-- Every link the handshake returns comes from a relay whose first cell is
a VERSIONS cell offering the link's version, 4 or 5, and whose first cell
after padding is a CERTS cell with a payload that `validateCerts` accepts,
giving the link's identity; the client wrote its VERSIONS cell and a
NETINFO cell and nothing else. -/
theorem handshake_sound {now : Int} {peerCertHash : Bytes} {host : Except String String}
    {parseIPv4 : String → Option Bytes} {inp : Bytes} {L : Established}
    (h : handshake P now peerCertHash host parseIPv4 inp = some (.ok L)) :
    (L.version = 4 ∨ L.version = 5) ∧
      (∃ serverVersions r, readVersionsCell inp = (.ok serverVersions, r) ∧ L.version ∈ parseVersions serverVersions ∧
        ∃ certsCell r', readExpectedCell cmdCerts r = (.ok certsCell, r') ∧ certsCell.command = cmdCerts ∧
          validateCerts P now certsCell.payload peerCertHash = some (.ok L.relayIdentityEd25519)) ∧
      ∃ relayIP, L.outbound = [newVersionsCell [4, 5], buildNetInfo relayIP] := by
  unfold handshake at h
  split at h
  · cases h
  rename_i serverVersions r hv
  have hneg := negotiateVersion_eq (parseVersions serverVersions)
  dsimp only at h
  split_ifs at h with h0
  · cases h
  split at h
  · cases h
  rename_i certsCell r' hc
  split at h
  · cases h
  · cases h
  rename_i identityKey hK
  split at h
  · cases h
  split at h
  · cases h
  split at h
  · cases h
  split at h
  · cases h
  rename_i relayIP _
  cases h
  refine ⟨?_, ⟨serverVersions, r, hv, ?_, certsCell, r', hc, readExpectedLoop_ok hc, hK⟩, relayIP, rfl⟩
  · rw [hneg] at h0 ⊢
    split_ifs <;> simp_all
  · rw [hneg] at h0 ⊢
    split_ifs at h0 ⊢ <;> simp_all

set_option maxRecDepth 20000 in
theorem handshake_testFlight :
    handshake acceptAllPrims 0 (List.replicate 32 3) (.ok "127.0.0.1") (fun _ => some [127, 0, 0, 1]) testFlight.bytes =
      some (.ok ⟨5, List.replicate 32 1, [], [newVersionsCell [4, 5], buildNetInfo [127, 0, 0, 1]]⟩) :=
  rfl

theorem handshake_sound_testFlight :
    ((5 : UInt16) = 4 ∨ (5 : UInt16) = 5) ∧
      (∃ serverVersions r, readVersionsCell testFlight.bytes = (.ok serverVersions, r) ∧
        5 ∈ parseVersions serverVersions ∧
        ∃ certsCell r', readExpectedCell cmdCerts r = (.ok certsCell, r') ∧ certsCell.command = cmdCerts ∧
          validateCerts acceptAllPrims 0 certsCell.payload (List.replicate 32 3) =
            some (.ok (List.replicate 32 1))) ∧
      ∃ relayIP, [newVersionsCell [4, 5], buildNetInfo [127, 0, 0, 1]] = [newVersionsCell [4, 5], buildNetInfo relayIP] :=
  handshake_sound handshake_testFlight

end Handshake

end TorGo.L2
