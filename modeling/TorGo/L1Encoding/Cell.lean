import TorGo.L1Encoding.Bytes

/-!
# The cell codec (`cell` package)

`cell.go` builds cells as byte slices: a fixed cell is `CircID[4] | Command |
Payload[509]`, a variable cell `CircID[4] | Command | Length[2] | Payload`,
and a VERSIONS cell has a 2-byte circuit id. `io.go` frames them back off a
byte stream: `Reader.ReadCell` reads a 5-byte header and then, by
`IsVariableLength(cmd)`, a length-prefixed payload (capped at 10 000 bytes) or
509 payload bytes; `ReadVersionsCell` and `ParseVersions` handle the VERSIONS
exchange. `Writer.WriteCell` writes the slice unchanged, so a sequence of
written cells is their concatenation.

A reader's input is the list of bytes still to arrive on the link, and
`io.ReadFull` either takes the bytes it asked for or, at the end of the input,
fails with `EOF` (nothing read) or `unexpected EOF` (a partial read), having
consumed what was there.

Results:
* `readCell_bytes`: one valid cell is read back byte for byte, with any bytes
  behind it left unread;
* `readCells_join`: a whole sequence of valid cells is read back in order,
  after which `ReadCell` fails (`readCell_nil`);
* `parseVersions_readVersionsCell`: the VERSIONS round trip for up to 32 767
  versions;
* `cell_codec_round_trip`: the codec as a whole.
-/
namespace TorGo.L1

/-! ## Commands and sizes -/

def cmdPadding : UInt8 := 0
def cmdRelay : UInt8 := 3
def cmdDestroy : UInt8 := 4
def cmdVersions : UInt8 := 7
def cmdNetInfo : UInt8 := 8
def cmdRelayEarly : UInt8 := 9
def cmdCreate2 : UInt8 := 10
def cmdCreated2 : UInt8 := 11
def cmdVPadding : UInt8 := 128
def cmdCerts : UInt8 := 129
def cmdAuthChallenge : UInt8 := 130

def maxPayloadLen : Nat := 509
def fixedCellLen : Nat := 514
def maxVarPayloadLen : Nat := 10000

/-- `IsVariableLength`: VERSIONS (7) and commands ≥ 128. -/
def isVariableLength (cmd : UInt8) : Bool := cmd == cmdVersions || cmd ≥ 128

/-- A Tor cell backed by a byte slice. -/
abbrev Cell := Bytes

/-- `NewFixedCell`: a 514-byte cell with a zero payload. -/
def newFixedCell (circID : UInt32) (cmd : UInt8) : Cell :=
  putUint32 circID ++ [cmd] ++ List.replicate maxPayloadLen 0

/-- `NewVarCell`; the length field is `uint16(len(payload))`. -/
def newVarCell (circID : UInt32) (cmd : UInt8) (payload : Bytes) : Cell :=
  putUint32 circID ++ [cmd] ++ putUint16 (UInt16.ofNat payload.length) ++ payload

/-- `NewVersionsCell`: 2-byte circuit id 0, command 7, a length and the
versions as big-endian `uint16`s. -/
def newVersionsCell (versions : List UInt16) : Cell :=
  let payload := versions.flatMap putUint16
  [0, 0, cmdVersions] ++ putUint16 (UInt16.ofNat payload.length) ++ payload

def Cell.circID (c : Cell) : UInt32 := uint32 c

def Cell.command (c : Cell) : UInt8 := c.getD 4 0

/-- Where `Payload()` starts: after the length field of a variable cell. -/
def Cell.payloadOff (c : Cell) : Nat := if isVariableLength c.command then 7 else 5

def Cell.payload (c : Cell) : Bytes := c.drop c.payloadOff

/-- The cell after `copy(c.Payload(), p)`. -/
def Cell.withPayload (c : Cell) (p : Bytes) : Cell :=
  c.take c.payloadOff ++ copyInto (c.drop c.payloadOff) p

/-! ## Reading -/

/-- `io.ReadFull(r, buf)` with `len(buf) = n`. -/
def readFull (n : Nat) (inp : Bytes) : Except String Bytes × Bytes :=
  if n ≤ inp.length then (.ok (inp.take n), inp.drop n)
  else (.error (if inp = [] then "EOF" else "unexpected EOF"), [])

/-- `Reader.ReadCell` (link protocol v4+, 4-byte circuit id). -/
def readCell (inp : Bytes) : Except String Cell × Bytes :=
  match readFull 5 inp with
  | (.error e, r) => (.error ("read cell header: " ++ e), r)
  | (.ok hdr, r) =>
    if isVariableLength (hdr.getD 4 0) then
      match readFull 2 r with
      | (.error e, r) => (.error ("read varlen length: " ++ e), r)
      | (.ok lenBuf, r) =>
        let pLen := (uint16 lenBuf).toNat
        if pLen > maxVarPayloadLen then
          (.error ("variable-length cell payload too large: " ++ toString pLen ++
            " bytes (max " ++ toString maxVarPayloadLen ++ ")"), r)
        else if pLen > 0 then
          match readFull pLen r with
          | (.error e, r) => (.error ("read varlen payload: " ++ e), r)
          | (.ok p, r) => (.ok (hdr ++ lenBuf ++ p), r)
        else (.ok (hdr ++ lenBuf), r)
    else
      match readFull (fixedCellLen - 5) r with
      | (.error e, r) => (.error ("read fixed payload: " ++ e), r)
      | (.ok p, r) => (.ok (hdr ++ p), r)

/-- `Reader.ReadVersionsCell`: 2-byte circuit id, command, 2-byte length. -/
def readVersionsCell (inp : Bytes) : Except String Cell × Bytes :=
  match readFull 5 inp with
  | (.error e, r) => (.error ("read versions header: " ++ e), r)
  | (.ok hdr, r) =>
    if hdr.getD 2 0 ≠ cmdVersions then
      (.error ("expected VERSIONS (7), got command " ++ toString (hdr.getD 2 0)), r)
    else
      let pLen := (uint16 (hdr.drop 3)).toNat
      if pLen > 0 then
        match readFull pLen r with
        | (.error e, r) => (.error ("read versions payload: " ++ e), r)
        | (.ok p, r) => (.ok (hdr ++ p), r)
      else (.ok hdr, r)

/-- The big-endian `uint16`s of a byte string, a trailing odd byte ignored:
`versions[i] = Uint16(payload[2*i:])` for `i < len(payload)/2`. -/
def uint16s : Bytes → List UInt16
  | b0 :: b1 :: r => uint16 [b0, b1] :: uint16s r
  | _ => []

/-- `ParseVersions`: the versions after the 5-byte VERSIONS header. -/
def parseVersions (c : Cell) : List UInt16 := uint16s (c.drop 5)

/-- `n` successive `ReadCell` calls, stopping at the first error. -/
def readCells : Nat → Bytes → Except String (List Cell) × Bytes
  | 0, inp => (.ok [], inp)
  | n + 1, inp =>
    match readCell inp with
    | (.error e, r) => (.error e, r)
    | (.ok c, r) =>
      match readCells n r with
      | (.error e, r') => (.error e, r')
      | (.ok cs, r') => (.ok (c :: cs), r')

/-! ## Valid cells -/

/-- A cell as the client builds it: `NewFixedCell(id, cmd)` with its payload
filled in, or `NewVarCell(id, cmd, p)`. -/
inductive WireCell where
  | fixed (circID : UInt32) (cmd : UInt8) (payload : Bytes)
  | var (circID : UInt32) (cmd : UInt8) (payload : Bytes)

/-- Fixed cells carry a fixed-length command and exactly 509 payload bytes;
variable cells a variable-length command and at most 10 000. -/
def WireCell.Valid : WireCell → Prop
  | .fixed _ cmd p => isVariableLength cmd = false ∧ p.length = maxPayloadLen
  | .var _ cmd p => isVariableLength cmd = true ∧ p.length ≤ maxVarPayloadLen

def WireCell.bytes : WireCell → Cell
  | .fixed id cmd p => (newFixedCell id cmd).withPayload p
  | .var id cmd p => newVarCell id cmd p

/-- A wire cell within the codec's limits. -/
structure ValidCell where
  cell : WireCell
  valid : cell.Valid

theorem readFull_append (b rest : Bytes) {n : Nat} (h : b.length = n) :
    readFull n (b ++ rest) = (.ok b, rest) := by
  subst h; simp [readFull]

theorem readFull_ok {n : Nat} {inp b r : Bytes} (h : readFull n inp = (.ok b, r)) :
    r = inp.drop n ∧ n ≤ inp.length := by
  unfold readFull at h
  split at h
  · simp only [Prod.mk.injEq, Except.ok.injEq] at h
    exact ⟨h.2.symm, by assumption⟩
  · simp at h

/-- A successful `ReadCell` consumes at least the 5-byte header. -/
theorem readCell_ok_length {inp r : Bytes} {c : Cell} (h : readCell inp = (.ok c, r)) :
    r.length + 5 ≤ inp.length := by
  unfold readCell at h
  split at h
  · simp at h
  · rename_i hdr r1 h1
    obtain ⟨rfl, h5⟩ := readFull_ok h1
    split at h
    · split at h
      · simp at h
      · rename_i lenBuf r2 h2
        obtain ⟨rfl, -⟩ := readFull_ok h2
        dsimp only at h
        split at h
        · simp at h
        · split at h
          · split at h
            · simp at h
            · rename_i p r3 h3
              obtain ⟨rfl, -⟩ := readFull_ok h3
              simp only [Prod.mk.injEq] at h
              rw [← h.2]; simp; omega
          · simp only [Prod.mk.injEq] at h
            rw [← h.2]; simp; omega
    · split at h
      · simp at h
      · rename_i p r2 h2
        obtain ⟨rfl, -⟩ := readFull_ok h2
        simp only [Prod.mk.injEq] at h
        rw [← h.2]; simp; omega

/-- `ReadCell` on a fixed-length command followed by 509 payload bytes. -/
theorem readCell_fixed (hdr p rest : Bytes) (hh : hdr.length = 5)
    (hv : isVariableLength (hdr.getD 4 0) = false) (hp : p.length = maxPayloadLen) :
    readCell (hdr ++ p ++ rest) = (.ok (hdr ++ p), rest) := by
  rw [List.append_assoc, readCell, readFull_append _ _ hh]
  simp only [hv, Bool.false_eq_true, if_false]
  rw [readFull_append _ _ (by simp [hp, fixedCellLen, maxPayloadLen])]

/-- `ReadCell` on a variable-length command, a length field and that many
payload bytes. -/
theorem readCell_var (hdr lenBuf p rest : Bytes) (hh : hdr.length = 5)
    (hv : isVariableLength (hdr.getD 4 0) = true) (hl : lenBuf.length = 2)
    (hpl : (uint16 lenBuf).toNat = p.length) (hp : p.length ≤ maxVarPayloadLen) :
    readCell (hdr ++ lenBuf ++ p ++ rest) = (.ok (hdr ++ lenBuf ++ p), rest) := by
  rw [List.append_assoc, List.append_assoc, readCell, readFull_append _ _ hh]
  simp only [hv, if_true]
  rw [readFull_append _ _ hl]
  dsimp only
  rw [hpl, if_neg (by omega)]
  split
  · rw [readFull_append _ _ rfl]
  · obtain rfl : p = [] := List.eq_nil_of_length_eq_zero (by omega)
    simp

@[simp] theorem newFixedCell_length (id : UInt32) (cmd : UInt8) :
    (newFixedCell id cmd).length = fixedCellLen := by
  simp only [newFixedCell, List.length_append, putUint32_length, List.length_singleton,
    List.length_replicate]; rfl

theorem fixed_bytes (id : UInt32) (cmd : UInt8) (p : Bytes) (hcmd : isVariableLength cmd = false)
    (hp : p.length = maxPayloadLen) :
    (WireCell.fixed id cmd p).bytes = (putUint32 id ++ [cmd]) ++ p := by
  have hc : (newFixedCell id cmd).command = cmd := rfl
  simp only [WireCell.bytes, Cell.withPayload, Cell.payloadOff, hc, hcmd]
  rw [copyInto_of_length_eq _ _ (by simp only [List.length_drop, newFixedCell_length, hp]; rfl)]
  rfl

theorem fixed_command (id : UInt32) (cmd : UInt8) (p : Bytes) (hcmd : isVariableLength cmd = false)
    (hp : p.length = maxPayloadLen) : (WireCell.fixed id cmd p).bytes.command = cmd := by
  rw [fixed_bytes id cmd p hcmd hp]; rfl

theorem fixed_payload (id : UInt32) (cmd : UInt8) (p : Bytes) (hcmd : isVariableLength cmd = false)
    (hp : p.length = maxPayloadLen) : (WireCell.fixed id cmd p).bytes.payload = p := by
  rw [Cell.payload, Cell.payloadOff, fixed_command id cmd p hcmd hp, hcmd, fixed_bytes id cmd p hcmd hp]
  exact List.drop_left' rfl

/-- The command of a wire cell. -/
def WireCell.cmd : WireCell → UInt8
  | .fixed _ cmd _ => cmd
  | .var _ cmd _ => cmd

/-- The payload of a wire cell. -/
def WireCell.payload : WireCell → Bytes
  | .fixed _ _ p => p
  | .var _ _ p => p

theorem ValidCell.command_bytes (c : ValidCell) : c.cell.bytes.command = c.cell.cmd := by
  obtain ⟨cell, hv⟩ := c
  cases cell with
  | fixed id cmd p => exact fixed_command id cmd p hv.1 hv.2
  | var id cmd p => rfl

theorem ValidCell.payload_bytes (c : ValidCell) : c.cell.bytes.payload = c.cell.payload := by
  obtain ⟨cell, hv⟩ := c
  cases cell with
  | fixed id cmd p => exact fixed_payload id cmd p hv.1 hv.2
  | var id cmd p =>
    have hc : (WireCell.var id cmd p).bytes.command = cmd := rfl
    rw [Cell.payload, Cell.payloadOff, hc, if_pos hv.1]
    rfl

/-- **One cell.** `ReadCell` returns a valid cell's bytes exactly and leaves
whatever follows it unread. -/
theorem readCell_bytes (c : ValidCell) (rest : Bytes) :
    readCell (c.cell.bytes ++ rest) = (.ok c.cell.bytes, rest) := by
  obtain ⟨cell, hv⟩ := c
  cases cell with
  | fixed id cmd p =>
    obtain ⟨hcmd, hp⟩ := hv
    rw [fixed_bytes id cmd p hcmd hp]
    exact readCell_fixed _ p rest rfl hcmd hp
  | var id cmd p =>
    obtain ⟨hcmd, hp⟩ := hv
    have hlen : (uint16 (putUint16 (UInt16.ofNat p.length))).toNat = p.length := by
      rw [← List.append_nil (putUint16 _), uint16_putUint16, UInt16.toNat_ofNat']
      simp only [maxVarPayloadLen] at hp; omega
    exact readCell_var (putUint32 id ++ [cmd]) _ p rest rfl hcmd rfl hlen hp

/-- `ReadCell` on an exhausted link fails. -/
theorem readCell_nil : (readCell []).1 = .error "read cell header: EOF" := rfl

/-- **A stream of cells.** Successive `ReadCell` calls on the concatenation of
the `WriteCell` outputs return the cells in order, byte for byte. -/
theorem readCells_join (cs : List ValidCell) (rest : Bytes) :
    readCells cs.length ((cs.map (·.cell.bytes)).flatten ++ rest) =
      (.ok (cs.map (·.cell.bytes)), rest) := by
  induction cs with
  | nil => rfl
  | cons c cs ih =>
    simp only [List.length_cons, List.map_cons, List.flatten_cons, List.append_assoc, readCells,
      readCell_bytes, ih]

/-- After the last cell, one more `ReadCell` fails at the end of the input. -/
theorem readCells_join_succ (cs : List ValidCell) :
    readCells (cs.length + 1) (cs.map (·.cell.bytes)).flatten = (.error "read cell header: EOF", []) := by
  induction cs with
  | nil => rfl
  | cons c cs ih =>
    rw [List.length_cons, List.map_cons, List.flatten_cons, readCells, readCell_bytes]
    simp only [ih]

/-! ## VERSIONS -/

theorem uint16s_flatMap (vs : List UInt16) : uint16s (vs.flatMap putUint16) = vs := by
  induction vs with
  | nil => rfl
  | cons v vs ih =>
    rw [List.flatMap_cons, show putUint16 v ++ vs.flatMap putUint16 =
      UInt8.ofNat (v.toNat / 256) :: UInt8.ofNat v.toNat :: vs.flatMap putUint16 from rfl, uint16s, ih]
    exact congrArg (· :: vs) (uint16_putUint16 v [])

/-- `ReadVersionsCell` on a VERSIONS header and as many payload bytes as its
length field says. -/
theorem readVersionsCell_spec (hdr p rest : Bytes) (hh : hdr.length = 5)
    (h2 : hdr.getD 2 0 = cmdVersions) (hpl : (uint16 (hdr.drop 3)).toNat = p.length) :
    readVersionsCell (hdr ++ p ++ rest) = (.ok (hdr ++ p), rest) := by
  rw [List.append_assoc, readVersionsCell, readFull_append _ _ hh]
  simp only [h2, ne_eq, not_true_eq_false, if_false, hpl]
  split
  · rw [readFull_append _ _ rfl]
  · obtain rfl : p = [] := List.eq_nil_of_length_eq_zero (by omega)
    simp

theorem flatMap_putUint16_length (vs : List UInt16) :
    (vs.flatMap putUint16).length = 2 * vs.length := by
  induction vs with
  | nil => rfl
  | cons v vs ih => simp only [List.flatMap_cons, List.length_append, putUint16_length, ih,
      List.length_cons]; omega

/-- The VERSIONS exchange round-trips any list of at most 32 767 versions
(whose payload length fits the 16-bit length field). -/
theorem parseVersions_readVersionsCell (vs : List UInt16) (h : vs.length ≤ 32767) (rest : Bytes) :
    (readVersionsCell (newVersionsCell vs ++ rest)).1.map parseVersions = .ok vs := by
  have hl := flatMap_putUint16_length vs
  have hlen : (uint16 (putUint16 (UInt16.ofNat (vs.flatMap putUint16).length) ++ [])).toNat =
      (vs.flatMap putUint16).length := by
    rw [uint16_putUint16, UInt16.toNat_ofNat']; omega
  rw [newVersionsCell, readVersionsCell_spec ([0, 0, cmdVersions] ++ putUint16 _) _ rest rfl rfl
    (by simpa using hlen)]
  simp only [Except.map, parseVersions]
  rw [List.drop_left' (by rfl), uint16s_flatMap]

example : newVersionsCell [4, 5] = [0, 0, 7, 0, 4, 0, 4, 0, 5] := by decide

/-- **The codec.** A stream of valid cells is framed back exactly: as many
`ReadCell` calls as cells return them byte for byte and in order, consuming
the whole input, and one call more fails at its end; and the VERSIONS
exchange round-trips any list of at most 32 767 versions. -/
theorem cell_codec_round_trip (cs : List ValidCell) (vs : List UInt16) (hvs : vs.length ≤ 32767) :
    readCells cs.length (cs.map (·.cell.bytes)).flatten = (.ok (cs.map (·.cell.bytes)), []) ∧
      (readCells (cs.length + 1) (cs.map (·.cell.bytes)).flatten).1 = .error "read cell header: EOF" ∧
      (readVersionsCell (newVersionsCell vs)).1.map parseVersions = .ok vs := by
  refine ⟨?_, by rw [readCells_join_succ], ?_⟩
  · simpa using readCells_join cs []
  · simpa using parseVersions_readVersionsCell vs hvs []

theorem cell_codec_round_trip_var_cell :
    readCells 1 (newVarCell 5 128 [1, 2, 3]) = (.ok [newVarCell 5 128 [1, 2, 3]], []) ∧
      (readCells 2 (newVarCell 5 128 [1, 2, 3])).1 = .error "read cell header: EOF" ∧
      (readVersionsCell (newVersionsCell [4, 5])).1.map parseVersions = .ok [4, 5] := by
  simpa using cell_codec_round_trip [⟨.var 5 128 [1, 2, 3], rfl, by decide⟩] [4, 5] (by decide)

end TorGo.L1
