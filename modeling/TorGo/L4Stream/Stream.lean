import TorGo.L3Circuit.Relay

/-!
# Streams (`stream` package)

A `Stream` is a stream id, two send windows, a receive buffer, flags and two
counters of DATA cells received; its circuit is used only through
`SendRelay`, `ReceiveRelay` and `BackwardDigest` (`CircuitPort`). The global
`nextStreamID` counter is passed explicitly.

Every loop `for { ... ReceiveRelay ... continue }` of the package ends
because each successful `ReceiveRelay` consumes input (`pending`).

`sendMeV1` slices `digest[:20]`, which panics on the `nil` digest of a
circuit without hops (`none`). A circuit delivers a relay message only
through a hop, and a port says so (`CircuitPort.receiveRelay_digest`): the
SENDMEs `handleDataReceived` sends after a DATA cell always find a digest of
20 bytes or more (`sendMeIfDue_of_digest`, `sendMeIfDue_digest`).

Results:
* `allocRun_get`: over any run of `Begin` id allocations from a counter
  that does not wrap, the `i`-th allocation reads the counter plus `i`;
* `stream_id_reused_after_exhaustion`: the first and the 65 537th
  allocation both hand out id 1, the 65 536th reports exhaustion in between.
-/
namespace TorGo.L4

open TorGo.L1 TorGo.L3

/-- What the `stream` package uses of a circuit, over its state `σ`:
`SendRelay`, `ReceiveRelay` and `BackwardDigest`. Every successful
`ReceiveRelay` lowers `pending` (for a circuit on a link: the bytes still to
arrive). A circuit that delivers a relay message has a hop, so its backward
digest is a SHA-1 digest of at least 20 bytes, and sending keeps it so:
`BackwardDigest` is `nil` only on a circuit without hops, which delivers
nothing. -/
structure CircuitPort (σ : Type) where
  sendRelay : σ → UInt8 → UInt16 → Bytes → Except String Unit × σ
  receiveRelay : σ → Except String RelayMsg × σ
  backwardDigest : σ → Bytes
  pending : σ → Nat
  receiveRelay_pending : ∀ s m s', receiveRelay s = (.ok m, s') → pending s' < pending s
  receiveRelay_digest : ∀ s m s', receiveRelay s = (.ok m, s') → 20 ≤ (backwardDigest s').length
  sendRelay_digest : ∀ s cmd sid data, 20 ≤ (backwardDigest s).length →
    20 ≤ (backwardDigest (sendRelay s cmd sid data).2).length

def circSendMeWindow : Nat := 100
def streamSendMeWindow : Nat := 50
def initCircWindow : Int := 1000
def initStreamWindow : Int := 500
def sendMeVersion : UInt8 := 1
def relayEndReasonDone : UInt8 := 6

/-- `Stream`, without its circuit. -/
structure Stream where
  id : UInt16
  circWindow : Int
  streamWindow : Int
  buf : Bytes
  closed : Bool
  eof : Bool
  circDataReceived : Nat
  streamDataReceived : Nat
  deriving DecidableEq, Repr

/-- The stream `Begin` returns on RELAY_CONNECTED. -/
def newStream (id : UInt16) : Stream := ⟨id, 1000, 500, [], false, false, 0, 0⟩

@[simp] theorem newStream_id (id : UInt16) : (newStream id).id = id := rfl

@[simp] theorem newStream_buf (id : UInt16) : (newStream id).buf = [] := rfl

@[simp] theorem newStream_eof (id : UInt16) : (newStream id).eof = false := rfl

/-! ## Stream ids -/

theorem raw_eq_zero {raw : UInt32} (h1 : raw.toUInt16 = 0) (h2 : ¬ raw > 0xFFFF) : raw = 0 := by
  have h1' := congrArg UInt16.toNat h1
  have h2' : raw.toNat ≤ 65535 := by
    rw [gt_iff_lt, UInt32.lt_def, BitVec.lt_def] at h2
    exact Nat.le_of_not_lt h2
  rw [UInt32.toUInt16_toNat', UInt16.toNat_zero] at h1'
  apply UInt32.toNat.inj
  rw [UInt32.toNat_zero]
  omega

/-- The id loop of `Begin`, from the counter value `raw`
(`raw := nextStreamID.Add(1) - 1`): the counter after it and the id, or the
exhaustion error when the low 16 bits are zero above `0xFFFF`. -/
def allocStreamID (raw : UInt32) : Except String UInt16 × UInt32 :=
  if h1 : raw.toUInt16 ≠ 0 then (.ok raw.toUInt16, raw + 1)
  else if h2 : raw > 0xFFFF then (.error "stream ID space exhausted", raw + 1)
  else allocStreamID (raw + 1)
termination_by if raw = 0 then 1 else 0
decreasing_by
  obtain rfl := raw_eq_zero (not_not.mp h1) h2
  decide

/-- Away from zero, the id loop takes one turn. -/
theorem allocStreamID_of_ne_zero {raw : UInt32} (h : raw ≠ 0) :
    allocStreamID raw =
      (if raw.toUInt16 ≠ 0 then .ok raw.toUInt16 else .error "stream ID space exhausted", raw + 1) := by
  rw [allocStreamID]
  by_cases h1 : raw.toUInt16 ≠ 0
  · rw [dif_pos h1, if_pos h1]
  · have h2 : raw > 0xFFFF := by
      by_contra h2
      exact h (raw_eq_zero (not_not.mp h1) h2)
    rw [dif_neg h1, dif_pos h2, if_neg h1]

/-- `n` successive id allocations, from the counter value `next`. -/
def allocRun : Nat → UInt32 → List (Except String UInt16) × UInt32
  | 0, next => ([], next)
  | n + 1, next =>
    ((allocStreamID next).1 :: (allocRun n (allocStreamID next).2).1,
      (allocRun n (allocStreamID next).2).2)

/-- **Allocation runs.** While the 32-bit counter does not wrap, the `i`-th
allocation of a run reads the counter plus `i`: the id is its low 16 bits,
or the exhaustion error when they are zero. -/
theorem allocRun_get : ∀ (n : Nat) (next : UInt32), next ≠ 0 → next.toNat + n < 2 ^ 32 →
    ∀ i < n, (allocRun n next).1[i]? = some (allocStreamID (next + UInt32.ofNat i)).1
  | 0, _, _, _, i, hi => absurd hi (Nat.not_lt_zero i)
  | n + 1, next, h0, hn, i, hi => by
    have hs : (next + 1).toNat = next.toNat + 1 := by
      rw [UInt32.toNat_add']; exact Nat.mod_eq_of_lt (by simp; omega)
    have h1 : next + 1 ≠ 0 := fun h => by simp [h] at hs
    rw [allocRun, allocStreamID_of_ne_zero h0]
    cases i with
    | zero =>
      rw [show next + UInt32.ofNat 0 = next from UInt32.eq_of_toBitVec_eq (BitVec.add_zero _),
        allocStreamID_of_ne_zero h0]
      exact List.getElem?_cons_zero
    | succ i =>
      rw [List.getElem?_cons_succ, allocRun_get n (next + 1) h1 (by omega) i (by omega)]
      congr 3
      apply UInt32.toNat.inj
      simp only [UInt32.toNat_add', UInt32.toNat_ofNat', show (1 : UInt32).toNat = 1 from rfl]
      omega

/-- **Stream ids are reused.** From the initial counter 1, the first
allocation hands out id 1, the 65 536th reports exhaustion, and the
65 537th hands out id 1 again, whichever streams are still open. -/
theorem stream_id_reused_after_exhaustion :
    (allocRun 65537 1).1[0]? = some (.ok 1) ∧
      (allocRun 65537 1).1[65535]? = some (.error "stream ID space exhausted") ∧
      (allocRun 65537 1).1[65536]? = some (.ok 1) := by
  have h := allocRun_get 65537 1 (by decide) (by decide)
  refine ⟨?_, ?_, ?_⟩
  · rw [h 0 (by decide), allocStreamID_of_ne_zero (by decide)]; rfl
  · rw [h 65535 (by decide), allocStreamID_of_ne_zero (by decide)]; rfl
  · rw [h 65536 (by decide), allocStreamID_of_ne_zero (by decide)]; rfl

/-! ## Flow control -/

/-- `sendMeV1`: version 1, the length 20 and the first 20 digest bytes;
`none` is the panic of `digest[:20]` on a shorter digest. -/
def sendMeV1 (digest : Bytes) : Option Bytes :=
  if digest.length < 20 then none
  else some ([sendMeVersion] ++ putUint16 20 ++ copyInto (List.replicate 20 0) (digest.take 20))

/-- The SENDME `sendMeV1` builds from a digest of 20 bytes or more. -/
def sendMePayload (digest : Bytes) : Bytes := [sendMeVersion] ++ putUint16 20 ++ digest.take 20

theorem sendMeV1_of_le {digest : Bytes} (h : 20 ≤ digest.length) : sendMeV1 digest = some (sendMePayload digest) := by
  rw [sendMeV1, if_neg (by omega), copyInto_of_length_eq _ _ (by simp; omega), sendMePayload]

/-- The text of the panic of `digest[:20]`. -/
def sendMePanic : String := "runtime error: slice bounds out of range [:20]"

variable {σ : Type} (P : CircuitPort σ)

/-- One SENDME block of `handleDataReceived`: when `due`, a SENDME v1 with
the backward digest is sent on stream `sid` and `credit` applied. The panic
of `sendMeV1` ends the call with its text, the state untouched; no state a
read reaches has a short digest (`CircuitPort.receiveRelay_digest`). -/
def sendMeIfDue (due : Bool) (sid : UInt16) (what : String) (credit : Stream → Stream)
    (st : Stream) (s : σ) : Except String Unit × Stream × σ :=
  if due then
    match sendMeV1 (P.backwardDigest s) with
    | none => (.error sendMePanic, st, s)
    | some payload =>
      match P.sendRelay s relaySendMe sid payload with
      | (.error e, s') => (.error ("send " ++ what ++ " SENDME: " ++ e), st, s')
      | (.ok (), s') => (.ok (), credit st, s')
  else (.ok (), st, s)

/-- A SENDME block keeps a digest of 20 bytes or more so. -/
theorem sendMeIfDue_digest {s : σ} (h : 20 ≤ (P.backwardDigest s).length) (due : Bool) (sid : UInt16)
    (what : String) (credit : Stream → Stream) (st : Stream) :
    20 ≤ (P.backwardDigest (sendMeIfDue P due sid what credit st s).2.2).length := by
  unfold sendMeIfDue
  split
  · rcases sendMeV1 (P.backwardDigest s) with _ | payload
    · exact h
    dsimp only
    rcases hs : P.sendRelay s relaySendMe sid payload with ⟨_ | ⟨⟩, s'⟩ <;>
      exact (congrArg Prod.snd hs) ▸ P.sendRelay_digest s relaySendMe sid payload h
  · exact h

/-- On a digest of 20 bytes or more, a due SENDME is sent. -/
theorem sendMeIfDue_of_digest {s : σ} (h : 20 ≤ (P.backwardDigest s).length) (sid : UInt16) (what : String)
    (credit : Stream → Stream) (st : Stream) :
    sendMeIfDue P true sid what credit st s =
      match P.sendRelay s relaySendMe sid (sendMePayload (P.backwardDigest s)) with
      | (.error e, s') => (.error ("send " ++ what ++ " SENDME: " ++ e), st, s')
      | (.ok (), s') => (.ok (), credit st, s') := by
  rw [sendMeIfDue, if_pos rfl, sendMeV1_of_le h]

/-- `Stream.handleDataReceived`: both counters go up; a circuit-level SENDME
every 100 DATA cells and a stream-level one every 50, each crediting the
matching window. -/
def handleDataReceived (st : Stream) (s : σ) : Except String Unit × Stream × σ :=
  let st := { st with
    circDataReceived := st.circDataReceived + 1
    streamDataReceived := st.streamDataReceived + 1 }
  match sendMeIfDue P (st.circDataReceived ≥ circSendMeWindow) 0 "circuit"
      (fun st => { st with circWindow := st.circWindow + circSendMeWindow, circDataReceived := 0 })
      st s with
  | (.error e, st', s') => (.error e, st', s')
  | (.ok (), st', s') =>
    sendMeIfDue P (st'.streamDataReceived ≥ streamSendMeWindow) st'.id "stream"
      (fun st => { st with streamWindow := st.streamWindow + streamSendMeWindow, streamDataReceived := 0 })
      st' s'

/-- Below both thresholds, `handleDataReceived` only counts. -/
theorem handleDataReceived_quiet (st : Stream) (s : σ) (hc : st.circDataReceived + 1 < circSendMeWindow)
    (hs : st.streamDataReceived + 1 < streamSendMeWindow) :
    handleDataReceived P st s = (.ok (), { st with
      circDataReceived := st.circDataReceived + 1
      streamDataReceived := st.streamDataReceived + 1 }, s) := by
  simp only [handleDataReceived, sendMeIfDue, ge_iff_le, decide_eq_true_eq, not_le.mpr hc,
    not_le.mpr hs, if_false]

/-! ## Begin, Write, Read, Close -/

/-- The loop of `Begin` waiting for RELAY_CONNECTED on stream `id`: cells
for other streams are skipped. -/
def waitConnected (id : UInt16) (s : σ) : Except String Stream × σ :=
  match h : P.receiveRelay s with
  | (.error e, s') => (.error ("receive relay response: " ++ e), s')
  | (.ok m, s') =>
    if m.streamID ≠ id then
      have := P.receiveRelay_pending s m s' h
      waitConnected id s'
    else if m.cmd = relayConnected then (.ok (newStream id), s')
    else if m.cmd = relayEnd then
      (.error ("stream rejected: RELAY_END reason=" ++ toString (m.data.getD 0 0)), s')
    else (.error ("unexpected relay command " ++ toString m.cmd ++ " while waiting for CONNECTED"), s')
termination_by P.pending s

theorem waitConnected_unfold (id : UInt16) (s : σ) :
    waitConnected P id s =
      match P.receiveRelay s with
      | (.error e, s') => (.error ("receive relay response: " ++ e), s')
      | (.ok m, s') =>
        if m.streamID ≠ id then waitConnected P id s'
        else if m.cmd = relayConnected then (.ok (newStream id), s')
        else if m.cmd = relayEnd then
          (.error ("stream rejected: RELAY_END reason=" ++ toString (m.data.getD 0 0)), s')
        else (.error ("unexpected relay command " ++ toString m.cmd ++ " while waiting for CONNECTED"), s') := by
  rw [waitConnected]
  split <;> rename_i h <;> conv_rhs => rw [h]

/-- `Begin`; `target` is the bytes of `host:port`. Returns the stream, the
counter after the allocation, and the circuit. -/
def begin (next : UInt32) (s : σ) (target : Bytes) : Except String Stream × UInt32 × σ :=
  match allocStreamID next with
  | (.error e, next') => (.error e, next', s)
  | (.ok id, next') =>
    match P.sendRelay s relayBegin id (target ++ [0, 0, 0, 0, 0]) with
    | (.error e, s') => (.error ("send RELAY_BEGIN: " ++ e), next', s')
    | (.ok (), s') => ((waitConnected P id s').1, next', (waitConnected P id s').2)

/-- The loop of `Write` over chunks of at most 498 bytes, with the bytes
sent so far. -/
def writeLoop (st : Stream) (s : σ) (total : Nat) (p : Bytes) :
    (Nat × Except String Unit) × Stream × σ :=
  match p with
  | [] => ((total, .ok ()), st, s)
  | b :: bs =>
    if st.circWindow ≤ 0 ∨ st.streamWindow ≤ 0 then
      ((total, .error ("send window exhausted (circ=" ++ toString st.circWindow ++ ", stream=" ++
        toString st.streamWindow ++ ")")), st, s)
    else
      match P.sendRelay s relayData st.id ((b :: bs).take maxRelayDataLen) with
      | (.error e, s') => ((total, .error ("send RELAY_DATA: " ++ e)), st, s')
      | (.ok (), s') =>
        writeLoop { st with circWindow := st.circWindow - 1, streamWindow := st.streamWindow - 1 } s'
          (total + ((b :: bs).take maxRelayDataLen).length) ((b :: bs).drop maxRelayDataLen)
termination_by p.length
decreasing_by simp [maxRelayDataLen]; omega

/-- `Stream.Write`: the bytes written and the error, if any. -/
def write (st : Stream) (s : σ) (p : Bytes) : (Nat × Except String Unit) × Stream × σ :=
  if st.closed then ((0, .error "stream closed"), st, s) else writeLoop P st s 0 p

theorem write_of_open (st : Stream) (s : σ) (p : Bytes) (h : st.closed = false) :
    write P st s p = writeLoop P st s 0 p := by
  simp [write, h]

/-- The loop of `Read` once the buffer is empty: circuit-level SENDMEs and
stream-level SENDMEs for this stream credit the windows, cells for other
streams are discarded, DATA is delivered into `n` bytes and the rest
buffered, END sets `eof`. -/
def readLoop (st : Stream) (s : σ) (n : Nat) : Except String Bytes × Stream × σ :=
  match h : P.receiveRelay s with
  | (.error e, s') => (.error ("receive relay: " ++ e), st, s')
  | (.ok m, s') =>
    have := P.receiveRelay_pending s m s' h
    if m.cmd = relaySendMe ∧ m.streamID = 0 then
      readLoop { st with circWindow := st.circWindow + 100 } s' n
    else if m.streamID ≠ st.id then readLoop st s' n
    else if m.cmd = relayData then
      match handleDataReceived P st s' with
      | (.error e, st', s'') => (.error e, st', s'')
      | (.ok (), st', s'') => (.ok (m.data.take n), { st' with buf := st'.buf ++ m.data.drop n }, s'')
    else if m.cmd = relayEnd then (.error "EOF", { st with eof := true }, s')
    else if m.cmd = relaySendMe then readLoop { st with streamWindow := st.streamWindow + 50 } s' n
    else (.error ("unexpected relay command " ++ toString m.cmd ++ " on stream"), st, s')
termination_by P.pending s

theorem readLoop_unfold (st : Stream) (s : σ) (n : Nat) :
    readLoop P st s n =
      match P.receiveRelay s with
      | (.error e, s') => (.error ("receive relay: " ++ e), st, s')
      | (.ok m, s') =>
        if m.cmd = relaySendMe ∧ m.streamID = 0 then
          readLoop P { st with circWindow := st.circWindow + 100 } s' n
        else if m.streamID ≠ st.id then readLoop P st s' n
        else if m.cmd = relayData then
          match handleDataReceived P st s' with
          | (.error e, st', s'') => (.error e, st', s'')
          | (.ok (), st', s'') => (.ok (m.data.take n), { st' with buf := st'.buf ++ m.data.drop n }, s'')
        else if m.cmd = relayEnd then (.error "EOF", { st with eof := true }, s')
        else if m.cmd = relaySendMe then readLoop P { st with streamWindow := st.streamWindow + 50 } s' n
        else (.error ("unexpected relay command " ++ toString m.cmd ++ " on stream"), st, s') := by
  rw [readLoop]
  split <;> rename_i h <;> conv_rhs => rw [h]

section Steps

variable {st : Stream} {s s' : σ} {n : Nat} {m : RelayMsg}

theorem writeLoop_nil (total : Nat) : writeLoop P st s total [] = ((total, .ok ()), st, s) := by
  rw [writeLoop]

theorem writeLoop_blocked {total : Nat} {b : UInt8} {bs : Bytes}
    (hw : st.circWindow ≤ 0 ∨ st.streamWindow ≤ 0) :
    writeLoop P st s total (b :: bs) = ((total, .error ("send window exhausted (circ=" ++
      toString st.circWindow ++ ", stream=" ++ toString st.streamWindow ++ ")")), st, s) := by
  rw [writeLoop, if_pos hw]

theorem writeLoop_sendError {total : Nat} {b : UInt8} {bs : Bytes} {e : String}
    (hw : ¬ (st.circWindow ≤ 0 ∨ st.streamWindow ≤ 0))
    (hs : P.sendRelay s relayData st.id ((b :: bs).take maxRelayDataLen) = (.error e, s')) :
    writeLoop P st s total (b :: bs) = ((total, .error ("send RELAY_DATA: " ++ e)), st, s') := by
  rw [writeLoop, if_neg hw, hs]

/-- Each chunk sent spends one unit of both windows. -/
theorem writeLoop_sent {total : Nat} {b : UInt8} {bs : Bytes}
    (hw : ¬ (st.circWindow ≤ 0 ∨ st.streamWindow ≤ 0))
    (hs : P.sendRelay s relayData st.id ((b :: bs).take maxRelayDataLen) = (.ok (), s')) :
    writeLoop P st s total (b :: bs) =
      writeLoop P { st with circWindow := st.circWindow - 1, streamWindow := st.streamWindow - 1 } s'
        (total + ((b :: bs).take maxRelayDataLen).length) ((b :: bs).drop maxRelayDataLen) := by
  rw [writeLoop, if_neg hw, hs]

theorem readLoop_error {e : String} (hr : P.receiveRelay s = (.error e, s')) :
    readLoop P st s n = (.error ("receive relay: " ++ e), st, s') := by
  rw [readLoop_unfold, hr]

/-- A circuit-level SENDME credits the circuit window. -/
theorem readLoop_circSendMe (hr : P.receiveRelay s = (.ok m, s')) (hc : m.cmd = relaySendMe ∧ m.streamID = 0) :
    readLoop P st s n = readLoop P { st with circWindow := st.circWindow + 100 } s' n := by
  rw [readLoop_unfold, hr]
  simp only [hc, and_self, if_true]

/-- A message for another stream, not a circuit-level SENDME, is dropped. -/
theorem readLoop_skip (hr : P.receiveRelay s = (.ok m, s')) (hc : ¬ (m.cmd = relaySendMe ∧ m.streamID = 0))
    (hid : m.streamID ≠ st.id) : readLoop P st s n = readLoop P st s' n := by
  rw [readLoop_unfold, hr]
  simp only [hc, hid, if_false, ne_eq, not_false_eq_true, if_true]

theorem readLoop_data (hr : P.receiveRelay s = (.ok m, s')) (hid : m.streamID = st.id)
    (hcmd : m.cmd = relayData) :
    readLoop P st s n =
      match handleDataReceived P st s' with
      | (.error e, st', s'') => (.error e, st', s'')
      | (.ok (), st', s'') => (.ok (m.data.take n), { st' with buf := st'.buf ++ m.data.drop n }, s'') := by
  rw [readLoop_unfold, hr]
  simp only [hid, hcmd, ne_eq, not_true_eq_false, if_false, if_true,
    show relayData ≠ relaySendMe by decide, false_and]

theorem readLoop_end (hr : P.receiveRelay s = (.ok m, s')) (hid : m.streamID = st.id)
    (hcmd : m.cmd = relayEnd) : readLoop P st s n = (.error "EOF", { st with eof := true }, s') := by
  rw [readLoop_unfold, hr]
  simp only [hid, hcmd, ne_eq, not_true_eq_false, if_false, if_true,
    show relayEnd ≠ relaySendMe by decide, show relayEnd ≠ relayData by decide, false_and]

/-- A stream-level SENDME for this stream credits the stream window. -/
theorem readLoop_streamSendMe (hr : P.receiveRelay s = (.ok m, s')) (h0 : m.streamID ≠ 0)
    (hid : m.streamID = st.id) (hcmd : m.cmd = relaySendMe) :
    readLoop P st s n = readLoop P { st with streamWindow := st.streamWindow + 50 } s' n := by
  have h0' : st.id ≠ 0 := hid ▸ h0
  rw [readLoop_unfold, hr]
  simp only [hid, hcmd, h0', ne_eq, not_true_eq_false, and_false, if_false, if_true,
    show relaySendMe ≠ relayData by decide, show relaySendMe ≠ relayEnd by decide, not_false_eq_true]

theorem readLoop_unexpected (hr : P.receiveRelay s = (.ok m, s')) (hid : m.streamID = st.id)
    (hd : m.cmd ≠ relayData) (he : m.cmd ≠ relayEnd) (hs : m.cmd ≠ relaySendMe) :
    readLoop P st s n =
      (.error ("unexpected relay command " ++ toString m.cmd ++ " on stream"), st, s') := by
  rw [readLoop_unfold, hr]
  simp only [hid, hd, he, hs, ne_eq, not_true_eq_false, false_and, if_false]

theorem waitConnected_skip {id : UInt16} (hr : P.receiveRelay s = (.ok m, s')) (hid : m.streamID ≠ id) :
    waitConnected P id s = waitConnected P id s' := by
  rw [waitConnected_unfold, hr]
  simp only [hid, ne_eq, not_false_eq_true, if_true]

theorem waitConnected_connected {id : UInt16} (hr : P.receiveRelay s = (.ok m, s'))
    (hid : m.streamID = id) (hcmd : m.cmd = relayConnected) :
    waitConnected P id s = (.ok (newStream id), s') := by
  rw [waitConnected_unfold, hr]
  simp only [hid, hcmd, ne_eq, not_true_eq_false, if_false, if_true]

end Steps

/-- `Stream.Read` into a buffer of `n` bytes: the bytes delivered, or the
error (`EOF` for `io.EOF`). -/
def read (st : Stream) (s : σ) (n : Nat) : Except String Bytes × Stream × σ :=
  if st.eof then (.error "EOF", st, s)
  else if st.closed then (.error "stream closed", st, s)
  else if st.buf ≠ [] then (.ok (st.buf.take n), { st with buf := st.buf.drop n }, s)
  else readLoop P st s n

/-- An open stream with an empty buffer reads from the circuit. -/
theorem read_of_empty (st : Stream) (s : σ) (n : Nat) (he : st.eof = false) (hc : st.closed = false)
    (hb : st.buf = []) : read P st s n = readLoop P st s n := by
  simp [read, he, hc, hb]

/-- `Stream.Close`: RELAY_END with reason DONE, once. -/
def close (st : Stream) (s : σ) : Except String Unit × Stream × σ :=
  if st.closed then (.ok (), st, s)
  else
    ((P.sendRelay s relayEnd st.id [relayEndReasonDone]).1, { st with closed := true },
      (P.sendRelay s relayEnd st.id [relayEndReasonDone]).2)

end TorGo.L4
