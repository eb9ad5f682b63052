import TorGo.L4Stream.Port
import TorGo.L4Stream.Simulation

/-!
# Streams sharing a circuit

`Begin` and `Read` take the next relay message from the circuit, whichever
stream it is for and whichever hop recognized it: the hop index is dropped
(`_, relayCmd, streamID, data, err := ReceiveRelay()`), and a message for
another stream is skipped. Every connection of the SOCKS server shares one
circuit, so these two choices decide what a stream can be handed.

Results:
* `stream_ignores_hop`: `Begin` and `Read` give the same results and states
  when the hop indices `ReceiveRelay` reports are replaced by any others;
* `reader_drops_other_streams`: a message for another stream that reaches a
  reading loop first is consumed and dropped, leaving the loop's outcome as
  if it had never arrived.
-/
namespace TorGo.L4

open TorGo.L1 TorGo.L3

variable {σ : Type} (P : CircuitPort σ)

/-! ## Hop indices -/

/-- `P` with every message's hop index `i` reported as `f i`. -/
def CircuitPort.mapHop (f : Nat → Nat) : CircuitPort σ where
  sendRelay := P.sendRelay
  receiveRelay := fun s => ((P.receiveRelay s).1.map fun m => { m with hop := f m.hop }, (P.receiveRelay s).2)
  backwardDigest := P.backwardDigest
  pending := P.pending
  receiveRelay_pending := fun s m s' h => by
    dsimp only at h
    rcases hr : P.receiveRelay s with ⟨_ | m0, s1⟩ <;> rw [hr] at h
    · cases h
    · simp only [Except.map, Prod.mk.injEq] at h
      exact h.2 ▸ P.receiveRelay_pending s m0 s1 hr
  receiveRelay_digest := fun s m s' h => by
    dsimp only at h
    rcases hr : P.receiveRelay s with ⟨_ | m0, s1⟩ <;> rw [hr] at h
    · cases h
    · simp only [Except.map, Prod.mk.injEq] at h
      exact h.2 ▸ P.receiveRelay_digest s m0 s1 hr
  sendRelay_digest := P.sendRelay_digest

/-- Replacing hop indices keeps every command, stream id and payload. -/
theorem mapHop_sim (f : Nat → Nat) : PortSim P (P.mapHop f) id (fun m => { m with hop := f m.hop }) where
  send _ _ _ _ := rfl
  receive _ := rfl
  digest _ := rfl
  cmd _ := rfl
  streamID _ := rfl
  data _ := rfl

/-- **Hops are not looked at.** `Begin` and `Read` return the same results
and leave the same stream and circuit states when every hop index that
`ReceiveRelay` reports is replaced by another: a message recognized at the
guard or a middle hop is acted on exactly as one from the last hop. -/
theorem stream_ignores_hop (f : Nat → Nat) :
    (∀ (next : UInt32) (s : σ) (target : Bytes), begin (P.mapHop f) next s target = begin P next s target) ∧
    (∀ (st : Stream) (s : σ) (n : Nat), read (P.mapHop f) st s n = read P st s n) :=
  ⟨fun next s target => (begin_sim (mapHop_sim P f) next s target).symm,
    fun st s n => (read_sim (mapHop_sim P f) st s n).symm⟩

/-! ## Messages for other streams -/

/-- `ReceiveRelay` takes the circuit from `s` to `s'` returning only messages
for stream ids other than `id` and 0. -/
inductive OthersFirst (id : UInt16) : σ → σ → Prop
  | refl (s : σ) : OthersFirst id s s
  | step {s s' s'' : σ} {m : RelayMsg} : P.receiveRelay s = (.ok m, s') → m.streamID ≠ id →
      m.streamID ≠ 0 → OthersFirst id s' s'' → OthersFirst id s s''

/-- **Other streams' messages are dropped.** When the messages arriving first
are for other streams, the receive loops of `Read` (once its buffer is empty)
and of `Begin` consume them and end exactly as if they had never arrived. -/
theorem reader_drops_other_streams (st : Stream) {s s' : σ} (h : OthersFirst P st.id s s') :
    (∀ n, readLoop P st s n = readLoop P st s' n) ∧ waitConnected P st.id s = waitConnected P st.id s' := by
  induction h with
  | refl => exact ⟨fun _ => rfl, rfl⟩
  | step hr hid h0 _ ih =>
    exact ⟨fun n => (readLoop_skip P hr (fun h => h0 h.2) hid).trans (ih.1 n), (waitConnected_skip P hr hid).trans ih.2⟩

/-! ## On the client's circuit -/

set_option maxRecDepth 20000 in
/-- On a two-hop circuit whose guard peels the RELAY_CONNECTED for stream 1
and finds it recognized, `Begin` returns the stream: the message came from
hop 0, not from the exit. -/
theorem connected_from_guard_opens_stream :
    (decryptRelayLocked ⟨0x80000001, [testHop fun _ => 0, testHop fun _ => 0], 0⟩
      (testRelayCell 0x80000001 relayConnected 1).cell.bytes).1 = .ok ⟨0, relayConnected, 1, []⟩ ∧
    (begin (linkPort fun _ => 0) 1 (⟨0x80000001, [testHop fun _ => 0, testHop fun _ => 0], 0⟩,
      ⟨(testRelayCell 0x80000001 relayConnected 1).cell.bytes, [], []⟩) []).1 = .ok (newStream 1) := by
  have hd : (decryptRelayLocked ⟨0x80000001, [testHop fun _ => 0, testHop fun _ => 0], 0⟩
      (testRelayCell 0x80000001 relayConnected 1).cell.bytes).1 = .ok ⟨0, relayConnected, 1, []⟩ := rfl
  obtain ⟨hs, hin⟩ := sendRelay_ok ⟨0x80000001, [testHop fun _ => 0, testHop fun _ => 0], 0⟩
    ⟨(testRelayCell 0x80000001 relayConnected 1).cell.bytes, [], []⟩ relayBegin 1 ([] ++ [0, 0, 0, 0, 0])
    (fun _ => 0) (List.cons_ne_nil _ _) (by decide)
  have hc := receiveRelay_relayCell ⟨0x80000001, [testHop fun _ => 0, testHop fun _ => 0], 0⟩ ⟨[], [], []⟩
    (testRelayCell 0x80000001 relayConnected 1) [] rfl
  rw [List.append_nil] at hc
  have hr : ((linkPort fun _ => 0).receiveRelay (sendRelay ⟨0x80000001, [testHop fun _ => 0, testHop fun _ => 0], 0⟩
      ⟨(testRelayCell 0x80000001 relayConnected 1).cell.bytes, [], []⟩ relayBegin 1 ([] ++ [0, 0, 0, 0, 0])
      (fun _ => 0)).2).1 = .ok ⟨0, relayConnected, 1, []⟩ := by
    show (receiveRelay _ _).1 = _
    rw [receiveRelay_link, hin, (receiveRelay_back _ (sendRelay_back _ _ _ _ _ _)).1]
    exact (congrArg Prod.fst hc).trans hd
  have hs' : (linkPort fun _ => 0).sendRelay (⟨0x80000001, [testHop fun _ => 0, testHop fun _ => 0], 0⟩,
      ⟨(testRelayCell 0x80000001 relayConnected 1).cell.bytes, [], []⟩) relayBegin 1 ([] ++ [0, 0, 0, 0, 0]) =
      (.ok (), (sendRelay ⟨0x80000001, [testHop fun _ => 0, testHop fun _ => 0], 0⟩
        ⟨(testRelayCell 0x80000001 relayConnected 1).cell.bytes, [], []⟩ relayBegin 1 ([] ++ [0, 0, 0, 0, 0])
        (fun _ => 0)).2) := Prod.ext hs rfl
  refine ⟨hd, ?_⟩
  unfold begin
  rw [allocStreamID_of_ne_zero (by decide), if_pos (by decide)]
  dsimp only
  rw [show UInt32.toUInt16 1 = 1 from rfl, hs']
  dsimp only
  rw [waitConnected_connected _ (Prod.ext hr rfl : _ = (_, _)) rfl rfl]

set_option maxRecDepth 20000 in
/-- The DATA cell for stream 2 on the one-hop test circuit. -/
theorem receiveRelay_test_data_cell :
    (linkPort fun _ => 0).receiveRelay (⟨0x80000001, [testHop fun _ => 0], 0⟩,
      ⟨(testRelayCell 0x80000001 relayData 2).cell.bytes, [], []⟩) =
      (.ok ⟨0, relayData, 2, []⟩, (decryptRelayLocked ⟨0x80000001, [testHop fun _ => 0], 0⟩
        (testRelayCell 0x80000001 relayData 2).cell.bytes).2, ⟨[], [], []⟩) := by
  have hr := receiveRelay_relayCell ⟨0x80000001, [testHop fun _ => 0], 0⟩ ⟨[], [], []⟩
    (testRelayCell 0x80000001 relayData 2) [] rfl
  rw [List.append_nil] at hr
  exact hr.trans (Prod.ext rfl rfl)

/-- Stream 1's receive loops skip the DATA cell for stream 2. -/
theorem reader_drops_data_for_stream_two :
    OthersFirst (linkPort fun _ => 0) 1 (⟨0x80000001, [testHop fun _ => 0], 0⟩,
      ⟨(testRelayCell 0x80000001 relayData 2).cell.bytes, [], []⟩)
      ((decryptRelayLocked ⟨0x80000001, [testHop fun _ => 0], 0⟩
        (testRelayCell 0x80000001 relayData 2).cell.bytes).2, ⟨[], [], []⟩) ∧
    (∀ n, readLoop (linkPort fun _ => 0) (newStream 1) (⟨0x80000001, [testHop fun _ => 0], 0⟩,
        ⟨(testRelayCell 0x80000001 relayData 2).cell.bytes, [], []⟩) n =
      readLoop (linkPort fun _ => 0) (newStream 1) ((decryptRelayLocked ⟨0x80000001, [testHop fun _ => 0], 0⟩
        (testRelayCell 0x80000001 relayData 2).cell.bytes).2, ⟨[], [], []⟩) n) ∧
    waitConnected (linkPort fun _ => 0) 1 (⟨0x80000001, [testHop fun _ => 0], 0⟩,
        ⟨(testRelayCell 0x80000001 relayData 2).cell.bytes, [], []⟩) =
      waitConnected (linkPort fun _ => 0) 1 ((decryptRelayLocked ⟨0x80000001, [testHop fun _ => 0], 0⟩
        (testRelayCell 0x80000001 relayData 2).cell.bytes).2, ⟨[], [], []⟩) :=
  have h : OthersFirst (linkPort fun _ => 0) 1 _ _ :=
    .step receiveRelay_test_data_cell (by decide) (by decide) (.refl _)
  ⟨h, reader_drops_other_streams _ (newStream 1) h⟩

/-- On a one-hop circuit shared by streams 1 and 2, a DATA cell for stream
2 that stream 1's `Read` reaches first is consumed and dropped: stream 2
would have read it, but after stream 1's `Read` finds the link exhausted. -/
theorem data_for_other_stream_lost :
    (read (linkPort fun _ => 0) (newStream 2) (⟨0x80000001, [testHop fun _ => 0], 0⟩,
      ⟨(testRelayCell 0x80000001 relayData 2).cell.bytes, [], []⟩) 10).1 = .ok [] ∧
    (read (linkPort fun _ => 0) (newStream 2)
      (read (linkPort fun _ => 0) (newStream 1) (⟨0x80000001, [testHop fun _ => 0], 0⟩,
        ⟨(testRelayCell 0x80000001 relayData 2).cell.bytes, [], []⟩) 10).2.2 10).1 =
      .error "receive relay: read cell: read cell header: EOF" := by
  refine ⟨?_, ?_⟩
  · rw [read_of_empty _ _ _ _ rfl rfl rfl, readLoop_data _ receiveRelay_test_data_cell rfl rfl,
      handleDataReceived_quiet _ _ _ (by decide) (by decide)]
    rfl
  · rw [read_of_empty _ (newStream 1) _ 10 rfl rfl rfl,
      readLoop_skip _ receiveRelay_test_data_cell (by decide) (by decide),
      readLoop_error _ (receiveRelay_nil _ ⟨[], [], []⟩), read_of_empty _ _ _ _ rfl rfl rfl,
      readLoop_error _ (receiveRelay_nil _ ⟨[], [], []⟩)]
    rfl

end TorGo.L4
