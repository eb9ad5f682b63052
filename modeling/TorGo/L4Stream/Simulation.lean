import TorGo.L4Stream.Stream

/-!
# What the stream package reads of its circuit

The package sees a circuit only through `SendRelay`, `ReceiveRelay` and
`BackwardDigest`, and of a received message only its command, stream id and
data. `PortSim Q P f g` says that `Q` behaves as `P` seen through a map `f`
of states, up to a map `g` of messages that keeps those three fields. Then
every function of the package gives on `Q` the results it gives on `P`.

Results:
* `readLoop_sim`, `writeLoop_sim`, `waitConnected_sim`, `handleDataReceived_sim`:
  each loop of the package gives the same results and stream, and the state
  seen through `f`;
* `begin_sim`, `read_sim`, `write_sim`, `close_sim`: the same for the calls.
-/
namespace TorGo.L4

open TorGo.L1 TorGo.L3

variable {σ τ : Type} {Q : CircuitPort τ} {P : CircuitPort σ} {f : τ → σ} {g : RelayMsg → RelayMsg}

/-- `Q` is `P` seen through `f`, its messages through `g`. -/
structure PortSim (Q : CircuitPort τ) (P : CircuitPort σ) (f : τ → σ) (g : RelayMsg → RelayMsg) : Prop where
  send : ∀ t cmd sid data, ((Q.sendRelay t cmd sid data).1, f (Q.sendRelay t cmd sid data).2) =
    P.sendRelay (f t) cmd sid data
  receive : ∀ t, ((Q.receiveRelay t).1.map g, f (Q.receiveRelay t).2) = P.receiveRelay (f t)
  digest : ∀ t, Q.backwardDigest t = P.backwardDigest (f t)
  cmd : ∀ m, (g m).cmd = m.cmd
  streamID : ∀ m, (g m).streamID = m.streamID
  data : ∀ m, (g m).data = m.data

/-- A result with its state seen through `f`. -/
def simRes (f : τ → σ) {α : Type} (r : α × Stream × τ) : α × Stream × σ := (r.1, r.2.1, f r.2.2)

section Sim

variable (h : PortSim Q P f g) {t t' : τ} {m : RelayMsg} {e : String}
include h

theorem PortSim.receive_ok (hr : Q.receiveRelay t = (.ok m, t')) : P.receiveRelay (f t) = (.ok (g m), f t') := by
  rw [← h.receive, hr]
  rfl

theorem PortSim.receive_error (hr : Q.receiveRelay t = (.error e, t')) :
    P.receiveRelay (f t) = (.error e, f t') := by
  rw [← h.receive, hr]
  rfl

theorem PortSim.send_ok {cmd : UInt8} {sid : UInt16} {data : Bytes}
    (hs : Q.sendRelay t cmd sid data = (.ok (), t')) : P.sendRelay (f t) cmd sid data = (.ok (), f t') := by
  rw [← h.send, hs]

theorem PortSim.send_error {cmd : UInt8} {sid : UInt16} {data : Bytes}
    (hs : Q.sendRelay t cmd sid data = (.error e, t')) :
    P.sendRelay (f t) cmd sid data = (.error e, f t') := by
  rw [← h.send, hs]

theorem sendMeIfDue_sim (due : Bool) (sid : UInt16) (what : String) (credit : Stream → Stream)
    (st : Stream) (t : τ) :
    simRes f (sendMeIfDue Q due sid what credit st t) = sendMeIfDue P due sid what credit st (f t) := by
  unfold sendMeIfDue
  split
  · rw [← h.digest]
    rcases sendMeV1 (Q.backwardDigest t) with _ | payload
    · rfl
    dsimp only
    rcases hs : Q.sendRelay t relaySendMe sid payload with ⟨_ | ⟨⟩, t'⟩
    · rw [h.send_error hs]; rfl
    · rw [h.send_ok hs]; rfl
  · rfl

theorem handleDataReceived_sim (st : Stream) (t : τ) :
    simRes f (handleDataReceived Q st t) = handleDataReceived P st (f t) := by
  unfold handleDataReceived
  dsimp only
  rw [← sendMeIfDue_sim h]
  rcases sendMeIfDue Q _ 0 "circuit" _ _ t with ⟨_ | ⟨⟩, st', t'⟩
  · rfl
  · exact sendMeIfDue_sim h _ _ _ _ st' t'

theorem readLoop_sim (st : Stream) (t : τ) (n : Nat) :
    simRes f (readLoop Q st t n) = readLoop P st (f t) n := by
  induction st, t, n using readLoop.induct Q with
  | case1 st t n e t' hr =>
    rw [readLoop_error Q hr, readLoop_error P (h.receive_error hr)]
    rfl
  | case2 st t n m t' hr _ hc ih =>
    rw [readLoop_circSendMe Q hr hc, ih,
      readLoop_circSendMe P (h.receive_ok hr) (by rw [h.cmd, h.streamID]; exact hc)]
  | case3 st t n m t' hr _ hc hid ih =>
    rw [readLoop_skip Q hr hc hid, ih,
      readLoop_skip P (h.receive_ok hr) (by rwa [h.cmd, h.streamID]) (by rwa [h.streamID])]
  | case4 st t n m t' hr _ _ hid hd e st' t'' hh =>
    rw [readLoop_data Q hr (not_not.mp hid) hd,
      readLoop_data P (h.receive_ok hr) (by rw [h.streamID]; exact not_not.mp hid) (by rwa [h.cmd]),
      ← handleDataReceived_sim h, hh]
    rfl
  | case5 st t n m t' hr _ _ hid hd st' t'' hh =>
    rw [readLoop_data Q hr (not_not.mp hid) hd,
      readLoop_data P (h.receive_ok hr) (by rw [h.streamID]; exact not_not.mp hid) (by rwa [h.cmd]),
      ← handleDataReceived_sim h, hh, h.data]
    rfl
  | case6 st t n m t' hr _ _ hid _ he =>
    rw [readLoop_end Q hr (not_not.mp hid) he,
      readLoop_end P (h.receive_ok hr) (by rw [h.streamID]; exact not_not.mp hid) (by rwa [h.cmd])]
    rfl
  | case7 st t n m t' hr _ hc hid _ _ hs ih =>
    have h0 : m.streamID ≠ 0 := fun h0 => hc ⟨hs, h0⟩
    rw [readLoop_streamSendMe Q hr h0 (not_not.mp hid) hs, ih,
      readLoop_streamSendMe P (h.receive_ok hr) (by rwa [h.streamID])
        (by rw [h.streamID]; exact not_not.mp hid) (by rwa [h.cmd])]
  | case8 st t n m t' hr _ _ hid hd he hs =>
    rw [readLoop_unexpected Q hr (not_not.mp hid) hd he hs,
      readLoop_unexpected P (h.receive_ok hr) (by rw [h.streamID]; exact not_not.mp hid)
        (by rwa [h.cmd]) (by rwa [h.cmd]) (by rwa [h.cmd]), h.cmd]
    rfl

theorem writeLoop_sim (st : Stream) (t : τ) (total : Nat) (p : Bytes) :
    simRes f (writeLoop Q st t total p) = writeLoop P st (f t) total p := by
  induction st, t, total, p using writeLoop.induct Q with
  | case1 st t total => rw [writeLoop_nil, writeLoop_nil]; rfl
  | case2 st t total b bs hw => rw [writeLoop_blocked Q hw, writeLoop_blocked P hw]; rfl
  | case3 st t total b bs hw e t' hs =>
    rw [writeLoop_sendError Q hw hs, writeLoop_sendError P hw (h.send_error hs)]
    rfl
  | case4 st t total b bs hw t' hs ih => rw [writeLoop_sent Q hw hs, ih, writeLoop_sent P hw (h.send_ok hs)]

theorem waitConnected_sim (id : UInt16) (t : τ) :
    ((waitConnected Q id t).1, f (waitConnected Q id t).2) = waitConnected P id (f t) := by
  induction t using waitConnected.induct Q id with
  | case1 t e t' hr =>
    rw [waitConnected_unfold, hr, waitConnected_unfold, h.receive_error hr]
  | case2 t m t' hr hid _ ih =>
    rw [waitConnected_skip Q hr hid, ih, waitConnected_skip P (h.receive_ok hr) (by rwa [h.streamID])]
  | case3 t m t' hr hid hc =>
    rw [waitConnected_connected Q hr (not_not.mp hid) hc,
      waitConnected_connected P (h.receive_ok hr) (by rw [h.streamID]; exact not_not.mp hid) (by rwa [h.cmd])]
  | case4 t m t' hr hid hc he =>
    rw [waitConnected_unfold, hr, waitConnected_unfold, h.receive_ok hr]
    dsimp only
    simp only [h.cmd, h.streamID, h.data, if_neg hid, if_neg hc, if_pos he]
  | case5 t m t' hr hid hc he =>
    rw [waitConnected_unfold, hr, waitConnected_unfold, h.receive_ok hr]
    dsimp only
    simp only [h.cmd, h.streamID, if_neg hid, if_neg hc, if_neg he]

theorem begin_sim (next : UInt32) (t : τ) (target : Bytes) :
    ((begin Q next t target).1, (begin Q next t target).2.1, f (begin Q next t target).2.2) =
      begin P next (f t) target := by
  unfold begin
  rcases allocStreamID next with ⟨_ | id, next'⟩
  · rfl
  · dsimp only
    rcases hs : Q.sendRelay t relayBegin id (target ++ [0, 0, 0, 0, 0]) with ⟨_ | u, t'⟩
    · rw [h.send_error hs]
    · cases u
      rw [h.send_ok hs]
      dsimp only
      rw [← waitConnected_sim h]

theorem read_sim (st : Stream) (t : τ) (n : Nat) : simRes f (read Q st t n) = read P st (f t) n := by
  unfold read
  split_ifs
  all_goals first | rfl | exact readLoop_sim h st t n

theorem write_sim (st : Stream) (t : τ) (p : Bytes) : simRes f (write Q st t p) = write P st (f t) p := by
  unfold write
  split_ifs
  · rfl
  · exact writeLoop_sim h st t 0 p

theorem close_sim (st : Stream) (t : τ) : simRes f (close Q st t) = close P st (f t) := by
  unfold close
  split_ifs
  · rfl
  · rw [← h.send]; rfl

end Sim

end TorGo.L4
