import TorGo.L4Stream.Port
import TorGo.L4Stream.Simulation

/-!
# Flow control over whole runs

`Write` spends both send windows of a stream, one unit per RELAY_DATA cell;
`Read` credits them for the SENDMEs it receives (`+100` for a circuit-level
one, `+50` for one on the stream), and `handleDataReceived` sends a
circuit-level SENDME every 100 DATA cells and a stream-level one every 50.
All four are fields of the `Stream`: the circuit window and the circuit-level
counter too are kept per stream. `handleDataReceived` credits the stream's
send windows for every SENDME it sends as well.

`CircuitPort.logged` records what calls through a port did (`Event`): every
message sent, and every message received with the backward digest just after
it was decrypted. A stream's run (`streamRun`) is any sequence of its
`Write`, `Read` and `Close` calls, each made on whatever circuit state it
finds, so other streams and `Begin` calls may use the circuit in between.

Results:
* `call_logged`: the log only observes: each call leaves the same stream and
  circuit as on the unlogged port;
* `streamRun_books`: over every run, each window is its initial value plus
  the credits of the SENDMEs the stream received and sent, minus the DATA
  cells it sent, and neither window is negative;
* `streamRun_schedule`: when sends never fail and leave the digest alone, a
  stream whose reads have taken `D` DATA cells for it has sent `D / 100`
  circuit-level and `D / 50` stream-level SENDMEs, each carrying the digest
  recorded with the DATA cell that triggered it;
* `writeLoop_sends_chunks`: with sends that never fail and windows for
  every chunk, `Write` sends its bytes as consecutive 498-byte DATA cells;
* `write_chunks_and_accounts`: with sends that never fail, `Write` sends as
  many chunks as the smaller window allows, returns their length, fails
  exactly when bytes are left, and spends one unit of each window per cell.
-/
namespace TorGo.L4

open TorGo.L1 TorGo.L3

/-! ## Logs -/

/-- One use of the circuit by a stream's calls: a relay message sent, or one
received with the backward digest just after it was decrypted. -/
inductive Event where
  | sent (cmd : UInt8) (sid : UInt16) (data : Bytes)
  | received (m : RelayMsg) (digest : Bytes)
  deriving DecidableEq, Repr

/-- The event sent relay command `cmd` on stream `sid`. -/
def Event.isSent (cmd : UInt8) (sid : UInt16) : Event → Bool
  | .sent c s _ => c == cmd && s == sid
  | .received _ _ => false

/-- The event received relay command `cmd` on stream `sid`. -/
def Event.isReceived (cmd : UInt8) (sid : UInt16) : Event → Bool
  | .received m _ => m.cmd == cmd && m.streamID == sid
  | .sent _ _ _ => false

/-- The relay messages `cmd` sent on stream `sid`. -/
def sentCount (cmd : UInt8) (sid : UInt16) (log : List Event) : Nat :=
  log.countP (Event.isSent cmd sid)

/-- The relay messages `cmd` received on stream `sid`. -/
def receivedCount (cmd : UInt8) (sid : UInt16) (log : List Event) : Nat :=
  log.countP (Event.isReceived cmd sid)

section Counts

variable {cmd : UInt8} {sid : UInt16}

@[simp] theorem sentCount_nil : sentCount cmd sid [] = 0 := rfl

@[simp] theorem receivedCount_nil : receivedCount cmd sid [] = 0 := rfl

@[simp] theorem sentCount_append (a b : List Event) :
    sentCount cmd sid (a ++ b) = sentCount cmd sid a + sentCount cmd sid b :=
  List.countP_append _ _ _

@[simp] theorem receivedCount_append (a b : List Event) :
    receivedCount cmd sid (a ++ b) = receivedCount cmd sid a + receivedCount cmd sid b :=
  List.countP_append _ _ _

@[simp] theorem sentCount_sent (c : UInt8) (s : UInt16) (d : Bytes) :
    sentCount cmd sid [.sent c s d] = if c = cmd ∧ s = sid then 1 else 0 := by
  simp [sentCount, List.countP_cons, Event.isSent]

@[simp] theorem sentCount_received (m : RelayMsg) (d : Bytes) : sentCount cmd sid [.received m d] = 0 := rfl

@[simp] theorem receivedCount_sent (c : UInt8) (s : UInt16) (d : Bytes) :
    receivedCount cmd sid [.sent c s d] = 0 := rfl

@[simp] theorem sentCount_sendMes (sids : List UInt16) (p : Bytes) :
    sentCount relaySendMe sid (sids.map fun x => .sent relaySendMe x p) = sids.count sid := by
  induction sids with
  | nil => rfl
  | cons x xs ih =>
    rw [List.map_cons, ← List.singleton_append, sentCount_append, ih, sentCount_sent, List.count_cons]
    simp only [true_and, beq_iff_eq]
    omega

@[simp] theorem receivedCount_sendMes (sids : List UInt16) (p : Bytes) :
    receivedCount cmd sid (sids.map fun x => .sent relaySendMe x p) = 0 := by
  induction sids with
  | nil => rfl
  | cons x xs ih => rw [List.map_cons, ← List.singleton_append, receivedCount_append, ih]; rfl

@[simp] theorem receivedCount_received (m : RelayMsg) (d : Bytes) :
    receivedCount cmd sid [.received m d] = if m.cmd = cmd ∧ m.streamID = sid then 1 else 0 := by
  simp [receivedCount, List.countP_cons, Event.isReceived]

end Counts

/-! ## Logged ports -/

variable {σ : Type} (P : CircuitPort σ)

/-- `P`, with a log of what the calls made through it did. -/
def CircuitPort.logged : CircuitPort (σ × List Event) where
  sendRelay := fun sl cmd sid data =>
    match P.sendRelay sl.1 cmd sid data with
    | (.ok (), s') => (.ok (), s', sl.2 ++ [.sent cmd sid data])
    | (.error e, s') => (.error e, s', sl.2)
  receiveRelay := fun sl =>
    match P.receiveRelay sl.1 with
    | (.ok m, s') => (.ok m, s', sl.2 ++ [.received m (P.backwardDigest s')])
    | (.error e, s') => (.error e, s', sl.2)
  backwardDigest := fun sl => P.backwardDigest sl.1
  pending := fun sl => P.pending sl.1
  receiveRelay_pending := fun sl _ _ h => by
    dsimp only at h
    rcases hr : P.receiveRelay sl.1 with ⟨_ | _, _⟩ <;> rw [hr] at h <;> cases h
    exact P.receiveRelay_pending _ _ _ hr
  receiveRelay_digest := fun sl _ _ h => by
    dsimp only at h
    rcases hr : P.receiveRelay sl.1 with ⟨_ | _, _⟩ <;> rw [hr] at h <;> cases h
    exact P.receiveRelay_digest _ _ _ hr
  sendRelay_digest := fun sl cmd sid data h => by
    have h' := P.sendRelay_digest sl.1 cmd sid data h
    dsimp only
    rcases hs : P.sendRelay sl.1 cmd sid data with ⟨_ | ⟨⟩, s'⟩ <;> rw [hs] at h' <;> exact h'

section Logged

variable {sl sl' : σ × List Event} {cmd : UInt8} {sid : UInt16} {data : Bytes}

theorem logged_receiveRelay_ok {m : RelayMsg} (h : P.logged.receiveRelay sl = (.ok m, sl')) :
    P.receiveRelay sl.1 = (.ok m, sl'.1) ∧ sl'.2 = sl.2 ++ [.received m (P.backwardDigest sl'.1)] := by
  dsimp only [CircuitPort.logged] at h
  rcases hr : P.receiveRelay sl.1 with ⟨_ | _, _⟩ <;> rw [hr] at h <;> cases h
  exact ⟨rfl, rfl⟩

theorem logged_receiveRelay_error {e : String} (h : P.logged.receiveRelay sl = (.error e, sl')) :
    P.receiveRelay sl.1 = (.error e, sl'.1) ∧ sl'.2 = sl.2 := by
  dsimp only [CircuitPort.logged] at h
  rcases hr : P.receiveRelay sl.1 with ⟨_ | _, _⟩ <;> rw [hr] at h <;> cases h
  exact ⟨rfl, rfl⟩

theorem logged_sendRelay_ok (h : P.logged.sendRelay sl cmd sid data = (.ok (), sl')) :
    P.sendRelay sl.1 cmd sid data = (.ok (), sl'.1) ∧ sl'.2 = sl.2 ++ [.sent cmd sid data] := by
  dsimp only [CircuitPort.logged] at h
  rcases hs : P.sendRelay sl.1 cmd sid data with ⟨_ | ⟨⟩, _⟩ <;> rw [hs] at h <;> cases h
  exact ⟨rfl, rfl⟩

theorem logged_sendRelay_error {e : String} (h : P.logged.sendRelay sl cmd sid data = (.error e, sl')) :
    P.sendRelay sl.1 cmd sid data = (.error e, sl'.1) ∧ sl'.2 = sl.2 := by
  dsimp only [CircuitPort.logged] at h
  rcases hs : P.sendRelay sl.1 cmd sid data with ⟨_ | ⟨⟩, _⟩ <;> rw [hs] at h <;> cases h
  exact ⟨rfl, rfl⟩

theorem logged_sendRelay_of_ok (h : (P.sendRelay sl.1 cmd sid data).1 = .ok ()) :
    P.logged.sendRelay sl cmd sid data =
      (.ok (), (P.sendRelay sl.1 cmd sid data).2, sl.2 ++ [.sent cmd sid data]) := by
  dsimp only [CircuitPort.logged]
  rw [show P.sendRelay sl.1 cmd sid data = (.ok (), (P.sendRelay sl.1 cmd sid data).2) from Prod.ext h rfl]

end Logged

/-! ## A stream's calls -/

/-- A call on an open stream: `Write`, `Read` into `n` bytes, `Close`. -/
inductive StreamCall where
  | write (p : Bytes)
  | read (n : Nat)
  | close

/-- The stream and circuit state after a call; its result is dropped. -/
def StreamCall.run : StreamCall → Stream → σ → Stream × σ
  | .write p, st, s => (TorGo.L4.write P st s p).2
  | .read n, st, s => (TorGo.L4.read P st s n).2
  | .close, st, s => (TorGo.L4.close P st s).2

/-- A stream's calls, each on the circuit state it finds (other streams may
have used the circuit since), with the log of what its own calls did. -/
def streamRun : List (StreamCall × σ) → Stream → List Event → Stream × List Event
  | [], st, log => (st, log)
  | (c, s) :: cs, st, log => streamRun cs (c.run P.logged st (s, log)).1 (c.run P.logged st (s, log)).2.2

/-- **Runs keep what calls keep.** -/
theorem streamRun_inv (I : Stream → List Event → Prop)
    (hI : ∀ (c : StreamCall) (st : Stream) (s : σ) (log : List Event), I st log → I (c.run P.logged st (s, log)).1 (c.run P.logged st (s, log)).2.2) :
    ∀ (calls : List (StreamCall × σ)) (st : Stream) (log : List Event), I st log →
      I (streamRun P calls st log).1 (streamRun P calls st log).2
  | [], _, _, h => h
  | (c, s) :: cs, st, log, h => streamRun_inv I hI cs _ _ (hI c st s log h)

/-! ## The log only observes -/

/-- The logged port is `P` seen through the first projection. -/
theorem logged_sim : PortSim P.logged P Prod.fst id where
  send sl cmd sid data := by
    dsimp only [CircuitPort.logged]
    rcases P.sendRelay sl.1 cmd sid data with ⟨_ | ⟨⟩, _⟩ <;> rfl
  receive sl := by
    dsimp only [CircuitPort.logged]
    rcases P.receiveRelay sl.1 with ⟨_ | _, _⟩ <;> rfl
  digest _ := rfl
  cmd _ := rfl
  streamID _ := rfl
  data _ := rfl

/-- **The log only observes.** A call on the logged port leaves the stream
and the circuit as the same call on `P`. -/
theorem call_logged (c : StreamCall) (st : Stream) (s : σ) (log : List Event) :
    (c.run P.logged st (s, log)).1 = (c.run P st s).1 ∧ (c.run P.logged st (s, log)).2.1 = (c.run P st s).2 := by
  cases c with
  | write p => exact ⟨congrArg (·.2.1) (write_sim (logged_sim P) st (s, log) p),
      congrArg (·.2.2) (write_sim (logged_sim P) st (s, log) p)⟩
  | read n => exact ⟨congrArg (·.2.1) (read_sim (logged_sim P) st (s, log) n),
      congrArg (·.2.2) (read_sim (logged_sim P) st (s, log) n)⟩
  | close => exact ⟨congrArg (·.2.1) (close_sim (logged_sim P) st (s, log)),
      congrArg (·.2.2) (close_sim (logged_sim P) st (s, log))⟩

/-! ## Windows -/

/-- The send windows of stream `id` against the log of its calls: 500 and
1000, plus 50 (100) for every stream-level (circuit-level) SENDME received
or sent, minus one for every DATA cell sent; neither is negative. -/
structure Books (id : UInt16) (st : Stream) (log : List Event) : Prop where
  id_eq : st.id = id
  stream : st.streamWindow = 500 + 50 * ((receivedCount relaySendMe id log : Int) +
    sentCount relaySendMe id log) - sentCount relayData id log
  circ : st.circWindow = 1000 + 100 * ((receivedCount relaySendMe 0 log : Int) +
    sentCount relaySendMe 0 log) - sentCount relayData id log
  stream_nonneg : 0 ≤ st.streamWindow
  circ_nonneg : 0 ≤ st.circWindow

theorem books_newStream (id : UInt16) : Books id (newStream id) [] :=
  ⟨rfl, rfl, rfl, by simp [newStream], by simp [newStream]⟩

section Books

variable {id : UInt16} {st st' : Stream} {log : List Event}

/-- Books kept over new events: each window moves by the events' credits and
DATA cells, and stays non-negative. -/
theorem Books.extend (h : Books id st log) (ev : List Event) (hid : st'.id = id)
    (hs : st'.streamWindow = st.streamWindow + 50 * ((receivedCount relaySendMe id ev : Int) +
      sentCount relaySendMe id ev) - sentCount relayData id ev)
    (hc : st'.circWindow = st.circWindow + 100 * ((receivedCount relaySendMe 0 ev : Int) +
      sentCount relaySendMe 0 ev) - sentCount relayData id ev)
    (hs0 : 0 ≤ st'.streamWindow) (hc0 : 0 ≤ st'.circWindow) : Books id st' (log ++ ev) where
  id_eq := hid
  stream := by rw [hs, h.stream]; push_cast [sentCount_append, receivedCount_append]; omega
  circ := by rw [hc, h.circ]; push_cast [sentCount_append, receivedCount_append]; omega
  stream_nonneg := hs0
  circ_nonneg := hc0

/-- Fields other than the windows do not matter. -/
theorem Books.congr (h : Books id st log) (hid : st'.id = st.id) (hs : st'.streamWindow = st.streamWindow)
    (hc : st'.circWindow = st.circWindow) : Books id st' log :=
  ⟨hid.trans h.id_eq, hs ▸ h.stream, hc ▸ h.circ, hs ▸ h.stream_nonneg, hc ▸ h.circ_nonneg⟩

/-- A message that is no SENDME for the stream or the circuit credits nothing. -/
theorem Books.receive_quiet (h : Books id st log) {m : RelayMsg} (d : Bytes)
    (hm : m.cmd = relaySendMe → m.streamID ≠ 0 ∧ m.streamID ≠ id) : Books id st (log ++ [.received m d]) := by
  refine h.extend _ h.id_eq ?_ ?_ h.stream_nonneg h.circ_nonneg <;>
    by_cases hs : m.cmd = relaySendMe <;> simp [hs, hm]

theorem Books.receive_circ (h : Books id st log) (hid0 : id ≠ 0) {m : RelayMsg} (d : Bytes)
    (hm : m.cmd = relaySendMe ∧ m.streamID = 0) :
    Books id { st with circWindow := st.circWindow + 100 } (log ++ [.received m d]) := by
  refine h.extend _ h.id_eq ?_ ?_ h.stream_nonneg (by have := h.circ_nonneg; dsimp only; omega) <;>
    simp [hm, Ne.symm hid0]

theorem Books.receive_stream (h : Books id st log) (hid0 : id ≠ 0) {m : RelayMsg} (d : Bytes)
    (hm : m.cmd = relaySendMe ∧ m.streamID = id) :
    Books id { st with streamWindow := st.streamWindow + 50 } (log ++ [.received m d]) := by
  refine h.extend _ h.id_eq ?_ ?_ (by have := h.stream_nonneg; dsimp only; omega) h.circ_nonneg <;>
    simp [hm, hid0]

/-- A message sent that is neither SENDME nor DATA on the stream. -/
theorem Books.send_quiet (h : Books id st log) {cmd : UInt8} {sid : UInt16} {d : Bytes}
    (hc : cmd ≠ relaySendMe) (hd : ¬ (cmd = relayData ∧ sid = id)) : Books id st (log ++ [.sent cmd sid d]) := by
  refine h.extend _ h.id_eq ?_ ?_ h.stream_nonneg h.circ_nonneg <;> simp [hc, hd]

/-- One RELAY_DATA cell sent, after the window check passed. -/
theorem Books.send_data (h : Books id st log) (hw : ¬ (st.circWindow ≤ 0 ∨ st.streamWindow ≤ 0)) (d : Bytes) :
    Books id { st with circWindow := st.circWindow - 1, streamWindow := st.streamWindow - 1 }
      (log ++ [.sent relayData st.id d]) := by
  refine h.extend _ h.id_eq ?_ ?_ (by dsimp only; omega) (by dsimp only; omega) <;>
    simp [h.id_eq, show relayData ≠ relaySendMe by decide]

/-- A circuit-level SENDME sent by `handleDataReceived` credits the stream's
own circuit window. -/
theorem Books.send_circSendMe (h : Books id st log) (hid0 : id ≠ 0) (d : Bytes) :
    Books id { st with circWindow := st.circWindow + circSendMeWindow, circDataReceived := 0 }
      (log ++ [.sent relaySendMe 0 d]) := by
  refine h.extend _ h.id_eq ?_ ?_ h.stream_nonneg (by have := h.circ_nonneg; dsimp only; omega) <;>
    simp [circSendMeWindow, Ne.symm hid0, show relaySendMe ≠ relayData by decide]

/-- A stream-level SENDME sent by `handleDataReceived` credits the stream's
own stream window. -/
theorem Books.send_streamSendMe (h : Books id st log) (hid0 : id ≠ 0) (d : Bytes) :
    Books id { st with streamWindow := st.streamWindow + streamSendMeWindow, streamDataReceived := 0 }
      (log ++ [.sent relaySendMe st.id d]) := by
  refine h.extend _ h.id_eq ?_ ?_ (by have := h.stream_nonneg; dsimp only; omega) h.circ_nonneg <;>
    simp [streamSendMeWindow, h.id_eq, hid0, show relaySendMe ≠ relayData by decide]

end Books

theorem sendMeIfDue_books {id : UInt16} (due : Bool) (sid : UInt16) (what : String)
    (credit : Stream → Stream) {st : Stream} {sl : σ × List Event} (h : Books id st sl.2)
    (hcredit : ∀ d, Books id (credit st) (sl.2 ++ [.sent relaySendMe sid d])) :
    Books id (sendMeIfDue P.logged due sid what credit st sl).2.1
      (sendMeIfDue P.logged due sid what credit st sl).2.2.2 := by
  unfold sendMeIfDue
  split
  · rcases sendMeV1 (P.logged.backwardDigest sl) with _ | payload
    · exact h
    dsimp only
    rcases hs : P.logged.sendRelay sl relaySendMe sid payload with ⟨_ | ⟨⟩, sl'⟩
    · rw [(logged_sendRelay_error P hs).2]; exact h
    · rw [(logged_sendRelay_ok P hs).2]; exact hcredit _
  · exact h

theorem writeLoop_books {id : UInt16} (st : Stream) (sl : σ × List Event) (total : Nat) (p : Bytes) (h : Books id st sl.2) :
    Books id (writeLoop P.logged st sl total p).2.1 (writeLoop P.logged st sl total p).2.2.2 := by
  induction st, sl, total, p using writeLoop.induct P.logged with
  | case1 => rw [writeLoop_nil]; exact h
  | case2 st sl total b bs hw => rw [writeLoop_blocked _ hw]; exact h
  | case3 st sl total b bs hw e sl' hs =>
    rw [writeLoop_sendError _ hw hs, (logged_sendRelay_error P hs).2]
    exact h
  | case4 st sl total b bs hw sl' hs ih =>
    rw [writeLoop_sent _ hw hs]
    exact ih (by rw [(logged_sendRelay_ok P hs).2]; exact h.send_data hw _)

section BooksRun

variable {id : UInt16} (hid0 : id ≠ 0)
include hid0

theorem handleDataReceived_books {st : Stream} {sl : σ × List Event} (h : Books id st sl.2) :
    Books id (handleDataReceived P.logged st sl).2.1 (handleDataReceived P.logged st sl).2.2.2 := by
  unfold handleDataReceived
  dsimp only
  have h1 : Books id { st with
      circDataReceived := st.circDataReceived + 1
      streamDataReceived := st.streamDataReceived + 1 } sl.2 := h.congr rfl rfl rfl
  have hc := sendMeIfDue_books P (decide (st.circDataReceived + 1 ≥ circSendMeWindow)) 0 "circuit"
    (fun st => { st with circWindow := st.circWindow + circSendMeWindow, circDataReceived := 0 }) h1
    (fun d => h1.send_circSendMe hid0 d)
  rcases hr : sendMeIfDue P.logged _ 0 "circuit" _ _ sl with ⟨_ | ⟨⟩, st', sl'⟩ <;> rw [hr] at hc
  · exact hc
  · exact sendMeIfDue_books P _ _ _
      (fun st => { st with streamWindow := st.streamWindow + streamSendMeWindow, streamDataReceived := 0 }) hc
      (fun d => hc.send_streamSendMe hid0 d)

theorem readLoop_books (st : Stream) (sl : σ × List Event) (n : Nat) (h : Books id st sl.2) :
    Books id (readLoop P.logged st sl n).2.1 (readLoop P.logged st sl n).2.2.2 := by
  induction st, sl, n using readLoop.induct P.logged with
  | case1 st sl n e sl' hr =>
    rw [readLoop_error _ hr, (logged_receiveRelay_error P hr).2]
    exact h
  | case2 st sl n m sl' hr _ hc ih =>
    rw [readLoop_circSendMe _ hr hc]
    exact ih (by rw [(logged_receiveRelay_ok P hr).2]; exact h.receive_circ hid0 _ hc)
  | case3 st sl n m sl' hr _ hc hid ih =>
    rw [readLoop_skip _ hr hc hid]
    exact ih (by
      rw [(logged_receiveRelay_ok P hr).2]
      exact h.receive_quiet _ fun hs => ⟨fun h0 => hc ⟨hs, h0⟩, h.id_eq ▸ hid⟩)
  | case4 st sl n m sl' hr _ _ hid hd e st' sl'' hh =>
    have h' : Books id st sl'.2 := by
      rw [(logged_receiveRelay_ok P hr).2]
      exact h.receive_quiet _ fun hs => absurd (hd ▸ hs) (by decide)
    have := handleDataReceived_books P hid0 h'
    rw [hh] at this
    rw [readLoop_data _ hr (not_not.mp hid) hd, hh]
    exact this
  | case5 st sl n m sl' hr _ _ hid hd st' sl'' hh =>
    have h' : Books id st sl'.2 := by
      rw [(logged_receiveRelay_ok P hr).2]
      exact h.receive_quiet _ fun hs => absurd (hd ▸ hs) (by decide)
    have := handleDataReceived_books P hid0 h'
    rw [hh] at this
    rw [readLoop_data _ hr (not_not.mp hid) hd, hh]
    exact this.congr rfl rfl rfl
  | case6 st sl n m sl' hr _ _ hid _ he =>
    rw [readLoop_end _ hr (not_not.mp hid) he, (logged_receiveRelay_ok P hr).2]
    exact (h.receive_quiet _ fun hs => absurd (he ▸ hs) (by decide)).congr rfl rfl rfl
  | case7 st sl n m sl' hr _ hc hid _ _ hs ih =>
    rw [readLoop_streamSendMe _ hr (fun h0 => hc ⟨hs, h0⟩) (not_not.mp hid) hs]
    exact ih (by
      rw [(logged_receiveRelay_ok P hr).2]
      exact h.receive_stream hid0 _ ⟨hs, (not_not.mp hid).trans h.id_eq⟩)
  | case8 st sl n m sl' hr _ _ hid _ _ hs =>
    rw [readLoop_unexpected _ hr (not_not.mp hid) ‹_› ‹_› hs, (logged_receiveRelay_ok P hr).2]
    exact h.receive_quiet _ fun hs' => absurd hs' hs

/-- Every call keeps the books. -/
theorem call_books (c : StreamCall) (st : Stream) (s : σ) (log : List Event) (h : Books id st log) :
    Books id (c.run P.logged st (s, log)).1 (c.run P.logged st (s, log)).2.2 := by
  cases c with
  | write p =>
    simp only [StreamCall.run, write]
    split_ifs
    · exact h
    · exact writeLoop_books P st (s, log) 0 p h
  | read n =>
    simp only [StreamCall.run, read]
    split_ifs
    · exact h
    · exact h
    · exact h.congr rfl rfl rfl
    · exact readLoop_books P hid0 st (s, log) n h
  | close =>
    simp only [StreamCall.run, close]
    split_ifs
    · exact h
    · rcases hs : P.logged.sendRelay (s, log) relayEnd st.id [relayEndReasonDone] with ⟨_ | ⟨⟩, sl'⟩
      · rw [(logged_sendRelay_error P hs).2]
        exact h.congr rfl rfl rfl
      · rw [(logged_sendRelay_ok P hs).2]
        exact (h.send_quiet (by decide) fun hd => absurd hd.1 (by decide)).congr rfl rfl rfl

/-- **Window books over whole runs.** Over any run of a stream's calls, each
send window is its initial value plus the credits of every SENDME the stream
received or sent, minus the DATA cells it sent, and is never negative. -/
theorem streamRun_books (calls : List (StreamCall × σ)) :
    Books id (streamRun P calls (newStream id) []).1 (streamRun P calls (newStream id) []).2 :=
  streamRun_inv P (Books id) (call_books P hid0) calls _ _ (books_newStream id)

end BooksRun

/-! ## The SENDME schedule -/

/-- Reads the log left to right and checks that every SENDME sent carries
what `sendMeV1 d` builds, where `d` is the digest recorded with the DATA
cell for stream `id` received just before it, with only SENDMEs in between.
`cur` is that digest while such a DATA cell or its SENDMEs were the last
events; `none` is returned when a SENDME fails the check. -/
def sendMeScan (id : UInt16) : Option Bytes → List Event → Option (Option Bytes)
  | cur, [] => some cur
  | _, .received m d :: es => sendMeScan id (if m.cmd = relayData ∧ m.streamID = id then some d else none) es
  | cur, .sent cmd _ p :: es =>
    if cmd = relaySendMe then
      if cur.bind sendMeV1 = some p then sendMeScan id cur es else none
    else sendMeScan id none es

theorem sendMeScan_append (id : UInt16) :
    ∀ (cur : Option Bytes) (a b : List Event),
      sendMeScan id cur (a ++ b) = (sendMeScan id cur a).bind (sendMeScan id · b)
  | _, [], _ => rfl
  | _, .received _ _ :: a, b => sendMeScan_append id _ a b
  | cur, .sent cmd _ p :: a, b => by
    simp only [List.cons_append, sendMeScan]
    split_ifs <;> first | rfl | exact sendMeScan_append id _ a b

/-- A DATA cell for the stream followed by SENDMEs carrying its digest. -/
theorem sendMeScan_data {id : UInt16} {m : RelayMsg} (hm : m.cmd = relayData ∧ m.streamID = id) {d : Bytes}
    (hd : 20 ≤ d.length) (cur : Option Bytes) (sids : List UInt16) :
    sendMeScan id cur (.received m d :: sids.map fun sid => .sent relaySendMe sid (sendMePayload d)) =
      some (some d) := by
  simp only [sendMeScan, hm, and_self, if_true]
  induction sids with
  | nil => rfl
  | cons _ _ ih => simp only [List.map_cons, sendMeScan, if_true, Option.some_bind, sendMeV1_of_le hd]; exact ih

/-- The counters of stream `id` against the log of its calls: every 100 DATA
cells received for it made a circuit-level SENDME, every 50 a stream-level
one, and every SENDME carries the digest recorded with its DATA cell. -/
structure Schedule (id : UInt16) (st : Stream) (log : List Event) : Prop where
  id_eq : st.id = id
  circ : st.circDataReceived + 100 * sentCount relaySendMe 0 log = receivedCount relayData id log
  circ_lt : st.circDataReceived < 100
  stream : st.streamDataReceived + 50 * sentCount relaySendMe id log = receivedCount relayData id log
  stream_lt : st.streamDataReceived < 50
  digests : sendMeScan id none log ≠ none

theorem schedule_newStream (id : UInt16) : Schedule id (newStream id) [] :=
  ⟨rfl, rfl, Nat.zero_lt_succ _, rfl, Nat.zero_lt_succ _, fun h => nomatch h⟩

section Schedule

variable {id : UInt16} {st st' : Stream} {log : List Event}

theorem Schedule.congr (h : Schedule id st log) (hid : st'.id = st.id)
    (hc : st'.circDataReceived = st.circDataReceived) (hs : st'.streamDataReceived = st.streamDataReceived) :
    Schedule id st' log :=
  ⟨hid.trans h.id_eq, hc ▸ h.circ, hc ▸ h.circ_lt, hs ▸ h.stream, hs ▸ h.stream_lt, h.digests⟩

theorem Schedule.extend_digests (h : Schedule id st log) {ev : List Event} (hev : ∀ c, sendMeScan id c ev ≠ none) :
    sendMeScan id none (log ++ ev) ≠ none := by
  obtain ⟨c, hc⟩ := Option.ne_none_iff_exists'.mp h.digests
  rw [sendMeScan_append, hc]
  exact hev c

/-- A message received that is no DATA cell for the stream. -/
theorem Schedule.receive_other (h : Schedule id st log) {m : RelayMsg} (d : Bytes)
    (hm : ¬ (m.cmd = relayData ∧ m.streamID = id)) : Schedule id st (log ++ [.received m d]) :=
  ⟨h.id_eq, by simpa [hm] using h.circ, h.circ_lt, by simpa [hm] using h.stream, h.stream_lt,
    h.extend_digests fun _ => nofun⟩

/-- A message sent that is no SENDME. -/
theorem Schedule.send_other (h : Schedule id st log) {cmd : UInt8} {sid : UInt16} (d : Bytes)
    (hc : cmd ≠ relaySendMe) : Schedule id st (log ++ [.sent cmd sid d]) :=
  ⟨h.id_eq, by simpa [hc] using h.circ, h.circ_lt, by simpa [hc] using h.stream, h.stream_lt,
    h.extend_digests fun _ => by simp [sendMeScan, hc]⟩

/-- The counts of a DATA cell for the stream followed by SENDMEs. -/
theorem counts_dataBlock {m : RelayMsg} (hm : m.cmd = relayData ∧ m.streamID = id) (d p : Bytes)
    (sids : List UInt16) (x : UInt16) :
    sentCount relaySendMe x (.received m d :: sids.map fun s => .sent relaySendMe s p) = sids.count x ∧
      receivedCount relayData id (.received m d :: sids.map fun s => .sent relaySendMe s p) = 1 := by
  rw [← List.singleton_append, sentCount_append, receivedCount_append]
  simp [hm]

/-- After a DATA cell for the stream, the counters as `handleDataReceived`
leaves them and the SENDMEs it sent keep the schedule. -/
theorem Schedule.data (h : Schedule id st log) (hid0 : id ≠ 0) {m : RelayMsg}
    (hm : m.cmd = relayData ∧ m.streamID = id) {d : Bytes} (hd : 20 ≤ d.length) (hid : st'.id = id)
    (hc : st'.circDataReceived = if st.circDataReceived + 1 ≥ 100 then 0 else st.circDataReceived + 1)
    (hs : st'.streamDataReceived = if st.streamDataReceived + 1 ≥ 50 then 0 else st.streamDataReceived + 1) :
    Schedule id st' (log ++ .received m d :: ((if st.circDataReceived + 1 ≥ 100 then [0] else []) ++
      (if st.streamDataReceived + 1 ≥ 50 then [id] else [])).map fun sid => .sent relaySendMe sid (sendMePayload d)) := by
  obtain ⟨hS0, hR⟩ := counts_dataBlock hm d (sendMePayload d)
    ((if st.circDataReceived + 1 ≥ 100 then [0] else []) ++ (if st.streamDataReceived + 1 ≥ 50 then [id] else [])) 0
  obtain ⟨hS, -⟩ := counts_dataBlock hm d (sendMePayload d)
    ((if st.circDataReceived + 1 ≥ 100 then [0] else []) ++ (if st.streamDataReceived + 1 ≥ 50 then [id] else [])) id
  have h1 := h.circ
  have h2 := h.stream
  have h3 := h.circ_lt
  have h4 := h.stream_lt
  refine ⟨hid, ?_, ?_, ?_, ?_, h.extend_digests fun c => by rw [sendMeScan_data hm hd]; nofun⟩ <;>
    simp only [sentCount_append, receivedCount_append, hS0, hS, hR, hc, hs] <;>
    split_ifs <;> (try simp [hid0, Ne.symm hid0]) <;> omega

end Schedule

/-- `sendMeIfDue` when sends never fail, on a digest of 20 bytes or more. -/
theorem sendMeIfDue_logged_ok (hs : ∀ s cmd sid data, (P.sendRelay s cmd sid data).1 = .ok ()) (due : Bool)
    (sid : UInt16) (what : String) (credit : Stream → Stream) (st : Stream) {sl : σ × List Event}
    (h20 : 20 ≤ (P.backwardDigest sl.1).length) :
    sendMeIfDue P.logged due sid what credit st sl =
      if due then (.ok (), credit st, (P.sendRelay sl.1 relaySendMe sid (sendMePayload (P.backwardDigest sl.1))).2,
        sl.2 ++ [.sent relaySendMe sid (sendMePayload (P.backwardDigest sl.1))])
      else (.ok (), st, sl) := by
  cases due
  · rfl
  · rw [sendMeIfDue_of_digest P.logged (show 20 ≤ (P.logged.backwardDigest sl).length from h20),
      logged_sendRelay_of_ok P (hs _ _ _ _)]
    rfl

/-- `handleDataReceived` when sends never fail and keep the digest: both
counters move on, and the SENDMEs due are sent with the digest as it was
when the call began. -/
theorem handleDataReceived_logged_ok (hs : ∀ s cmd sid data, (P.sendRelay s cmd sid data).1 = .ok ())
    (hd : ∀ s cmd sid data, P.backwardDigest (P.sendRelay s cmd sid data).2 = P.backwardDigest s)
    (st : Stream) {sl : σ × List Event} (h20 : 20 ≤ (P.backwardDigest sl.1).length) :
    (handleDataReceived P.logged st sl).1 = .ok () ∧ (handleDataReceived P.logged st sl).2.1.id = st.id ∧
    (handleDataReceived P.logged st sl).2.1.circDataReceived =
      (if st.circDataReceived + 1 ≥ 100 then 0 else st.circDataReceived + 1) ∧
    (handleDataReceived P.logged st sl).2.1.streamDataReceived =
      (if st.streamDataReceived + 1 ≥ 50 then 0 else st.streamDataReceived + 1) ∧
    (handleDataReceived P.logged st sl).2.2.2 = sl.2 ++ ((if st.circDataReceived + 1 ≥ 100 then [0] else []) ++
      (if st.streamDataReceived + 1 ≥ 50 then [st.id] else [])).map
        fun sid => .sent relaySendMe sid (sendMePayload (P.backwardDigest sl.1)) := by
  simp only [handleDataReceived, sendMeIfDue_logged_ok P hs _ _ _ _ _ h20, circSendMeWindow, streamSendMeWindow]
  by_cases hc : 99 ≤ st.circDataReceived <;> by_cases ht : 49 ≤ st.streamDataReceived <;>
    simp [hc, ht, hd, h20, sendMeIfDue_logged_ok P hs]

theorem writeLoop_schedule {id : UInt16} (st : Stream) (sl : σ × List Event) (total : Nat) (p : Bytes)
    (h : Schedule id st sl.2) :
    Schedule id (writeLoop P.logged st sl total p).2.1 (writeLoop P.logged st sl total p).2.2.2 := by
  induction st, sl, total, p using writeLoop.induct P.logged with
  | case1 => rw [writeLoop_nil]; exact h
  | case2 st sl total b bs hw => rw [writeLoop_blocked _ hw]; exact h
  | case3 st sl total b bs hw e sl' hs =>
    rw [writeLoop_sendError _ hw hs, (logged_sendRelay_error P hs).2]
    exact h
  | case4 st sl total b bs hw sl' hs ih =>
    rw [writeLoop_sent _ hw hs]
    exact ih (by rw [(logged_sendRelay_ok P hs).2]; exact (h.send_other _ (by decide)).congr rfl rfl rfl)

section ScheduleRun

variable (hs : ∀ s cmd sid data, (P.sendRelay s cmd sid data).1 = .ok ())
  (hd : ∀ s cmd sid data, P.backwardDigest (P.sendRelay s cmd sid data).2 = P.backwardDigest s)
  {id : UInt16} (hid0 : id ≠ 0)
include hs hd hid0

theorem readLoop_schedule (st : Stream) (sl : σ × List Event) (n : Nat) (h : Schedule id st sl.2) :
    Schedule id (readLoop P.logged st sl n).2.1 (readLoop P.logged st sl n).2.2.2 := by
  induction st, sl, n using readLoop.induct P.logged with
  | case1 st sl n e sl' hr =>
    rw [readLoop_error _ hr, (logged_receiveRelay_error P hr).2]
    exact h
  | case2 st sl n m sl' hr _ hc ih =>
    rw [readLoop_circSendMe _ hr hc]
    exact ih (by
      rw [(logged_receiveRelay_ok P hr).2]
      exact (h.receive_other _ fun hm => absurd (hc.1.symm.trans hm.1) (by decide)).congr rfl rfl rfl)
  | case3 st sl n m sl' hr _ hc hid ih =>
    rw [readLoop_skip _ hr hc hid]
    exact ih (by
      rw [(logged_receiveRelay_ok P hr).2]
      exact h.receive_other _ fun hm => hid (hm.2.trans h.id_eq.symm))
  | case4 st sl n m sl' hr _ _ hid hcmd e st' sl'' hh =>
    have := (handleDataReceived_logged_ok P hs hd st (P.logged.receiveRelay_digest _ _ _ hr)).1
    rw [hh] at this
    cases this
  | case5 st sl n m sl' hr _ _ hid hcmd st' sl'' hh =>
    obtain ⟨-, hid', hc, hs', hlog⟩ := handleDataReceived_logged_ok P hs hd st (P.logged.receiveRelay_digest _ _ _ hr)
    rw [hh] at hid' hc hs' hlog
    rw [readLoop_data _ hr (not_not.mp hid) hcmd, hh]
    refine Schedule.congr ?_ rfl rfl rfl
    rw [hlog, (logged_receiveRelay_ok P hr).2, List.append_assoc, List.singleton_append, h.id_eq]
    exact h.data hid0 ⟨hcmd, (not_not.mp hid).trans h.id_eq⟩ (P.logged.receiveRelay_digest _ _ _ hr)
      (hid'.trans h.id_eq) hc hs'
  | case6 st sl n m sl' hr _ _ hid hcmd he =>
    rw [readLoop_end _ hr (not_not.mp hid) he, (logged_receiveRelay_ok P hr).2]
    exact (h.receive_other _ fun hm => hcmd hm.1).congr rfl rfl rfl
  | case7 st sl n m sl' hr _ hc hid hcmd _ hsm ih =>
    rw [readLoop_streamSendMe _ hr (fun h0 => hc ⟨hsm, h0⟩) (not_not.mp hid) hsm]
    exact ih (by
      rw [(logged_receiveRelay_ok P hr).2]
      exact (h.receive_other _ fun hm => hcmd hm.1).congr rfl rfl rfl)
  | case8 st sl n m sl' hr _ _ hid hcmd he hsm =>
    rw [readLoop_unexpected _ hr (not_not.mp hid) hcmd he hsm, (logged_receiveRelay_ok P hr).2]
    exact h.receive_other _ fun hm => hcmd hm.1

/-- Every call keeps the schedule. -/
theorem call_schedule (c : StreamCall) (st : Stream) (s : σ) (log : List Event) (h : Schedule id st log) :
    Schedule id (c.run P.logged st (s, log)).1 (c.run P.logged st (s, log)).2.2 := by
  cases c with
  | write p =>
    simp only [StreamCall.run, write]
    split_ifs
    · exact h
    · exact writeLoop_schedule P st (s, log) 0 p h
  | read n =>
    simp only [StreamCall.run, read]
    split_ifs
    · exact h
    · exact h
    · exact h.congr rfl rfl rfl
    · exact readLoop_schedule P hs hd hid0 st (s, log) n h
  | close =>
    simp only [StreamCall.run, close]
    split_ifs
    · exact h
    · rw [logged_sendRelay_of_ok P (hs _ _ _ _)]
      exact (h.send_other _ (by decide)).congr rfl rfl rfl

/-- **The SENDME schedule over whole runs.** -/
theorem streamRun_schedule (calls : List (StreamCall × σ)) :
    Schedule id (streamRun P calls (newStream id) []).1 (streamRun P calls (newStream id) []).2 :=
  streamRun_inv P (Schedule id) (call_schedule P hs hd hid0) calls _ _ (schedule_newStream id)

end ScheduleRun

/-! ## What `Write` sends -/

/-- `p` cut as `Write` cuts it: 498-byte pieces, the last one shorter. -/
def chunks (p : Bytes) : List Bytes :=
  match p with
  | [] => []
  | b :: bs => (b :: bs).take maxRelayDataLen :: chunks ((b :: bs).drop maxRelayDataLen)
termination_by p.length
decreasing_by simp [maxRelayDataLen]; omega

theorem chunks_nil : chunks [] = [] := by rw [chunks]

theorem chunks_cons (b : UInt8) (bs : Bytes) :
    chunks (b :: bs) = (b :: bs).take maxRelayDataLen :: chunks ((b :: bs).drop maxRelayDataLen) := by
  rw [chunks]

theorem chunks_length (p : Bytes) : (chunks p).length = (p.length + 497) / 498 := by
  induction p using chunks.induct with
  | case1 => rw [chunks_nil]; rfl
  | case2 b bs ih =>
    rw [chunks_cons, List.length_cons, ih, List.length_drop]
    simp only [maxRelayDataLen, List.length_cons]
    omega

/-- No byte is lost or repeated. -/
theorem chunks_flatten (p : Bytes) : (chunks p).flatten = p := by
  induction p using chunks.induct with
  | case1 => rw [chunks_nil]; rfl
  | case2 b bs ih => rw [chunks_cons, List.flatten_cons, ih, List.take_append_drop]

/-- The chunks are the consecutive 498-byte slices of `p`. -/
theorem chunks_eq_slices (p : Bytes) :
    chunks p = (List.range (chunks p).length).map fun i => slice p (498 * i) (498 * i + 498) := by
  induction p using chunks.induct with
  | case1 => rw [chunks_nil]; rfl
  | case2 b bs ih =>
    rw [chunks_cons, List.length_cons, List.range_succ_eq_map, List.map_cons, List.map_map]
    refine congrArg₂ _ (by simp [slice, maxRelayDataLen]) ?_
    conv_lhs => rw [ih]
    refine List.map_congr_left fun i _ => ?_
    simp only [Function.comp, slice, maxRelayDataLen, List.drop_drop, Nat.add_sub_cancel_left]
    rw [Nat.mul_succ, Nat.add_comm 498]

/-- **`Write` sends its bytes in chunks.** On a port whose sends of at most
498 bytes succeed from every `Good` state and lead to one, with windows for
every chunk, the write loop returns all bytes written and sends exactly the
chunks of `p`, in order, as RELAY_DATA cells on the stream. -/
theorem writeLoop_sends_chunks (Good : σ → Prop)
    (hs : ∀ s cmd sid data, Good s → data.length ≤ maxRelayDataLen →
      (P.sendRelay s cmd sid data).1 = .ok () ∧ Good (P.sendRelay s cmd sid data).2)
    (st : Stream) (sl : σ × List Event) (total : Nat) (p : Bytes) (hg : Good sl.1)
    (hc : ((chunks p).length : Int) ≤ st.circWindow) (hw : ((chunks p).length : Int) ≤ st.streamWindow) :
    (writeLoop P.logged st sl total p).1 = (total + p.length, .ok ()) ∧
      (writeLoop P.logged st sl total p).2.2.2 = sl.2 ++ (chunks p).map (.sent relayData st.id) ∧
      Good (writeLoop P.logged st sl total p).2.2.1 := by
  induction st, sl, total, p using writeLoop.induct P.logged with
  | case1 st sl total => rw [writeLoop_nil, chunks_nil]; exact ⟨rfl, by simp, hg⟩
  | case2 st sl total b bs hb =>
    rw [chunks_cons, List.length_cons] at hc hw
    omega
  | case3 st sl total b bs _ e sl' hse =>
    have := (hs sl.1 relayData st.id ((b :: bs).take maxRelayDataLen) hg (List.length_take_le _ _)).1
    rw [(logged_sendRelay_error P hse).1] at this
    cases this
  | case4 st sl total b bs hb sl' hso ih =>
    obtain ⟨hsend, hlog⟩ := logged_sendRelay_ok P hso
    have hg' : Good sl'.1 := by
      have := (hs sl.1 relayData st.id ((b :: bs).take maxRelayDataLen) hg (List.length_take_le _ _)).2
      rwa [hsend] at this
    rw [chunks_cons, List.length_cons] at hc hw
    obtain ⟨h1, h2, h3⟩ := ih hg' (by push_cast at hc ⊢; omega) (by push_cast at hw ⊢; omega)
    rw [writeLoop_sent _ hb hso, h1, h2, hlog, chunks_cons, List.map_cons, List.append_assoc,
      List.singleton_append, Nat.add_assoc, ← List.length_append, List.take_append_drop]
    exact ⟨rfl, rfl, h3⟩

/-- **`Write` against its windows.** With sends that never fail, the loop
sends the first `m` chunks of `p`, where `m` is the number of chunks capped
by the smaller window, counts their bytes, spends `m` of each window, and
stops with the window error exactly when chunks are left. -/
theorem writeLoop_windows (Good : σ → Prop)
    (hs : ∀ s cmd sid data, Good s → data.length ≤ maxRelayDataLen →
      (P.sendRelay s cmd sid data).1 = .ok () ∧ Good (P.sendRelay s cmd sid data).2)
    (st : Stream) (sl : σ × List Event) (total : Nat) (p : Bytes) (hg : Good sl.1) (m : Nat)
    (hm : m = min (chunks p).length (max 0 (min st.circWindow st.streamWindow)).toNat) :
    (writeLoop P.logged st sl total p).2.2.2 = sl.2 ++ ((chunks p).take m).map (.sent relayData st.id) ∧
      (writeLoop P.logged st sl total p).1 = (total + min p.length (498 * m),
        if m < (chunks p).length then .error ("send window exhausted (circ=" ++
          toString (st.circWindow - m) ++ ", stream=" ++ toString (st.streamWindow - m) ++ ")")
        else .ok ()) ∧
      (writeLoop P.logged st sl total p).2.1.circWindow = st.circWindow - m ∧
      (writeLoop P.logged st sl total p).2.1.streamWindow = st.streamWindow - m := by
  induction st, sl, total, p using writeLoop.induct P.logged generalizing m with
  | case1 st sl total =>
    rw [chunks_nil] at hm ⊢
    simp [writeLoop_nil, hm]
  | case2 st sl total b bs hb =>
    obtain rfl : m = 0 := by omega
    rw [writeLoop_blocked _ hb, chunks_cons]
    simp
  | case3 st sl total b bs _ e sl' hse =>
    have := (hs sl.1 relayData st.id ((b :: bs).take maxRelayDataLen) hg (List.length_take_le _ _)).1
    rw [(logged_sendRelay_error P hse).1] at this
    cases this
  | case4 st sl total b bs hb sl' hso ih =>
    obtain ⟨hsend, hlog⟩ := logged_sendRelay_ok P hso
    have hg' : Good sl'.1 := by
      have := (hs sl.1 relayData st.id ((b :: bs).take maxRelayDataLen) hg (List.length_take_le _ _)).2
      rwa [hsend] at this
    rw [chunks_cons, List.length_cons] at hm
    obtain ⟨k, rfl⟩ : ∃ k, m = k + 1 := ⟨m - 1, by omega⟩
    obtain ⟨h1, h2, h3, h4⟩ := ih hg' k (by simp only at hm ⊢; omega)
    have hlen := chunks_length ((b :: bs).drop maxRelayDataLen)
    rw [writeLoop_sent _ hb hso, h1, h2, h3, h4, hlog, chunks_cons, List.take_succ_cons, List.map_cons,
      List.length_cons, List.append_assoc, List.singleton_append]
    have e1 : st.circWindow - 1 - k = st.circWindow - (k + 1 : Nat) := by omega
    have e2 : st.streamWindow - 1 - k = st.streamWindow - (k + 1 : Nat) := by omega
    simp only [List.length_take, List.length_drop, List.length_cons, maxRelayDataLen, e1, e2,
      Nat.add_lt_add_iff_right, Prod.mk.injEq, and_true, true_and] at hlen hm ⊢
    omega

/-- **`Write` chunks and accounts exactly.** On an open stream with windows
`a` and `b`, when every send succeeds, `Write` sends
`m = min(⌈|p|/498⌉, max(0, min(a, b)))` RELAY_DATA cells on the stream,
the `i`-th carrying `p[498i : 498i + 498]` (498 bytes except possibly the
last), returns `n = min(|p|, 498m)` with an error exactly when `n < |p|`,
and leaves the windows at `a - m` and `b - m`. -/
theorem write_chunks_and_accounts (Good : σ → Prop)
    (hs : ∀ s cmd sid data, Good s → data.length ≤ maxRelayDataLen →
      (P.sendRelay s cmd sid data).1 = .ok () ∧ Good (P.sendRelay s cmd sid data).2)
    (st : Stream) (sl : σ × List Event) (p : Bytes) (hg : Good sl.1) (hopen : st.closed = false) :
    let m := min ((p.length + 497) / 498) (max 0 (min st.circWindow st.streamWindow)).toNat
    let n := min p.length (498 * m)
    let r := write P.logged st sl p
    r.2.2.2 = sl.2 ++ (List.range m).map (fun i => .sent relayData st.id (slice p (498 * i) (498 * i + 498))) ∧
      (∀ i, i + 1 < m → (slice p (498 * i) (498 * i + 498)).length = 498) ∧
      r.1.1 = n ∧ ((∃ e, r.1.2 = .error e) ↔ n < p.length) ∧
      r.2.1.circWindow = st.circWindow - m ∧ r.2.1.streamWindow = st.streamWindow - m := by
  intro m n r
  have hc := chunks_length p
  obtain ⟨h1, h2, h3, h4⟩ := writeLoop_windows P Good hs st sl 0 p hg m (by rw [hc])
  rw [show r = writeLoop P.logged st sl 0 p from write_of_open _ _ _ _ hopen] at *
  refine ⟨?_, fun i hi => ?_, by rw [h2, Nat.zero_add], ?_, h3, h4⟩
  · rw [h1, chunks_eq_slices p, ← List.map_take, List.take_range, List.map_map, Nat.min_eq_left (by omega)]
    rfl
  · simp only [slice_length]; omega
  · rw [h2]
    split_ifs with h <;> simp only [Except.error.injEq, exists_eq', true_iff, exists_false, false_iff,
      reduceCtorEq] <;> omega

theorem write_chunks_and_accounts_link :
    (∀ cl cmd sid data, cl.1.hops ≠ [] → data.length ≤ maxRelayDataLen →
      ((linkPort fun _ => 0).sendRelay cl cmd sid data).1 = .ok () ∧
        ((linkPort fun _ => 0).sendRelay cl cmd sid data).2.1.hops ≠ []) ∧
    (⟨0x80000001, [testHop fun _ => 0], 0⟩ : Circuit).hops ≠ [] ∧ (newStream 1).closed = false ∧
    (write (linkPort fun _ => 0).logged (newStream 1) ((⟨0x80000001, [testHop fun _ => 0], 0⟩, ⟨[], [], []⟩), [])
        [1, 2, 3]).1.1 =
      min 3 (498 * min ((3 + 497) / 498) (max 0 (min (newStream 1).circWindow (newStream 1).streamWindow)).toNat) :=
  ⟨linkPort_send_ok _, List.cons_ne_nil _ _, rfl,
    (write_chunks_and_accounts (linkPort fun _ => 0) (fun cl => cl.1.hops ≠ []) (linkPort_send_ok _)
      (newStream 1) ((⟨0x80000001, [testHop fun _ => 0], 0⟩, ⟨[], [], []⟩), []) [1, 2, 3]
      (List.cons_ne_nil _ _) rfl).2.2.1⟩

/-- On a circuit with hops, a new stream writes any bytes of at most 500
cells in full, one logged RELAY_DATA cell per chunk, and the circuit keeps
its hops. -/
theorem write_newStream_linkPort (rnd : Nat → UInt8) (id : UInt16) (sl : (Circuit × Link) × List Event)
    (hg : sl.1.1.hops ≠ []) (p : Bytes) (hp : (chunks p).length ≤ 500) :
    (write (linkPort rnd).logged (newStream id) sl p).1 = (p.length, .ok ()) ∧
      (write (linkPort rnd).logged (newStream id) sl p).2.2.2 = sl.2 ++ (chunks p).map (.sent relayData id) ∧
      (write (linkPort rnd).logged (newStream id) sl p).2.2.1.1.hops ≠ [] := by
  rw [write_of_open _ _ _ _ rfl]
  have h := writeLoop_sends_chunks (linkPort rnd) (fun cl => cl.1.hops ≠ []) (linkPort_send_ok rnd)
    (newStream id) sl 0 p hg (by simp only [newStream]; omega) (by simp only [newStream]; omega)
  rwa [Nat.zero_add] at h

@[simp] theorem sentCount_map_sent {cmd : UInt8} {sid : UInt16} (c : UInt8) (s : UInt16) (ds : List Bytes) :
    sentCount cmd sid (ds.map (Event.sent c s)) = if c = cmd ∧ s = sid then ds.length else 0 := by
  induction ds with
  | nil => simp
  | cons d ds ih =>
    rw [List.map_cons, ← List.singleton_append, sentCount_append, ih, sentCount_sent]
    split_ifs <;> simp [Nat.add_comm]

@[simp] theorem receivedCount_map_sent {cmd : UInt8} {sid : UInt16} (c : UInt8) (s : UInt16) (ds : List Bytes) :
    receivedCount cmd sid (ds.map (Event.sent c s)) = 0 := by
  induction ds with
  | nil => rfl
  | cons d ds ih => rw [List.map_cons, ← List.singleton_append, receivedCount_append, ih]; rfl

/-! ## Per-stream windows and schedule -/

/-- **Each stream's windows follow the SENDMEs it received.** Over any run
of a stream's calls in which it sent no SENDME, the RELAY_DATA cells it
wrote number at most 500 plus 50 per stream-level SENDME its reads received,
and at most 1000 plus 100 per circuit-level SENDME its reads received; its
windows are those bounds minus the cells written. -/
theorem stream_data_bounded_by_received_sendmes {id : UInt16} (hid0 : id ≠ 0) (calls : List (StreamCall × σ))
    (hno : sentCount relaySendMe id (streamRun P calls (newStream id) []).2 = 0 ∧
      sentCount relaySendMe 0 (streamRun P calls (newStream id) []).2 = 0) :
    sentCount relayData id (streamRun P calls (newStream id) []).2 ≤
        500 + 50 * receivedCount relaySendMe id (streamRun P calls (newStream id) []).2 ∧
      sentCount relayData id (streamRun P calls (newStream id) []).2 ≤
        1000 + 100 * receivedCount relaySendMe 0 (streamRun P calls (newStream id) []).2 ∧
      (streamRun P calls (newStream id) []).1.streamWindow =
        500 + 50 * (receivedCount relaySendMe id (streamRun P calls (newStream id) []).2 : Int) -
          sentCount relayData id (streamRun P calls (newStream id) []).2 ∧
      (streamRun P calls (newStream id) []).1.circWindow =
        1000 + 100 * (receivedCount relaySendMe 0 (streamRun P calls (newStream id) []).2 : Int) -
          sentCount relayData id (streamRun P calls (newStream id) []).2 := by
  have h := streamRun_books P hid0 calls
  have h1 := h.stream
  have h2 := h.circ
  have h3 := h.stream_nonneg
  have h4 := h.circ_nonneg
  rw [hno.1] at h1
  rw [hno.2] at h2
  refine ⟨?_, ?_, ?_, ?_⟩ <;> push_cast at h1 h2 ⊢ <;> omega

/-- A circuit double: the relay messages still to arrive, every send
accepted and dropped, and a fixed 20-byte digest. -/
def queuePort : CircuitPort (List RelayMsg) where
  sendRelay := fun q _ _ _ => (.ok (), q)
  receiveRelay := fun q => match q with
    | [] => (.error "EOF", [])
    | m :: ms => (.ok m, ms)
  backwardDigest := fun _ => List.replicate 20 0
  pending := List.length
  receiveRelay_pending := fun q _ _ h => by
    cases q with
    | nil => cases h
    | cons _ _ => cases h; exact Nat.lt_succ_self _
  receiveRelay_digest := fun _ _ _ _ => (List.length_replicate 20 0).ge
  sendRelay_digest := fun _ _ _ _ h => h

/-- Messages for another stream at the head of the queue are skipped, and
logged. -/
theorem readLoop_queue_skip {st : Stream} {m : RelayMsg} {n : Nat} (hc : ¬ (m.cmd = relaySendMe ∧ m.streamID = 0))
    (hid : m.streamID ≠ st.id) :
    ∀ (k : Nat) (q : List RelayMsg) (log : List Event),
      readLoop queuePort.logged st (List.replicate k m ++ q, log) n =
        readLoop queuePort.logged st (q, log ++ List.replicate k (.received m (List.replicate 20 0))) n
  | 0, _, _ => by simp only [List.replicate_zero, List.nil_append, List.append_nil]
  | k + 1, q, log => by
    have hr : queuePort.logged.receiveRelay (m :: (List.replicate k m ++ q), log) =
        (.ok m, (List.replicate k m ++ q, log ++ [.received m (List.replicate 20 0)])) := rfl
    rw [List.replicate_succ, List.cons_append, readLoop_skip _ hr hc hid, readLoop_queue_skip hc hid k,
      List.append_assoc, List.singleton_append, ← List.replicate_succ]

/-- A `Write` of three bytes, then a `Read` that takes a stream-level SENDME
and a DATA cell for the stream. -/
def writeThenRead : List (StreamCall × List RelayMsg) :=
  [(.write [1, 2, 3], []), (.read 10, [⟨0, relaySendMe, 1, []⟩, ⟨0, relayData, 1, [4, 5]⟩])]

theorem streamRun_writeThenRead :
    (streamRun queuePort writeThenRead (newStream 1) []).2 =
      [.sent relayData 1 [1, 2, 3], .received ⟨0, relaySendMe, 1, []⟩ (List.replicate 20 0),
        .received ⟨0, relayData, 1, [4, 5]⟩ (List.replicate 20 0)] := by
  simp only [writeThenRead, streamRun, StreamCall.run]
  rw [write_of_open _ _ _ _ rfl, writeLoop_sent _ (by decide) rfl,
    show List.drop maxRelayDataLen [1, 2, 3] = ([] : Bytes) from rfl, writeLoop_nil,
    read_of_empty _ _ _ _ rfl rfl rfl, readLoop_streamSendMe _ rfl (by decide) rfl rfl,
    readLoop_data _ rfl rfl rfl, handleDataReceived_quiet _ _ _ (by decide) (by decide)]
  rfl

theorem stream_data_bounded_by_received_sendmes_writeThenRead :
    (sentCount relaySendMe 1 (streamRun queuePort writeThenRead (newStream 1) []).2 = 0 ∧ sentCount relaySendMe 0 (streamRun queuePort writeThenRead (newStream 1) []).2 = 0) ∧
    sentCount relayData 1 (streamRun queuePort writeThenRead (newStream 1) []).2 ≤ 500 + 50 * receivedCount relaySendMe 1 (streamRun queuePort writeThenRead (newStream 1) []).2 ∧
      sentCount relayData 1 (streamRun queuePort writeThenRead (newStream 1) []).2 ≤ 1000 + 100 * receivedCount relaySendMe 0 (streamRun queuePort writeThenRead (newStream 1) []).2 ∧
      (streamRun queuePort writeThenRead (newStream 1) []).1.streamWindow =
        500 + 50 * (receivedCount relaySendMe 1 (streamRun queuePort writeThenRead (newStream 1) []).2 : Int) - sentCount relayData 1 (streamRun queuePort writeThenRead (newStream 1) []).2 ∧
      (streamRun queuePort writeThenRead (newStream 1) []).1.circWindow =
        1000 + 100 * (receivedCount relaySendMe 0 (streamRun queuePort writeThenRead (newStream 1) []).2 : Int) - sentCount relayData 1 (streamRun queuePort writeThenRead (newStream 1) []).2 :=
  have hno : sentCount relaySendMe 1 (streamRun queuePort writeThenRead (newStream 1) []).2 = 0 ∧ sentCount relaySendMe 0 (streamRun queuePort writeThenRead (newStream 1) []).2 = 0 := by
    rw [streamRun_writeThenRead]; decide
  ⟨hno, stream_data_bounded_by_received_sendmes queuePort (by decide) writeThenRead hno⟩

/-- Three streams on a one-hop circuit each write 500 full RELAY_DATA cells,
1500 in all, though no circuit-level SENDME was ever received: each stream
spends only its own copy of the circuit window. -/
theorem streams_exceed_circuit_window :
    let w1 := write (linkPort fun _ => 0).logged (newStream 1)
      ((⟨0x80000001, [testHop fun _ => 0], 0⟩, ⟨[], [], []⟩), []) (List.replicate 249000 0)
    let w2 := write (linkPort fun _ => 0).logged (newStream 2) w1.2.2 (List.replicate 249000 0)
    let w3 := write (linkPort fun _ => 0).logged (newStream 3) w2.2.2 (List.replicate 249000 0)
    w1.1 = (249000, .ok ()) ∧ w2.1 = (249000, .ok ()) ∧ w3.1 = (249000, .ok ()) ∧
      sentCount relayData 1 w3.2.2.2 + sentCount relayData 2 w3.2.2.2 + sentCount relayData 3 w3.2.2.2 = 1500 ∧
      receivedCount relaySendMe 0 w3.2.2.2 = 0 := by
  dsimp only
  have hl : (chunks (List.replicate 249000 (0 : UInt8))).length = 500 := by
    rw [chunks_length, List.length_replicate]
  generalize hs0 : (((⟨0x80000001, [testHop fun _ => 0], 0⟩ : Circuit), (⟨[], [], []⟩ : Link)), ([] : List Event)) = sl0
  have hg0 : sl0.1.1.hops ≠ [] := by rw [← hs0]; exact List.cons_ne_nil _ _
  have hl0 : sl0.2 = [] := by rw [← hs0]
  obtain ⟨r1, l1, g1⟩ := write_newStream_linkPort _ 1 sl0 hg0 _ hl.le
  obtain ⟨r2, l2, g2⟩ := write_newStream_linkPort _ 2 _ g1 _ hl.le
  obtain ⟨r3, l3, _⟩ := write_newStream_linkPort _ 3 _ g2 _ hl.le
  rw [List.length_replicate] at r1 r2 r3
  refine ⟨r1, r2, r3, ?_, ?_⟩ <;> rw [l3, l2, l1, hl0, List.nil_append] <;>
    simp only [sentCount_append, receivedCount_append, sentCount_map_sent, receivedCount_map_sent, hl]
  decide

end TorGo.L4
