import TorGo.L4Stream.FlowControl

/-!
# In-order delivery of a stream's data (`Stream.Read`)

`Read` first hands out the buffered bytes; with an empty buffer it reads
cells until one is for the stream, delivers as much of a RELAY_DATA cell as
the caller's buffer holds and buffers the rest, and on RELAY_END sets `eof`,
after which every `Read` returns `io.EOF`. A DATA cell may also trigger
SENDMEs; when such a send fails `Read` returns that error and the cell's
data is dropped, so the results below hold as long as no `Read` has failed
that way.

`readRun` is a sequence of `Read` calls with buffers of any sizes, each on
the circuit its predecessor left; the logged port records the messages the
stream received, so `receivedData id log` is the data of the stream's
RELAY_DATA cells in arrival order and `delivered` what the calls returned.

Results:
* `readLoop_delivery`, `read_delivery`: one `Read` keeps `ReadSpec`, the
  delivery invariant, or fails sending a SENDME;
* `readRun_delivery`: so does every run;
* `readRun_not_sendMeFailed`: on a circuit whose SENDME sends succeed, no
  `Read` fails that way;
* `read_delivers_in_order`: from the stream `Begin` returns, what `Read`
  has returned is always a prefix of the stream's data in arrival order;
  once it returns `io.EOF` it has returned exactly that data, and every
  later `Read` returns `io.EOF`.
-/
namespace TorGo.L4

open TorGo.L1 TorGo.L3

/-- The data a log event brings to stream `sid`: that of a RELAY_DATA
message received for it. -/
def Event.dataFor (sid : UInt16) : Event → Bytes
  | .received m _ => if m.cmd = relayData ∧ m.streamID = sid then m.data else []
  | .sent _ _ _ => []

/-- The data of the RELAY_DATA messages for stream `sid` in a log, in
arrival order. -/
def receivedData (sid : UInt16) (log : List Event) : Bytes := log.flatMap (Event.dataFor sid)

/-- The bytes a sequence of `Read` results handed out. -/
def delivered (rs : List (Except String Bytes)) : Bytes :=
  rs.flatMap fun
    | .ok b => b
    | .error _ => []

@[simp] theorem receivedData_nil (sid : UInt16) : receivedData sid [] = [] := rfl

@[simp] theorem receivedData_append (sid : UInt16) (a b : List Event) :
    receivedData sid (a ++ b) = receivedData sid a ++ receivedData sid b := List.flatMap_append _ _ _

@[simp] theorem receivedData_sent (sid : UInt16) (cmd : UInt8) (s : UInt16) (data : Bytes) :
    receivedData sid [.sent cmd s data] = [] := rfl

@[simp] theorem delivered_nil : delivered [] = [] := rfl

@[simp] theorem receivedData_cons (sid : UInt16) (e : Event) (l : List Event) :
    receivedData sid (e :: l) = e.dataFor sid ++ receivedData sid l := List.flatMap_cons _ _ _

@[simp] theorem delivered_append (rs rs' : List (Except String Bytes)) :
    delivered (rs ++ rs') = delivered rs ++ delivered rs' := List.flatMap_append _ _ _

/-- No error text of `Read` other than `io.EOF`'s own is "EOF". -/
theorem append_ne_eof (a b : String) (h : 3 < a.length) : a ++ b ≠ "EOF" := fun e => by
  have h3 : "EOF".length = 3 := rfl
  have := congrArg String.length e
  rw [String.length_append, h3] at this
  omega

/-- `Read` into a buffer of `n` bytes, then more `Read`s, each on the
circuit its predecessor left. -/
def readRun {σ : Type} (P : CircuitPort σ) : List Nat → Stream → σ × List Event →
    List (Except String Bytes) × Stream × (σ × List Event)
  | [], st, sl => ([], st, sl)
  | n :: ns, st, sl =>
    let r := read P.logged st sl n
    ((readRun P ns r.2.1 r.2.2).1.cons r.1, (readRun P ns r.2.1 r.2.2).2)

section Delivery

variable {σ : Type} (P : CircuitPort σ)

/-- A result that reports a failed SENDME send (`handleDataReceived`'s
errors, which `Read` passes on). -/
def SendMeFailed {α : Type} (r : Except String α) : Prop :=
  ∃ what e, r = .error ("send " ++ what ++ " SENDME: " ++ e)

/-- What `Read` sees of a stream: its id, buffer and `eof` flag. -/
def SameView (st st' : Stream) : Prop := st'.id = st.id ∧ st'.buf = st.buf ∧ st'.eof = st.eof

/-- A step that succeeds, leaves what `Read` sees alone and logs no data. -/
def Quiet (st : Stream) (sl : σ × List Event) (r : Except String Unit × Stream × (σ × List Event)) : Prop :=
  r.1 = .ok () ∧ SameView st r.2.1 ∧ ∃ w, r.2.2.2 = sl.2 ++ w ∧ ∀ id, receivedData id w = []

/-- What `Read`s from `st` did, seen from the stream: the log grew by `w`;
the bytes they handed out followed by the buffer left are the buffer found
followed by the stream's data in `w`; `eof` is left only with an empty
buffer, and is set once `io.EOF` has been returned. -/
def ReadSpec (st : Stream) (sl : σ × List Event) (rs : List (Except String Bytes)) (st' : Stream)
    (sl' : σ × List Event) : Prop :=
  ∃ w, sl'.2 = sl.2 ++ w ∧ st'.id = st.id ∧ delivered rs ++ st'.buf = st.buf ++ receivedData st.id w ∧
    (st'.eof = true → st'.buf = []) ∧ (.error "EOF" ∈ rs ∨ st.eof = true → st'.eof = true)

variable {P}

theorem ReadSpec.trans {st st1 st2 : Stream} {sl sl1 sl2 : σ × List Event} {rs rs' : List (Except String Bytes)}
    (h1 : ReadSpec st sl rs st1 sl1) (h2 : ReadSpec st1 sl1 rs' st2 sl2) : ReadSpec st sl (rs ++ rs') st2 sl2 := by
  obtain ⟨w1, hw1, hid1, hd1, -, he1⟩ := h1
  obtain ⟨w2, hw2, hid2, hd2, hb2, he2⟩ := h2
  refine ⟨w1 ++ w2, by rw [hw2, hw1, List.append_assoc], hid2.trans hid1, ?_, hb2, fun h => he2 ?_⟩
  · rw [delivered_append, List.append_assoc, hd2, ← List.append_assoc, hd1, hid1, receivedData_append,
      List.append_assoc]
  · rw [List.mem_append, or_assoc] at h
    exact h.elim (fun h => .inr (he1 (.inl h))) (Or.imp id (fun h => he1 (.inr h)))

/-- A step of the loop that hands nothing out and receives no data for the
stream. -/
theorem readSpec_skip {st st' : Stream} {sl sl' : σ × List Event} {w : List Event} (hv : SameView st st')
    (hw : sl'.2 = sl.2 ++ w) (hd : receivedData st.id w = []) (he : st.eof = false) :
    ReadSpec st sl [] st' sl' :=
  ⟨w, hw, hv.1, by simp [hv.2.1, hd], fun h => by simp [hv.2.2, he] at h, fun h => by simp [he] at h⟩

/-- A result that is an error other than `io.EOF`, from a stream without
`eof`, does not set `eof`. -/
theorem eof_clause_of_ne {e : String} {st st' : Stream} (hne : e ≠ "EOF") (he : st.eof = false) :
    (.error "EOF" ∈ [(.error e : Except String Bytes)] ∨ st.eof = true) → st'.eof = true := by
  simp [he, Ne.symm hne]

variable (P)

theorem sendMeIfDue_view (due : Bool) (sid : UInt16) (what : String) (credit : Stream → Stream)
    (hc : ∀ st, SameView st (credit st)) (st : Stream) {sl : σ × List Event}
    (h20 : 20 ≤ (P.backwardDigest sl.1).length) :
    SendMeFailed (sendMeIfDue P.logged due sid what credit st sl).1 ∨
      Quiet st sl (sendMeIfDue P.logged due sid what credit st sl) := by
  cases due
  · exact .inr ⟨rfl, ⟨rfl, rfl, rfl⟩, [], (List.append_nil _).symm, fun _ => rfl⟩
  rw [sendMeIfDue_of_digest P.logged (show 20 ≤ (P.logged.backwardDigest sl).length from h20)]
  rcases h : P.logged.sendRelay sl relaySendMe sid (sendMePayload (P.logged.backwardDigest sl)) with
    ⟨_ | ⟨⟩, sl'⟩
  · exact .inl ⟨what, _, rfl⟩
  · exact .inr ⟨rfl, hc st, _, (logged_sendRelay_ok P h).2, fun _ => rfl⟩

/-- `handleDataReceived` either fails sending a SENDME, or succeeds, leaves
what `Read` sees of the stream alone and logs only sends. -/
theorem handleDataReceived_view (st : Stream) {sl : σ × List Event} (h20 : 20 ≤ (P.backwardDigest sl.1).length) :
    SendMeFailed (handleDataReceived P.logged st sl).1 ∨ Quiet st sl (handleDataReceived P.logged st sl) := by
  unfold handleDataReceived
  dsimp only
  have h1 := sendMeIfDue_view P (decide (st.circDataReceived + 1 ≥ circSendMeWindow)) 0
    "circuit" (fun st => { st with circWindow := st.circWindow + circSendMeWindow, circDataReceived := 0 })
    (fun _ => ⟨rfl, rfl, rfl⟩)
    { st with circDataReceived := st.circDataReceived + 1, streamDataReceived := st.streamDataReceived + 1 } h20
  have h2 := sendMeIfDue_digest P.logged (s := sl) h20 (decide (st.circDataReceived + 1 ≥ circSendMeWindow)) 0
    "circuit" (fun st => { st with circWindow := st.circWindow + circSendMeWindow, circDataReceived := 0 })
    { st with circDataReceived := st.circDataReceived + 1, streamDataReceived := st.streamDataReceived + 1 }
  split
  · rename_i heq
    rw [heq] at h1
    exact .inl (h1.resolve_right fun q => nomatch q.1)
  · rename_i st1 sl1 heq
    rw [heq] at h1 h2
    obtain ⟨-, v1, w1, hw1, hd1⟩ := h1.resolve_left fun ⟨_, _, h⟩ => nomatch h
    refine (sendMeIfDue_view P (decide (st1.streamDataReceived ≥ streamSendMeWindow)) st1.id "stream"
      (fun st => { st with streamWindow := st.streamWindow + streamSendMeWindow, streamDataReceived := 0 })
      (fun _ => ⟨rfl, rfl, rfl⟩) st1 h2).imp id fun ⟨h2, v2, w2, hw2, hd2⟩ => ⟨h2, ?_, w1 ++ w2, ?_, fun id => ?_⟩
    · exact ⟨v2.1.trans v1.1, v2.2.1.trans v1.2.1, v2.2.2.trans v1.2.2⟩
    · rw [hw2, hw1, List.append_assoc]
    · rw [receivedData_append, hd1, hd2, List.append_nil]

/-- **One `Read` loop.** From an open stream with an empty buffer, the loop
either fails sending a SENDME or hands out some bytes and buffers others,
together the data of the RELAY_DATA cells for the stream that it received,
in order; it returns `io.EOF` only when it has set `eof`, and sets `eof`
only with an empty buffer. -/
theorem readLoop_delivery (st : Stream) (sl : σ × List Event) (n : Nat) (hb : st.buf = [])
    (he : st.eof = false) :
    SendMeFailed (readLoop P.logged st sl n).1 ∨
      ReadSpec st sl [(readLoop P.logged st sl n).1] (readLoop P.logged st sl n).2.1
        (readLoop P.logged st sl n).2.2 := by
  induction st, sl, n using readLoop.induct P.logged with
  | case1 st sl n e sl' hr =>
    obtain ⟨_, hlog⟩ := logged_receiveRelay_error P hr
    rw [readLoop_error _ hr]
    exact .inr ⟨[], by simp [hlog], rfl, by simp [delivered, hb], fun _ => hb,
      eof_clause_of_ne (append_ne_eof _ e (by decide)) he⟩
  | case2 st sl n m sl' hr _ hc ih =>
    obtain ⟨_, hlog⟩ := logged_receiveRelay_ok P hr
    rw [readLoop_circSendMe _ hr hc]
    exact (ih hb he).imp id (readSpec_skip ⟨rfl, rfl, rfl⟩ hlog
      (by simp [Event.dataFor, hc.1, show relaySendMe ≠ relayData by decide]) he).trans
  | case3 st sl n m sl' hr _ hc hid ih =>
    obtain ⟨_, hlog⟩ := logged_receiveRelay_ok P hr
    rw [readLoop_skip _ hr hc hid]
    exact (ih hb he).imp id (readSpec_skip ⟨rfl, rfl, rfl⟩ hlog (by simp [Event.dataFor, hid]) he).trans
  | case4 st sl n m sl' hr _ _ hid hcmd e st1 sl1 hh =>
    rw [readLoop_data _ hr (not_not.mp hid) hcmd, hh]
    have h := handleDataReceived_view P st (P.logged.receiveRelay_digest _ _ _ hr)
    rw [hh] at h
    dsimp only at h ⊢
    obtain ⟨what, e', he⟩ := h.resolve_right fun q => nomatch q.1
    exact .inl ⟨what, e', by rw [Except.error.inj he]⟩
  | case5 st sl n m sl' hr _ _ hid hcmd st1 sl1 hh =>
    obtain ⟨_, hlog⟩ := logged_receiveRelay_ok P hr
    have h := handleDataReceived_view P st (P.logged.receiveRelay_digest _ _ _ hr)
    rw [hh] at h
    obtain ⟨-, ⟨v1, v2, v3⟩, w, hw, hdw⟩ := h.resolve_left fun ⟨_, _, h⟩ => nomatch h
    rw [readLoop_data _ hr (not_not.mp hid) hcmd, hh]
    dsimp only at v1 v2 v3 hw ⊢
    refine .inr ⟨_ :: w, by rw [hw, hlog, List.append_assoc, List.singleton_append], v1, ?_,
      fun h => by simp [v3, he] at h, fun h => by simp [he] at h⟩
    simp [delivered, v2, hb, Event.dataFor, hcmd, not_not.mp hid, hdw]
  | case6 st sl n m sl' hr _ hc hid hcmd hend =>
    obtain ⟨_, hlog⟩ := logged_receiveRelay_ok P hr
    rw [readLoop_end _ hr (not_not.mp hid) hend]
    refine .inr ⟨[_], by rw [hlog], rfl, ?_, fun _ => hb, fun _ => rfl⟩
    simp [delivered, hb, Event.dataFor, hend, show relayEnd ≠ relayData by decide]
  | case7 st sl n m sl' hr _ hc hid hcmd hend hsm ih =>
    obtain ⟨_, hlog⟩ := logged_receiveRelay_ok P hr
    rw [readLoop_streamSendMe _ hr (fun h => hc ⟨hsm, h⟩) (not_not.mp hid) hsm]
    exact (ih hb he).imp id (readSpec_skip ⟨rfl, rfl, rfl⟩ hlog
      (by simp [Event.dataFor, hsm, show relaySendMe ≠ relayData by decide]) he).trans
  | case8 st sl n m sl' hr _ hc hid hcmd hend hsm =>
    obtain ⟨_, hlog⟩ := logged_receiveRelay_ok P hr
    rw [readLoop_unexpected _ hr (not_not.mp hid) hcmd hend hsm]
    refine .inr ⟨[_], by rw [hlog], rfl, by simp [delivered, hb, Event.dataFor, hcmd], fun _ => hb,
      eof_clause_of_ne (append_ne_eof _ " on stream" ?_) he⟩
    simp only [String.length_append]
    exact Nat.lt_add_right _ (by decide)

/-- **One `Read`.** From a stream whose buffer is empty once `eof` is set,
`Read` either fails sending a SENDME or keeps the delivery invariant. -/
theorem read_delivery (st : Stream) (sl : σ × List Event) (n : Nat) (hinv : st.eof = true → st.buf = []) :
    SendMeFailed (read P.logged st sl n).1 ∨
      ReadSpec st sl [(read P.logged st sl n).1] (read P.logged st sl n).2.1 (read P.logged st sl n).2.2 := by
  unfold read
  split_ifs with h1 h2 h3
  · exact .inr ⟨[], by simp, rfl, by simp [delivered, hinv h1], fun _ => hinv h1, fun _ => h1⟩
  · exact .inr ⟨[], by simp, rfl, by simp [delivered], fun h => absurd h h1, fun h => by simp [h1] at h⟩
  · exact .inr ⟨[], by simp, rfl, by simp [delivered], fun h => absurd h h1, fun h => by simp [h1] at h⟩
  · exact readLoop_delivery P st sl n (by simpa using h3) (by simpa using h1)

theorem read_of_eof (st : Stream) (s : σ) (n : Nat) (h : st.eof = true) : read P st s n = (.error "EOF", st, s) := by
  simp [read, h]

/-- Once `eof` is set, every `Read` returns `io.EOF` and changes nothing. -/
theorem readRun_eof (ns : List Nat) (st : Stream) (sl : σ × List Event) (h : st.eof = true) :
    readRun P ns st sl = (ns.map fun _ => .error "EOF", st, sl) := by
  induction ns with
  | nil => rfl
  | cons n ns ih => simp only [readRun, read_of_eof P.logged st sl n h, ih, List.map_cons]

/-- **Delivery over a run.** As long as no `Read` fails sending a SENDME,
a run of `Read`s keeps the delivery invariant. -/
theorem readRun_delivery (ns : List Nat) (st : Stream) (sl : σ × List Event) (hinv : st.eof = true → st.buf = [])
    (hf : ∀ r ∈ (readRun P ns st sl).1, ¬ SendMeFailed r) :
    ReadSpec st sl (readRun P ns st sl).1 (readRun P ns st sl).2.1 (readRun P ns st sl).2.2 := by
  induction ns generalizing st sl with
  | nil => exact ⟨[], by simp [readRun], rfl, by simp [readRun], hinv, fun h => by simpa [readRun] using h⟩
  | cons n ns ih =>
    simp only [readRun, List.mem_cons, forall_eq_or_imp] at hf ⊢
    have h1 := (read_delivery P st sl n hinv).resolve_left hf.1
    obtain ⟨-, -, -, -, hinv1, -⟩ := id h1
    exact h1.trans (ih _ _ hinv1 hf.2)

/-! ## Circuits whose SENDME sends succeed -/

/-- No text that begins otherwise than "se" reports a failed SENDME send. -/
theorem not_sendMeFailed {α : Type} {t : String} {p : List Char} (ht : t.data.take 2 = p)
    (hp : p ≠ ['s', 'e']) : ¬ SendMeFailed (.error t : Except String α) := fun ⟨what, e, he⟩ =>
  hp (by rw [← ht, Except.error.inj he]; rfl)

section SendsSucceed

variable (hs : ∀ s sid data, (P.sendRelay s relaySendMe sid data).1 = .ok ())
include hs

theorem sendMeIfDue_ok (due : Bool) (sid : UInt16) (what : String) (credit : Stream → Stream) (st : Stream)
    {sl : σ × List Event} (h20 : 20 ≤ (P.backwardDigest sl.1).length) :
    (sendMeIfDue P.logged due sid what credit st sl).1 = .ok () := by
  cases due
  · rfl
  rw [sendMeIfDue_of_digest P.logged (show 20 ≤ (P.logged.backwardDigest sl).length from h20),
    logged_sendRelay_of_ok P (hs _ _ _)]

theorem handleDataReceived_ok (st : Stream) {sl : σ × List Event} (h20 : 20 ≤ (P.backwardDigest sl.1).length) :
    (handleDataReceived P.logged st sl).1 = .ok () := by
  unfold handleDataReceived
  dsimp only
  have h2 := sendMeIfDue_digest P.logged (s := sl) h20 (decide (st.circDataReceived + 1 ≥ circSendMeWindow)) 0
    "circuit" (fun st => { st with circWindow := st.circWindow + circSendMeWindow, circDataReceived := 0 })
    { st with circDataReceived := st.circDataReceived + 1, streamDataReceived := st.streamDataReceived + 1 }
  split
  · rename_i heq
    have h := sendMeIfDue_ok P hs (decide (st.circDataReceived + 1 ≥ circSendMeWindow)) 0 "circuit"
      (fun st => { st with circWindow := st.circWindow + circSendMeWindow, circDataReceived := 0 })
      { st with circDataReceived := st.circDataReceived + 1, streamDataReceived := st.streamDataReceived + 1 } h20
    rw [heq] at h
    cases h
  · rename_i heq
    rw [heq] at h2
    exact sendMeIfDue_ok P hs _ _ _ _ _ h2

theorem readLoop_not_sendMeFailed (st : Stream) (sl : σ × List Event) (n : Nat) :
    ¬ SendMeFailed (readLoop P.logged st sl n).1 := by
  induction st, sl, n using readLoop.induct P.logged with
  | case1 st sl n e sl' hr =>
    rw [readLoop_error _ hr]
    exact not_sendMeFailed (p := ['r', 'e']) rfl (by decide)
  | case2 st sl n m sl' hr _ hc ih => rwa [readLoop_circSendMe _ hr hc]
  | case3 st sl n m sl' hr _ hc hid ih => rwa [readLoop_skip _ hr hc hid]
  | case4 st sl n m sl' hr _ _ hid hcmd e st1 sl1 hh =>
    have h := handleDataReceived_ok P hs st (P.logged.receiveRelay_digest _ _ _ hr)
    rw [hh] at h
    cases h
  | case5 st sl n m sl' hr _ _ hid hcmd st1 sl1 hh =>
    rw [readLoop_data _ hr (not_not.mp hid) hcmd, hh]
    exact fun ⟨_, _, h⟩ => nomatch h
  | case6 st sl n m sl' hr _ hc hid hcmd hend =>
    rw [readLoop_end _ hr (not_not.mp hid) hend]
    exact not_sendMeFailed (p := ['E', 'O']) rfl (by decide)
  | case7 st sl n m sl' hr _ hc hid hcmd hend hsm ih =>
    rwa [readLoop_streamSendMe _ hr (fun h => hc ⟨hsm, h⟩) (not_not.mp hid) hsm]
  | case8 st sl n m sl' hr _ hc hid hcmd hend hsm =>
    rw [readLoop_unexpected _ hr (not_not.mp hid) hcmd hend hsm]
    exact not_sendMeFailed (p := ['u', 'n']) rfl (by decide)

/-- On a circuit whose SENDME sends all succeed, no `Read` of any run fails
sending a SENDME. -/
theorem readRun_not_sendMeFailed (ns : List Nat) (st : Stream) (sl : σ × List Event) :
    ∀ r ∈ (readRun P ns st sl).1, ¬ SendMeFailed r := by
  induction ns generalizing st sl with
  | nil => exact nofun
  | cons n ns ih =>
    simp only [readRun, List.mem_cons, forall_eq_or_imp]
    refine ⟨?_, ih _ _⟩
    unfold read
    split_ifs with h1 h2 h3
    · exact not_sendMeFailed (p := ['E', 'O']) rfl (by decide)
    · exact not_sendMeFailed (p := ['s', 't']) rfl (by decide)
    · exact fun ⟨_, _, h⟩ => nomatch h
    · exact readLoop_not_sendMeFailed P hs st sl n

end SendsSucceed

end Delivery

/-! ## Delivery from a new stream -/

section InOrder

variable {σ : Type} (P : CircuitPort σ)

/-- **In-order delivery.** From the stream `Begin` returns, and as long as no
`Read` fails sending a SENDME, the bytes `Read` has returned are a prefix of
the data of the stream's RELAY_DATA cells in arrival order; once it has
returned `io.EOF` they are all of that data, and every later `Read` returns
`io.EOF` and receives nothing more. -/
theorem read_delivers_in_order (id : UInt16) (s : σ) (ns : List Nat)
    (hf : ∀ r ∈ (readRun P ns (newStream id) (s, [])).1, ¬ SendMeFailed r) :
    let r := readRun P ns (newStream id) (s, [])
    delivered r.1 <+: receivedData id r.2.2.2 ∧
      (.error "EOF" ∈ r.1 → delivered r.1 = receivedData id r.2.2.2 ∧
        ∀ ns', readRun P ns' r.2.1 r.2.2 = (ns'.map fun _ => .error "EOF", r.2.1, r.2.2)) := by
  intro r
  obtain ⟨w, hw, hid, hd, hb, he⟩ := readRun_delivery P ns (newStream id) (s, []) nofun hf
  simp only [newStream_id, newStream_buf, List.nil_append] at hw hd
  have hlog : r.2.2.2 = w := hw
  refine ⟨⟨r.2.1.buf, by rw [hd, hlog]⟩, fun h => ?_⟩
  have hend := he (.inl h)
  refine ⟨?_, fun ns' => readRun_eof P ns' _ _ hend⟩
  have := hd
  rw [hb hend, List.append_nil] at this
  rw [this, hlog]

/-- Three DATA cells, one for another stream, then RELAY_END. -/
def deliveryQueue : List RelayMsg :=
  [⟨0, relayData, 1, [1, 2, 3]⟩, ⟨0, relayData, 2, [9]⟩, ⟨0, relayData, 1, [4, 5]⟩, ⟨0, relayEnd, 1, []⟩]

theorem read_delivers_in_order_queue :
    (∀ r ∈ (readRun queuePort [2, 2, 5, 5] (newStream 1) (deliveryQueue, [])).1, ¬ SendMeFailed r) ∧
      let r := readRun queuePort [2, 2, 5, 5] (newStream 1) (deliveryQueue, [])
      delivered r.1 <+: receivedData 1 r.2.2.2 ∧
        (.error "EOF" ∈ r.1 → delivered r.1 = receivedData 1 r.2.2.2 ∧
          ∀ ns', readRun queuePort ns' r.2.1 r.2.2 = (ns'.map fun _ => .error "EOF", r.2.1, r.2.2)) :=
  have hf := readRun_not_sendMeFailed queuePort (fun _ _ _ => rfl) [2, 2, 5, 5] (newStream 1) (deliveryQueue, [])
  ⟨hf, read_delivers_in_order queuePort 1 deliveryQueue [2, 2, 5, 5] hf⟩

end InOrder

end TorGo.L4

