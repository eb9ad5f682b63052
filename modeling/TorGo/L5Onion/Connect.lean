import TorGo.L5Onion.LinkSpec
import TorGo.L5Onion.Descriptor
import TorGo.L5Onion.HsNtor

/-!
# Connecting to an onion service (`ConnectOnionService`, `tryIntroPoint`)

`ConnectOnionService` resolves the descriptor, builds the rendezvous
circuit, sends ESTABLISH_RENDEZVOUS with a random cookie and waits for
RENDEZVOUS_ESTABLISHED, then tries the introduction points in order.
`tryIntroPoint` builds a circuit to the introduction point, sends
INTRODUCE1, reads INTRODUCE_ACK, waits for RENDEZVOUS2 on the rendezvous
circuit, completes the hs-ntor handshake and adds the virtual hop. After
the first attempt that succeeds, a stream is begun on the rendezvous
circuit.

Everything outside the package is the `OnionNet` record: the resolver,
the circuit builder, the two circuits' `SendRelay` and `ReceiveRelay`,
`AddHop`, the links' `Close`, `stream.Begin`, `crypto/rand` and the log
line that names the introduction point being tried. Its `logged` form
records what each call did as a `Call`.

Section 4.10's session is `Session`, a machine over those calls: it
moves from `introducing` to `waitingRend` only on an INTRODUCE_ACK whose
first two body bytes are zero, adds the virtual hop only after RENDEZVOUS2,
and begins a stream only once connected.

Results:
* `awaitRendezvous_ok_iff`: an attempt adds the virtual hop only with the
  keys of a verified RENDEZVOUS2 (`CompleteRendezvous` succeeded), and then
  succeeds;
* `connect_refines_session`: for every network, the machine accepts the
  calls `ConnectOnionService` makes exactly when no INTRODUCE_ACK shorter
  than two bytes arrives, and then it ends `ready` when a stream is
  returned and `failed` otherwise.
-/
namespace TorGo.L5

open TorGo.L1 TorGo.L2 TorGo.L3

/-! ## The network -/

/-- The two circuits the connection holds: `rendBuilt` and the
`introBuilt` of the attempt in progress. -/
inductive Circ where
  | rend
  | intro
  deriving DecidableEq, Repr

/-- What `ConnectOnionService` and `tryIntroPoint` call outside the
package: `ResolveOnionService`; `builder.BuildCircuit` (with no target for
the rendezvous circuit), returning the last hop; `rand.Read`; the circuits'
`SendRelay`, `ReceiveRelay` (command and body) and the rendezvous
circuit's `AddHop`; `LinkCloser.Close`; `stream.Begin` on the rendezvous
circuit; `logger.Info("trying introduction point", "index", ipIdx)`. -/
structure OnionNet (σ τ : Type) where
  resolve : σ → Except String ConnectResult × σ
  buildCircuit : σ → Option RelayInfo → Except String RelayInfo × σ
  randRead : σ → Nat → Except String Bytes × σ
  sendRelay : σ → Circ → UInt8 → Bytes → Except String Unit × σ
  receiveRelay : σ → Circ → Except String (UInt8 × Bytes) × σ
  addHop : σ → Hop → σ
  closeLink : σ → Circ → σ
  begin : σ → String → Except String τ × σ
  logTrying : σ → Nat → σ

/-- The package's own code the connection calls: hs-ntor, `net.IP`'s text
form and `initOnionHop`. -/
structure OnionCrypto where
  hs : HsPrims
  ip : IPText
  initOnionHop : RendezvousKeys → Except String Hop

variable {σ τ : Type} (C : OnionCrypto) (net : OnionNet σ τ)

/-! ## `tryIntroPoint` -/

/-- `status := uint16(ackData[0])<<8 | uint16(ackData[1])`. -/
def ackStatus (ackData : Bytes) : UInt16 := uint16 ackData

/-- The INTRODUCE_ACK status check: only a body of two bytes or more is
checked. -/
def ackCheck (ackData : Bytes) : Except String Unit :=
  if ackData.length ≥ 2 ∧ ackStatus ackData ≠ 0 then
    .error ("INTRODUCE_ACK status=" ++ toString (ackStatus ackData) ++ " (non-zero)")
  else .ok ()

/-- `tryIntroPoint` once INTRODUCE_ACK has been accepted: RENDEZVOUS2 on
the rendezvous circuit, `CompleteRendezvous` and the virtual hop. -/
def awaitRendezvous (st : HsNtorClientState) (s : σ) : Except String Unit × σ :=
  match net.receiveRelay s .rend with
  | (.error e, s) => (.error ("receive RENDEZVOUS2: " ++ e), s)
  | (.ok (cmd, rend2Data), s) =>
    if cmd ≠ relayRendezvous2 then (.error ("expected RENDEZVOUS2 (37), got " ++ toString cmd), s)
    else
      match completeRendezvous C.hs st rend2Data with
      | .error e => (.error ("complete rendezvous: " ++ e), s)
      | .ok keys =>
        match C.initOnionHop keys with
        | .error e => (.error ("init onion hop: " ++ e), s)
        | .ok hop => (.ok (), net.addHop s hop)

/-- `tryIntroPoint` on the built introduction circuit, from
`BuildINTRODUCE1` on; the ephemeral key is the `rand.Read` of
`HsNtorClientHandshake`. -/
def introduce (ip : IntroPoint) (result : ConnectResult) (cookie : Bytes) (rendLastHop : RelayInfo)
    (rendLinkSpecs : Bytes) (s : σ) : Except String Unit × σ :=
  match net.randRead s 32 with
  | (.error e, s) => (.error ("build INTRODUCE1: hs-ntor handshake: generate ephemeral key: " ++ e), s)
  | (.ok x, s) =>
    match buildINTRODUCE1 C.hs ip.authKey ip.encKey result.subcred cookie rendLastHop.ntorOnionKey
        rendLinkSpecs x with
    | .error e => (.error ("build INTRODUCE1: " ++ e), s)
    | .ok (introduce1, st) =>
      match net.sendRelay s .intro relayIntroduce1 introduce1 with
      | (.error e, s) => (.error ("send INTRODUCE1: " ++ e), s)
      | (.ok (), s) =>
        match net.receiveRelay s .intro with
        | (.error e, s) => (.error ("receive INTRODUCE_ACK: " ++ e), s)
        | (.ok (cmd, ackData), s) =>
          if cmd ≠ relayIntroduceAck then (.error ("expected INTRODUCE_ACK (40), got " ++ toString cmd), s)
          else
            match ackCheck ackData with
            | .error e => (.error e, s)
            | .ok () => awaitRendezvous C net st s

/-- `tryIntroPoint`: the introduction circuit's link is closed on every
return after it was built (`defer`). -/
def tryIntroPoint (ip : IntroPoint) (result : ConnectResult) (cookie : Bytes) (rendLastHop : RelayInfo)
    (rendLinkSpecs : Bytes) (s : σ) : Except String Unit × σ :=
  match parseLinkSpecifiers C.ip ip.linkSpecifiers with
  | .error e => (.error ("parse link specifiers: " ++ e), s)
  | .ok specs =>
    match net.buildCircuit s (some (introInfo specs ip.onionKey)) with
    | (.error e, s) => (.error ("build intro circuit: " ++ e), s)
    | (.ok _, s) =>
      let r := introduce C net ip result cookie rendLastHop rendLinkSpecs s
      (r.1, net.closeLink r.2 .intro)

/-! ## `ConnectOnionService` -/

/-- The loop over the introduction points, the `ipIdx`-th first, with the
last attempt's error. -/
def tryIntroPoints (result : ConnectResult) (cookie : Bytes) (rendLastHop : RelayInfo) (rendLinkSpecs : Bytes)
    (target : String) : List IntroPoint → Nat → String → σ → Except String τ × σ
  | [], _, lastIntroErr, s =>
    (.error ("all introduction points failed: " ++ lastIntroErr), net.closeLink s .rend)
  | ip :: ips, ipIdx, _, s =>
    match tryIntroPoint C net ip result cookie rendLastHop rendLinkSpecs (net.logTrying s ipIdx) with
    | (.error e, s) => tryIntroPoints result cookie rendLastHop rendLinkSpecs target ips (ipIdx + 1) e s
    | (.ok (), s) =>
      match net.begin s target with
      | (.error e, s) => (.error ("stream begin: " ++ e), net.closeLink s .rend)
      | (.ok st, s) => (.ok st, s)

/-- `ConnectOnionService(address, port, ...)`. A nil `lastIntroErr` prints
as Go's `%!w(<nil>)`. -/
def connectOnionService (address : String) (port : UInt16) (s : σ) : Except String τ × σ :=
  match net.resolve s with
  | (.error e, s) => (.error ("resolve onion service: " ++ e), s)
  | (.ok result, s) =>
    match net.buildCircuit s none with
    | (.error e, s) => (.error ("build rendezvous circuit: " ++ e), s)
    | (.ok rendLastHop, s) =>
      match net.randRead s 20 with
      | (.error e, s) => (.error ("generate cookie: generate rendezvous cookie: " ++ e), net.closeLink s .rend)
      | (.ok cookie, s) =>
        match net.sendRelay s .rend relayEstablishRendezvous cookie with
        | (.error e, s) => (.error ("send ESTABLISH_RENDEZVOUS: " ++ e), net.closeLink s .rend)
        | (.ok (), s) =>
          match net.receiveRelay s .rend with
          | (.error e, s) => (.error ("receive RENDEZVOUS_ESTABLISHED: " ++ e), net.closeLink s .rend)
          | (.ok (cmd, _), s) =>
            if cmd ≠ relayRendezvousEstablished then
              (.error ("expected RENDEZVOUS_ESTABLISHED (39), got " ++ toString cmd), net.closeLink s .rend)
            else
              match buildRendLinkSpecs C.ip rendLastHop.nodeID rendLastHop.address rendLastHop.orPort
                  (List.replicate 32 0) with
              | .error e => (.error ("build rend link specs: " ++ e), net.closeLink s .rend)
              | .ok rendLinkSpecs =>
                tryIntroPoints C net result cookie rendLastHop rendLinkSpecs (address ++ ":" ++ toString port)
                  result.introPoints 0 "%!w(<nil>)" s

/-- **The virtual hop is the verified one.** Once INTRODUCE_ACK has been
accepted, the attempt succeeds exactly when RENDEZVOUS2 arrives, its AUTH
verifies (`CompleteRendezvous` returns keys) and `initOnionHop` takes the
keys; it then adds that hop and nothing else, and a failed attempt adds no
hop. -/
theorem awaitRendezvous_ok_iff (st : HsNtorClientState) (s : σ) :
    ((awaitRendezvous C net st s).1 = .ok () ↔
      ∃ d s' keys hop, net.receiveRelay s .rend = (.ok (relayRendezvous2, d), s') ∧
        completeRendezvous C.hs st d = .ok keys ∧ C.initOnionHop keys = .ok hop ∧
        (awaitRendezvous C net st s).2 = net.addHop s' hop) ∧
    ((awaitRendezvous C net st s).1 ≠ .ok () → (awaitRendezvous C net st s).2 = (net.receiveRelay s .rend).2) := by
  unfold awaitRendezvous
  rcases hr : net.receiveRelay s .rend with ⟨e | ⟨cmd, d⟩, s'⟩
  · exact ⟨iff_of_false nofun fun ⟨_, _, _, _, h, _, _, _⟩ => (nomatch h), fun _ => rfl⟩
  dsimp only
  by_cases hc : cmd = relayRendezvous2
  · subst hc
    simp only [ne_eq, not_true_eq_false, if_false]
    rcases hk : completeRendezvous C.hs st d with e | keys
    · exact ⟨iff_of_false nofun fun ⟨_, _, _, _, h, h', _, _⟩ => (by cases h; rw [hk] at h'; cases h'), fun _ => rfl⟩
    dsimp only
    rcases hh : C.initOnionHop keys with e | hop
    · refine ⟨iff_of_false nofun fun ⟨_, _, _, _, h, h', h'', _⟩ => ?_, fun _ => rfl⟩
      cases h
      rw [hk] at h'
      cases h'
      rw [hh] at h''
      cases h''
    · exact ⟨iff_of_true rfl ⟨d, s', keys, hop, rfl, hk, hh, rfl⟩, fun h => absurd rfl h⟩
  · rw [if_pos hc]
    exact ⟨iff_of_false nofun fun ⟨_, _, _, _, h, _, _, _⟩ => (hc (by cases h; rfl)), fun _ => rfl⟩

/-! ## The calls, as the session sees them -/

/-- What one network call did. -/
inductive Call where
  | resolved (r : Except String ConnectResult)
  | built (target : Option RelayInfo) (ok : Bool)
  | random (n : Nat) (ok : Bool)
  | sent (c : Circ) (cmd : UInt8) (ok : Bool)
  | received (c : Circ) (r : Except String (UInt8 × Bytes))
  | hopAdded
  | closed (c : Circ)
  | begun (ok : Bool)
  | trying (i : Nat)

/-- `net`, with a log of its calls. -/
def OnionNet.logged : OnionNet (σ × List Call) τ where
  resolve sl := ((net.resolve sl.1).1, (net.resolve sl.1).2, sl.2 ++ [.resolved (net.resolve sl.1).1])
  buildCircuit sl t :=
    ((net.buildCircuit sl.1 t).1, (net.buildCircuit sl.1 t).2, sl.2 ++ [.built t (net.buildCircuit sl.1 t).1.toBool])
  randRead sl n := ((net.randRead sl.1 n).1, (net.randRead sl.1 n).2, sl.2 ++ [.random n (net.randRead sl.1 n).1.toBool])
  sendRelay sl c cmd d :=
    ((net.sendRelay sl.1 c cmd d).1, (net.sendRelay sl.1 c cmd d).2,
      sl.2 ++ [.sent c cmd (net.sendRelay sl.1 c cmd d).1.toBool])
  receiveRelay sl c :=
    ((net.receiveRelay sl.1 c).1, (net.receiveRelay sl.1 c).2, sl.2 ++ [.received c (net.receiveRelay sl.1 c).1])
  addHop sl h := (net.addHop sl.1 h, sl.2 ++ [.hopAdded])
  closeLink sl c := (net.closeLink sl.1 c, sl.2 ++ [.closed c])
  begin sl t := ((net.begin sl.1 t).1, (net.begin sl.1 t).2, sl.2 ++ [.begun (net.begin sl.1 t).1.toBool])
  logTrying sl i := (net.logTrying sl.1 i, sl.2 ++ [.trying i])

/-! ## The session of section 4.10 -/

/-- The states of one connection attempt. `introducing k i started` is at
introduction point `i` of `k`, `started` once it is being tried;
`waitingRend k i rendezvous2` has had RENDEZVOUS2 when the flag is set. -/
inductive Session where
  | resolve
  | rendBuild (k : Nat)
  | establishRend (k : Nat)
  | introducing (k i : Nat) (started : Bool)
  | waitingRend (k i : Nat) (rendezvous2 : Bool)
  | connected
  | ready
  | failed
  deriving DecidableEq, Repr

/-- An INTRODUCE_ACK whose first two body bytes are zero. -/
def ackAccepted : Except String (UInt8 × Bytes) → Bool
  | .ok (cmd, ack) => cmd == relayIntroduceAck && ack.take 2 == [0, 0]
  | .error _ => false

/-- A message with relay command `cmd`. -/
def hasCmd (cmd : UInt8) : Except String (UInt8 × Bytes) → Bool
  | .ok (c, _) => c == cmd
  | .error _ => false

/-- One call, as section 4.10 allows it: `none` when it may not happen in
that state. A failed attempt at introduction point `i` leads to `i + 1`,
or to `failed` after the last one; the rendezvous setup may fail before
the first attempt. -/
def Session.step : Session → Call → Option Session
  | .resolve, .resolved (.ok r) => some (.rendBuild r.introPoints.length)
  | .resolve, .resolved (.error _) => some .failed
  | .rendBuild k, .built none ok => some (if ok then .establishRend k else .failed)
  | .establishRend k, .random _ _ => some (.establishRend k)
  | .establishRend k, .sent .rend _ _ => some (.establishRend k)
  | .establishRend k, .received .rend r =>
    some (if hasCmd relayRendezvousEstablished r then .introducing k 0 false else .establishRend k)
  | .establishRend _, .closed .rend => some .failed
  | .introducing k i false, .trying j => if j = i ∧ i < k then some (.introducing k i true) else none
  | .introducing _ i false, .closed .rend => if i = 0 then some .failed else none
  | .introducing k i true, .built (some _) _ => some (.introducing k i true)
  | .introducing k i true, .random _ _ => some (.introducing k i true)
  | .introducing k i true, .sent .intro _ _ => some (.introducing k i true)
  | .introducing k i true, .received .intro r =>
    some (if ackAccepted r then .waitingRend k i false else .introducing k i true)
  | .introducing k i true, .closed .intro => some (.introducing k i true)
  | .introducing k i true, .trying j => if j = i + 1 ∧ j < k then some (.introducing k j true) else none
  | .introducing k i true, .closed .rend => if i + 1 = k then some .failed else none
  | .waitingRend k i _, .received .rend r => some (.waitingRend k i (hasCmd relayRendezvous2 r))
  | .waitingRend _ _ true, .hopAdded => some .connected
  | .waitingRend k i g, .closed .intro => some (.waitingRend k i g)
  | .waitingRend k i _, .trying j => if j = i + 1 ∧ j < k then some (.introducing k j true) else none
  | .waitingRend k i _, .closed .rend => if i + 1 = k then some .failed else none
  | .connected, .closed .intro => some .connected
  | .connected, .begun ok => some (if ok then .ready else .connected)
  | .connected, .closed .rend => some .failed
  | _, _ => none

/-! The transitions later proofs take with a call that is not fixed: each is
stated once, so that no proof unfolds the whole table. -/

theorem Session.step_establishRend_received (k : Nat) (r : Except String (UInt8 × Bytes)) :
    (Session.establishRend k).step (.received .rend r) =
      some (if hasCmd relayRendezvousEstablished r then .introducing k 0 false else .establishRend k) := rfl

theorem Session.step_start_trying (k i j : Nat) :
    (Session.introducing k i false).step (.trying j) =
      if j = i ∧ i < k then some (.introducing k i true) else none := rfl

theorem Session.step_introducing_received (k i : Nat) (r : Except String (UInt8 × Bytes)) :
    (Session.introducing k i true).step (.received .intro r) =
      some (if ackAccepted r then .waitingRend k i false else .introducing k i true) := rfl

theorem Session.step_introducing_trying (k i j : Nat) :
    (Session.introducing k i true).step (.trying j) =
      if j = i + 1 ∧ j < k then some (.introducing k j true) else none := rfl

theorem Session.step_introducing_closeRend (k i : Nat) :
    (Session.introducing k i true).step (.closed .rend) = if i + 1 = k then some .failed else none := rfl

theorem Session.step_waitingRend_received (k i : Nat) (g : Bool) (r : Except String (UInt8 × Bytes)) :
    (Session.waitingRend k i g).step (.received .rend r) = some (.waitingRend k i (hasCmd relayRendezvous2 r)) := by
  cases g <;> rfl

theorem Session.step_waitingRend_trying (k i j : Nat) (g : Bool) :
    (Session.waitingRend k i g).step (.trying j) =
      if j = i + 1 ∧ j < k then some (.introducing k j true) else none := by
  cases g <;> rfl

theorem Session.step_waitingRend_closeRend (k i : Nat) (g : Bool) :
    (Session.waitingRend k i g).step (.closed .rend) = if i + 1 = k then some .failed else none := by
  cases g <;> rfl

/-- The machine over a sequence of calls. -/
def Session.run : Session → List Call → Option Session
  | st, [] => some st
  | st, c :: cs => (st.step c).bind fun st' => st'.run cs

/-- An attempt's calls from the ephemeral key to the INTRODUCE_ACK. -/
theorem Session.run_introduce1 (k i : Nat) (r : Except String (UInt8 × Bytes)) (w : List Call) :
    (Session.introducing k i true).run (.random 32 true :: .sent .intro relayIntroduce1 true :: .received .intro r :: w) =
      (if ackAccepted r then Session.waitingRend k i false else .introducing k i true).run w := rfl

theorem Session.run_append (st : Session) (w w' : List Call) :
    st.run (w ++ w') = (st.run w).bind fun st' => st'.run w' := by
  induction w generalizing st with
  | nil => rfl
  | cons c w ih =>
    simp only [List.cons_append, Session.run]
    cases st.step c <;> simp [ih]

/-! ## Runs refused only for a short INTRODUCE_ACK -/

/-- The calls hold an INTRODUCE_ACK with a body shorter than two bytes. -/
def ShortAck (w : List Call) : Prop :=
  ∃ ack, ack.length < 2 ∧ Call.received .intro (.ok (relayIntroduceAck, ack)) ∈ w

/-- An INTRODUCE_ACK with a body shorter than two bytes. -/
def Call.shortAck : Call → Bool
  | .received .intro (.ok (cmd, ack)) => cmd == relayIntroduceAck && decide (ack.length < 2)
  | _ => false

theorem shortAck_iff_any (w : List Call) : ShortAck w ↔ w.any Call.shortAck = true := by
  simp only [ShortAck, List.any_eq_true]
  constructor
  · rintro ⟨a, h, m⟩
    exact ⟨_, m, by simp [Call.shortAck, h]⟩
  · rintro ⟨c, m, h⟩
    match c, h with
    | .received .intro (.ok (cmd, ack)), h =>
      simp only [Call.shortAck, Bool.and_eq_true, beq_iff_eq, decide_eq_true_eq] at h
      exact ⟨ack, h.2, h.1 ▸ m⟩

theorem shortAck_append (w w' : List Call) : ShortAck (w ++ w') ↔ ShortAck w ∨ ShortAck w' := by
  simp only [ShortAck, List.mem_append]
  exact ⟨fun ⟨a, h, m⟩ => m.imp (⟨a, h, ·⟩) (⟨a, h, ·⟩),
    fun h => h.elim (fun ⟨a, h, m⟩ => ⟨a, h, .inl m⟩) (fun ⟨a, h, m⟩ => ⟨a, h, .inr m⟩)⟩

/-- The machine refuses `w` from `st`, and `w` holds a short INTRODUCE_ACK;
or `w` holds none and the machine runs it into a state satisfying `Q`. -/
def RunsTo (st : Session) (w : List Call) (Q : Session → Prop) : Prop :=
  (ShortAck w ∧ st.run w = none) ∨ (¬ ShortAck w ∧ ∃ st', st.run w = some st' ∧ Q st')

theorem RunsTo.of_run {st st' : Session} {w : List Call} {Q : Session → Prop} (h : st.run w = some st')
    (hs : ¬ ShortAck w) (hq : Q st') : RunsTo st w Q :=
  .inr ⟨hs, st', h, hq⟩

/-- The form of `of_run` that later proofs close by `rfl`: the call log
checked for short INTRODUCE_ACKs by computation. -/
theorem RunsTo.of_any {st st' : Session} {w : List Call} {Q : Session → Prop} (h : st.run w = some st')
    (hs : w.any Call.shortAck = false) (hq : Q st') : RunsTo st w Q :=
  .of_run h (by rw [shortAck_iff_any, hs]; exact Bool.false_ne_true) hq

theorem RunsTo.bind {st : Session} {w w' : List Call} {Q R : Session → Prop} (h : RunsTo st w Q)
    (h' : ∀ st', Q st' → RunsTo st' w' R) : RunsTo st (w ++ w') R := by
  rcases h with ⟨hs, hr⟩ | ⟨hs, st', hr, hq⟩
  · exact .inl ⟨(shortAck_append w w').2 (.inl hs), by rw [Session.run_append, hr]; rfl⟩
  · rcases h' st' hq with ⟨hs', hr'⟩ | ⟨hs', st'', hr', hq'⟩
    · exact .inl ⟨(shortAck_append w w').2 (.inr hs'), by rw [Session.run_append, hr]; exact hr'⟩
    · refine .inr ⟨fun h => ((shortAck_append w w').1 h).elim hs hs', st'', ?_, hq'⟩
      rw [Session.run_append, hr]
      exact hr'

theorem RunsTo.nil {st : Session} {Q : Session → Prop} (hq : Q st) : RunsTo st [] Q :=
  .of_run rfl (by simp [shortAck_iff_any]) hq

/-- A call the machine takes, and that is no short INTRODUCE_ACK, before the
rest. -/
theorem RunsTo.cons {st st' : Session} {c : Call} {w : List Call} {Q : Session → Prop}
    (h : st.step c = some st') (hc : c.shortAck = false) (hw : RunsTo st' w Q) : RunsTo st (c :: w) Q :=
  (RunsTo.of_run (Q := (· = st')) (w := [c]) (by simp [Session.run, h]) (by simp [shortAck_iff_any, hc]) rfl).bind
    fun _ h => h ▸ hw

/-- A refused run is refused for a short INTRODUCE_ACK, and an accepted one
ends in `Q`. -/
theorem RunsTo.iff {st : Session} {w : List Call} {Q : Session → Prop} (h : RunsTo st w Q) :
    (st.run w = none ↔ ShortAck w) ∧ ∀ st', st.run w = some st' → Q st' := by
  rcases h with ⟨hs, hr⟩ | ⟨hs, st', hr, hq⟩
  · exact ⟨iff_of_true hr hs, fun _ h => by rw [hr] at h; cases h⟩
  · refine ⟨iff_of_false (by rw [hr]; exact Option.some_ne_none _) hs, fun _ h => ?_⟩
    rw [hr] at h
    cases h
    exact hq

/-! ## Each stage of the connection, through the machine -/

section Logged

variable {s : σ} {l : List Call}

@[simp] theorem logged_resolve : net.logged.resolve (s, l) =
    ((net.resolve s).1, (net.resolve s).2, l ++ [.resolved (net.resolve s).1]) := rfl

@[simp] theorem logged_buildCircuit (t : Option RelayInfo) : net.logged.buildCircuit (s, l) t =
    ((net.buildCircuit s t).1, (net.buildCircuit s t).2, l ++ [.built t (net.buildCircuit s t).1.toBool]) := rfl

@[simp] theorem logged_randRead (n : Nat) : net.logged.randRead (s, l) n =
    ((net.randRead s n).1, (net.randRead s n).2, l ++ [.random n (net.randRead s n).1.toBool]) := rfl

@[simp] theorem logged_sendRelay (c : Circ) (cmd : UInt8) (d : Bytes) : net.logged.sendRelay (s, l) c cmd d =
    ((net.sendRelay s c cmd d).1, (net.sendRelay s c cmd d).2, l ++ [.sent c cmd (net.sendRelay s c cmd d).1.toBool]) :=
  rfl

@[simp] theorem logged_receiveRelay (c : Circ) : net.logged.receiveRelay (s, l) c =
    ((net.receiveRelay s c).1, (net.receiveRelay s c).2, l ++ [.received c (net.receiveRelay s c).1]) := rfl

@[simp] theorem logged_addHop (h : Hop) : net.logged.addHop (s, l) h = (net.addHop s h, l ++ [.hopAdded]) := rfl

@[simp] theorem logged_closeLink (c : Circ) : net.logged.closeLink (s, l) c = (net.closeLink s c, l ++ [.closed c]) :=
  rfl

@[simp] theorem logged_begin (t : String) : net.logged.begin (s, l) t =
    ((net.begin s t).1, (net.begin s t).2, l ++ [.begun (net.begin s t).1.toBool]) := rfl

@[simp] theorem logged_logTrying (i : Nat) : net.logged.logTrying (s, l) i = (net.logTrying s i, l ++ [.trying i]) :=
  rfl

end Logged

/-- Where an attempt at introduction point `i` of `k` leaves the machine:
`connected` when it succeeded; otherwise still at `i`, ready for the next
attempt or for the final failure. -/
def AttemptDone (k i : Nat) (ok : Bool) (st : Session) : Prop :=
  if ok then st = .connected else st = .introducing k i true ∨ ∃ g, st = .waitingRend k i g

/-- Calls the machine takes, with no short INTRODUCE_ACK among them, that
leave it at the attempt or waiting for RENDEZVOUS2: a failed attempt. -/
theorem RunsTo.failed {st st' : Session} {w : List Call} {k i : Nat} (h : st.run w = some st')
    (hs : w.any Call.shortAck = false) (hq : st' = .introducing k i true ∨ ∃ g, st' = .waitingRend k i g) :
    RunsTo st w (AttemptDone k i false) :=
  .of_any h hs hq

theorem awaitRendezvous_runsTo (st : HsNtorClientState) (s : σ) (l : List Call) (k i : Nat) :
    ∃ r w, (awaitRendezvous C net.logged st (s, l)).2.2 = l ++ .received .rend r :: w ∧
      RunsTo (.waitingRend k i false) (.received .rend r :: w)
        (AttemptDone k i (awaitRendezvous C net.logged st (s, l)).1.toBool) := by
  unfold awaitRendezvous
  simp only [logged_receiveRelay]
  rcases h : net.receiveRelay s .rend with ⟨_ | ⟨cmd, d⟩, s'⟩
  · exact ⟨_, [], rfl, .failed rfl rfl (.inr ⟨_, rfl⟩)⟩
  · dsimp only
    split_ifs with hc
    · exact ⟨_, [], rfl, .failed rfl rfl (.inr ⟨_, rfl⟩)⟩
    · split
      · exact ⟨_, [], rfl, .failed rfl rfl (.inr ⟨_, rfl⟩)⟩
      · split
        · exact ⟨_, [], rfl, .failed rfl rfl (.inr ⟨_, rfl⟩)⟩
        · obtain rfl : cmd = relayRendezvous2 := not_not.mp hc
          exact ⟨.ok (relayRendezvous2, d), [.hopAdded], by simp, .of_run rfl (by simp [shortAck_iff_any, Call.shortAck])
            (by simp [AttemptDone, Except.toBool])⟩

theorem uint8_eq_zero_iff (a : UInt8) : a = 0 ↔ a.toNat = 0 :=
  ⟨fun h => h ▸ UInt8.toNat_zero, fun h => UInt8.toNat.inj (h.trans UInt8.toNat_zero.symm)⟩

theorem uint16_eq_zero (a b : UInt8) (rest : Bytes) : uint16 (a :: b :: rest) = 0 ↔ a = 0 ∧ b = 0 := by
  have ha := a.toNat_lt_size
  have hb := b.toNat_lt_size
  have hz : uint16 (a :: b :: rest) = 0 ↔ (uint16 (a :: b :: rest)).toNat = 0 :=
    ⟨fun h => h ▸ UInt16.toNat_zero, fun h => UInt16.toNat.inj (h.trans UInt16.toNat_zero.symm)⟩
  rw [hz, uint8_eq_zero_iff, uint8_eq_zero_iff]
  simp only [uint16, List.getD_cons_zero, List.getD_cons_succ, UInt16.toNat_ofNat']
  simp only [UInt8.size] at ha hb
  omega

/-- The INTRODUCE_ACK check passes exactly when a body of two bytes or more
starts with two zero bytes: a shorter body always passes. -/
theorem ackCheck_ok_iff (ack : Bytes) : ackCheck ack = .ok () ↔ (2 ≤ ack.length → ack.take 2 = [0, 0]) := by
  match ack with
  | [] => simp [ackCheck]
  | [_] => simp [ackCheck]
  | a :: b :: rest => simp [ackCheck, ackStatus, uint16_eq_zero]

theorem introduce_runsTo (ip : IntroPoint) (result : ConnectResult) (cookie : Bytes) (rendLastHop : RelayInfo)
    (rendLinkSpecs : Bytes) (s : σ) (l : List Call) (k i : Nat) :
    ∃ w, (introduce C net.logged ip result cookie rendLastHop rendLinkSpecs (s, l)).2.2 = l ++ w ∧
      RunsTo (.introducing k i true) w
        (AttemptDone k i (introduce C net.logged ip result cookie rendLastHop rendLinkSpecs (s, l)).1.toBool) := by
  unfold introduce
  simp only [logged_randRead]
  rcases h1 : net.randRead s 32 with ⟨_ | x, s1⟩
  · exact ⟨[.random 32 false], rfl, .failed rfl rfl (.inl rfl)⟩
  dsimp only
  split
  · exact ⟨[.random 32 true], rfl, .failed rfl rfl (.inl rfl)⟩
  next introduce1 st _ =>
  simp only [logged_sendRelay]
  rcases h2 : net.sendRelay s1 .intro relayIntroduce1 introduce1 with ⟨_ | ⟨⟩, s2⟩
  · exact ⟨[.random 32 true, .sent .intro relayIntroduce1 false], by simp [Except.toBool],
      .failed rfl rfl (.inl rfl)⟩
  dsimp only
  simp only [logged_receiveRelay]
  rcases h3 : net.receiveRelay s2 .intro with ⟨e | ⟨cmd, ack⟩, s3⟩
  · exact ⟨[.random 32 true, .sent .intro relayIntroduce1 true, .received .intro (.error e)],
      by simp [Except.toBool], .failed rfl rfl (.inl rfl)⟩
  dsimp only
  split_ifs with hc
  · refine ⟨[.random 32 true, .sent .intro relayIntroduce1 true, .received .intro (.ok (cmd, ack))],
      by simp [Except.toBool], .failed ?_ (by simp [Call.shortAck, hc]) (.inl rfl)⟩
    rw [Session.run_introduce1]; simp [Session.run, ackAccepted, hc]
  obtain rfl : cmd = relayIntroduceAck := not_not.mp hc
  split
  · next e he =>
    obtain ⟨hl, ht⟩ := Classical.not_imp.mp (mt (ackCheck_ok_iff ack).2 (by simp [he]))
    refine ⟨[.random 32 true, .sent .intro relayIntroduce1 true, .received .intro (.ok (relayIntroduceAck, ack))],
      by simp [Except.toBool], .failed ?_ (by simp [Call.shortAck, hl]) (.inl rfl)⟩
    rw [Session.run_introduce1]; simp [Session.run, ackAccepted, ht]
  · next hack =>
    have hack := (ackCheck_ok_iff ack).1 hack
    obtain ⟨r, w, hw, hr⟩ := awaitRendezvous_runsTo C net st s3
      (l ++ [.random 32 true] ++ [.sent .intro relayIntroduce1 true] ++
        [.received .intro (.ok (relayIntroduceAck, ack))]) k i
    refine ⟨[.random 32 true, .sent .intro relayIntroduce1 true, .received .intro (.ok (relayIntroduceAck, ack))] ++
      .received .rend r :: w, hw.trans (by simp), ?_⟩
    by_cases hl : 2 ≤ ack.length
    · refine (RunsTo.of_run (Q := (· = .waitingRend k i false)) ?_ ?_ rfl).bind fun _ h => h ▸ hr
      · rw [Session.run_introduce1]; simp [Session.run, ackAccepted, hack hl]
      · simp [shortAck_iff_any, Call.shortAck, hl]
    · refine .inl ⟨⟨ack, by omega, by simp⟩, ?_⟩
      have hta : ack.take 2 ≠ [0, 0] := fun h => by
        have := congrArg List.length h
        simp only [List.length_take, List.length_cons, List.length_nil] at this
        omega
      simp only [List.cons_append, List.nil_append, Session.run_introduce1]
      rw [if_neg (by simp [ackAccepted, hta])]
      rfl

/-- A failed or successful attempt may be followed by the close of its
introduction circuit. -/
theorem AttemptDone.closeIntro {k i : Nat} {ok : Bool} {st : Session} (h : AttemptDone k i ok st) :
    st.step (.closed .intro) = some st := by
  unfold AttemptDone at h
  split at h
  · subst h
    rfl
  · rcases h with rfl | ⟨g, rfl⟩
    · rfl
    · cases g <;> rfl

theorem tryIntroPoint_runsTo (ip : IntroPoint) (result : ConnectResult) (cookie : Bytes) (rendLastHop : RelayInfo)
    (rendLinkSpecs : Bytes) (s : σ) (l : List Call) (k i : Nat) :
    ∃ w, (tryIntroPoint C net.logged ip result cookie rendLastHop rendLinkSpecs (s, l)).2.2 = l ++ w ∧
      RunsTo (.introducing k i true) w
        (AttemptDone k i (tryIntroPoint C net.logged ip result cookie rendLastHop rendLinkSpecs (s, l)).1.toBool) := by
  unfold tryIntroPoint
  split
  · exact ⟨[], by simp, .of_run rfl (by simp [shortAck_iff_any]) (by simp [AttemptDone, Except.toBool])⟩
  next specs _ =>
  simp only [logged_buildCircuit]
  rcases h : net.buildCircuit s (some (introInfo specs ip.onionKey)) with ⟨_ | _, s1⟩
  · exact ⟨[.built (some (introInfo specs ip.onionKey)) false], rfl,
      .of_run rfl (by simp [shortAck_iff_any, Call.shortAck]) (by simp [AttemptDone, Except.toBool])⟩
  dsimp only
  simp only [Except.toBool]
  obtain ⟨w, hw, hr⟩ := introduce_runsTo C net ip result cookie rendLastHop rendLinkSpecs s1
    (l ++ [.built (some (introInfo specs ip.onionKey)) true]) k i
  refine ⟨.built (some (introInfo specs ip.onionKey)) true :: (w ++ [.closed .intro]), ?_,
    .cons (by rfl) (by rfl) (hr.bind fun st hd => .cons hd.closeIntro (by rfl) (.nil hd))⟩
  show (_ ++ [_]) = _
  rw [hw]
  simp

/-- The machine waits for the attempt at introduction point `i` of `k`, or,
once `i = k`, for the final failure. -/
def Awaits (k i : Nat) (st : Session) : Prop :=
  (i < k → st.step (.trying i) = some (.introducing k i true)) ∧ (i = k → st.step (.closed .rend) = some .failed)

theorem awaits_start (k : Nat) : Awaits k 0 (.introducing k 0 false) :=
  ⟨fun h => by rw [Session.step_start_trying, if_pos ⟨rfl, h⟩], fun _ => rfl⟩

theorem AttemptDone.awaits {k i : Nat} {st : Session} (h : AttemptDone k i false st) : Awaits k (i + 1) st := by
  unfold AttemptDone at h
  rcases h with rfl | ⟨g, rfl⟩
  · exact ⟨fun h => by rw [Session.step_introducing_trying, if_pos ⟨rfl, h⟩],
      fun h => by rw [Session.step_introducing_closeRend, if_pos h]⟩
  · exact ⟨fun h => by rw [Session.step_waitingRend_trying, if_pos ⟨rfl, h⟩],
      fun h => by rw [Session.step_waitingRend_closeRend, if_pos h]⟩

/-- The machine's last state agrees with what `ConnectOnionService`
returned: `ready` with a stream, `failed` with an error. -/
def Outcome (r : Except String τ) (st : Session) : Prop := st = if r.toBool then .ready else .failed

theorem tryIntroPoints_runsTo (result : ConnectResult) (cookie : Bytes) (rendLastHop : RelayInfo)
    (rendLinkSpecs : Bytes) (target : String) (k : Nat) :
    ∀ (ips : List IntroPoint) (i : Nat) (lastIntroErr : String) (s : σ) (l : List Call), i + ips.length = k →
      ∃ w, (tryIntroPoints C net.logged result cookie rendLastHop rendLinkSpecs target ips i lastIntroErr
          (s, l)).2.2 = l ++ w ∧
        ∀ st, Awaits k i st → RunsTo st w (Outcome (tryIntroPoints C net.logged result cookie rendLastHop
          rendLinkSpecs target ips i lastIntroErr (s, l)).1)
  | [], i, _, s, l, hk => ⟨[.closed .rend], rfl, fun _ hst =>
      .cons (hst.2 (by simpa using hk)) (by rfl) (.nil (by simp [Outcome, Except.toBool, tryIntroPoints]))⟩
  | ip :: ips, i, _, s, l, hk => by
    have hi : i < k := by simp only [List.length_cons] at hk; omega
    simp only [tryIntroPoints, logged_logTrying]
    obtain ⟨w1, hw1, hr1⟩ := tryIntroPoint_runsTo C net ip result cookie rendLastHop rendLinkSpecs
      (net.logTrying s i) (l ++ [.trying i]) k i
    revert hw1 hr1
    generalize tryIntroPoint C net.logged ip result cookie rendLastHop rendLinkSpecs
      (net.logTrying s i, l ++ [.trying i]) = r
    rcases r with ⟨e | ⟨⟩, s1, l1⟩ <;> intro hw1 hr1 <;> dsimp only at hw1 hr1 ⊢
    · obtain ⟨w2, hw2, hr2⟩ := tryIntroPoints_runsTo result cookie rendLastHop rendLinkSpecs target k ips (i + 1) e
        s1 l1 (by simp only [List.length_cons] at hk; omega)
      refine ⟨.trying i :: (w1 ++ w2), by rw [hw2, hw1]; simp, fun _ hst => .cons (hst.1 hi) (by rfl) ?_⟩
      exact hr1.bind fun st1 hd => hr2 st1 (AttemptDone.awaits (by simpa [Except.toBool] using hd))
    · simp only [logged_begin]
      rcases hb : net.begin s1 target with ⟨e | stream, s2⟩ <;> dsimp only
      · refine ⟨.trying i :: (w1 ++ [.begun false, .closed .rend]), by rw [hw1]; simp [Except.toBool],
          fun _ hst => .cons (hst.1 hi) (by rfl) (hr1.bind fun st1 hd => ?_)⟩
        simp only [AttemptDone, Except.toBool, if_true] at hd
        subst hd
        exact .cons (by rfl) (by rfl) (.cons (by rfl) (by rfl) (.nil (by simp [Outcome, Except.toBool])))
      · refine ⟨.trying i :: (w1 ++ [.begun true]), by rw [hw1]; simp [Except.toBool],
          fun _ hst => .cons (hst.1 hi) (by rfl) (hr1.bind fun st1 hd => ?_)⟩
        simp only [AttemptDone, Except.toBool, if_true] at hd
        subst hd
        exact .cons (by rfl) (by rfl) (.nil (by simp [Outcome, Except.toBool]))

theorem connect_runsTo (address : String) (port : UInt16) (s : σ) (l : List Call) :
    ∃ w, (connectOnionService C net.logged address port (s, l)).2.2 = l ++ w ∧
      RunsTo .resolve w (Outcome (connectOnionService C net.logged address port (s, l)).1) := by
  unfold connectOnionService
  simp only [logged_resolve]
  rcases net.resolve s with ⟨e | result, s1⟩ <;> dsimp only
  · exact ⟨[.resolved (.error e)], rfl, .of_any rfl rfl rfl⟩
  simp only [logged_buildCircuit]
  rcases net.buildCircuit s1 none with ⟨e | rendLastHop, s2⟩ <;> dsimp only
  · exact ⟨[.resolved (.ok result), .built none false], by simp [Except.toBool], .of_any rfl rfl rfl⟩
  simp only [logged_randRead]
  rcases net.randRead s2 20 with ⟨e | cookie, s3⟩ <;> dsimp only
  · exact ⟨[.resolved (.ok result), .built none true, .random 20 false, .closed .rend], by simp [Except.toBool],
      .of_any rfl rfl rfl⟩
  simp only [logged_sendRelay]
  rcases net.sendRelay s3 .rend relayEstablishRendezvous cookie with ⟨e | ⟨⟩, s4⟩ <;> dsimp only
  · exact ⟨[.resolved (.ok result), .built none true, .random 20 true, .sent .rend relayEstablishRendezvous false,
      .closed .rend], by simp [Except.toBool], .of_any rfl rfl rfl⟩
  simp only [logged_receiveRelay]
  rcases net.receiveRelay s4 .rend with ⟨e | ⟨cmd, d⟩, s5⟩ <;> dsimp only
  · exact ⟨[.resolved (.ok result), .built none true, .random 20 true, .sent .rend relayEstablishRendezvous true,
      .received .rend (.error e), .closed .rend], by simp [Except.toBool], .of_any rfl rfl rfl⟩
  split_ifs with hc
  · refine ⟨[.resolved (.ok result), .built none true, .random 20 true, .sent .rend relayEstablishRendezvous true,
      .received .rend (.ok (cmd, d)), .closed .rend], by simp [Except.toBool], .of_any ?_ rfl rfl⟩
    show (Session.establishRend result.introPoints.length).run [.received .rend (.ok (cmd, d)), .closed .rend] = _
    rw [Session.run, Session.step_establishRend_received, if_neg (by simpa [hasCmd] using hc)]
    rfl
  obtain rfl : cmd = relayRendezvousEstablished := not_not.mp hc
  split
  · exact ⟨[.resolved (.ok result), .built none true, .random 20 true, .sent .rend relayEstablishRendezvous true,
      .received .rend (.ok (relayRendezvousEstablished, d)), .closed .rend], by simp [Except.toBool],
      .of_any rfl rfl rfl⟩
  next rendLinkSpecs _ =>
  obtain ⟨w, hw, hr⟩ := tryIntroPoints_runsTo C net result cookie rendLastHop rendLinkSpecs
    (address ++ ":" ++ toString port) result.introPoints.length result.introPoints 0 "%!w(<nil>)" s5
    (l ++ [.resolved (.ok result)] ++ [.built none true] ++ [.random 20 true] ++
      [.sent .rend relayEstablishRendezvous true] ++ [.received .rend (.ok (relayRendezvousEstablished, d))])
    (Nat.zero_add _)
  refine ⟨[.resolved (.ok result), .built none true, .random 20 true, .sent .rend relayEstablishRendezvous true,
    .received .rend (.ok (relayRendezvousEstablished, d))] ++ w, hw.trans (by simp), ?_⟩
  exact .cons (by rfl) (by rfl) (.cons (by rfl) (by rfl) (.cons (by rfl) (by rfl) (.cons (by rfl) (by rfl)
    (.cons (by rfl) (by rfl) (hr _ (awaits_start _))))))

/-- **`ConnectOnionService` against section 4.10.** For every network, the
session machine refuses the calls `ConnectOnionService` makes exactly when
one of them is an INTRODUCE_ACK with a body shorter than two bytes; when it
accepts them it ends `ready` if a stream was returned and `failed` if an
error was. So introduction points are tried in order, each once; the
machine reaches `waitingRend` only on an INTRODUCE_ACK starting with two
zero bytes, adds the virtual hop only after RENDEZVOUS2 and only once, and
begins the stream only once connected. -/
theorem connect_refines_session (address : String) (port : UInt16) (s : σ) :
    (Session.resolve.run (connectOnionService C net.logged address port (s, [])).2.2 = none ↔
        ShortAck (connectOnionService C net.logged address port (s, [])).2.2) ∧
      ∀ st, Session.resolve.run (connectOnionService C net.logged address port (s, [])).2.2 = some st →
        Outcome (connectOnionService C net.logged address port (s, [])).1 st := by
  obtain ⟨w, hw, hr⟩ := connect_runsTo C net address port s []
  rw [hw, List.nil_append]
  exact hr.iff

end TorGo.L5
