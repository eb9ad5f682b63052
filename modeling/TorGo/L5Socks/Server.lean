import TorGo.L1Encoding.Cell
import TorGo.L1Encoding.Decimal

/-!
# The SOCKS5 server (`socks` package)

`Server.handleConn` (`src/unnamed/part_003:109-175`) serves one client of
the local SOCKS5 proxy. `doHandshake` reads the greeting `VER NMETHODS
METHODS` and answers with the method selection; `readConnect` reads the
request `VER CMD RSV ATYP DST.ADDR DST.PORT` and prints its target as
`host:port`; `splitHostPort` takes the target apart again. A host ending in
`.onion` goes to the `OnionHandler` when one is set; every other target goes
to `stream.Begin` on a circuit from `GetCirc`. The server then sends one
reply (`sendReply`) and, on success, relays the client's further bytes to
what it opened.

A connection is `Conn`: the client's bytes not yet read, and the log of
what the server has done (`Event`: a write to the client, a call of
`GetCirc`, `Begin` or the handler, and the relay with the bytes the client
sends on). `Server` holds the answers of those calls, so every result below
holds for every circuit layer and every handler. Writes to the client are
taken to succeed (`doHandshake` would return the error of its last write,
and `handleConn` would stop there with the same log); deadlines, log lines
and the bytes the target sends back are not modelled.

The client's side is `greeting` and `request` of RFC 1928 with an `Addr`
(IPv4 or domain name). `RequestLog` says, for a given server, how the
request phase of a connection may end: with no reply, with a refusal (7 for
a command other than CONNECT, 8 for IPv6), with a failure of `GetCirc` (1),
of `Begin` or of the handler (4), or with success (0) and the relay, where
`Begin` is only ever called for a host that does not go to the onion handler.

Results:
* `doHandshake_greeting`, `readConnect_request`: the server reads exactly a
  client's greeting and request, with any RSV byte, and leaves the rest;
* `splitHostPort_target`: `splitHostPort` takes every `host:port` that
  `readConnect` prints apart again, also for a host with colons in it;
* `handleConn_onion_request`: with a handler set, every well-formed CONNECT
  to a domain ending in `.onion` reaches the handler with that domain and
  port, never `Begin`, and what the client sends after it is relayed;
* `handleConn_tor_request`: every other well-formed CONNECT reaches `Begin`
  with the target `host:port` of the client's own host and port;
* `handleConn_ending`: every connection, on every input, writes a method
  selection or nothing, then ends as `RequestLog` allows;
* `handleConn_relay`: a connection relays only after a `Begin` or a handler
  call that succeeded and the success reply, and it relays the rest of the
  client's own input.
-/
namespace TorGo.L5.Socks

open TorGo.L1

/-! ## The server -/

/-- What `handleConn` does beyond its own code, in order. -/
inductive Event where
  /-- `conn.Write(b)`. -/
  | write (b : Bytes)
  /-- `s.GetCirc()`. -/
  | getCirc
  /-- `stream.Begin(circ, target)`. -/
  | begin (target : Bytes)
  /-- `s.OnionHandler(onionAddr, port)`. -/
  | onion (onionAddr : Bytes) (port : Nat)
  /-- The `io.Copy` from the client to the opened stream; `data` is what the
  client sends after its request. -/
  | relay (data : Bytes)
  deriving DecidableEq, Repr

/-- A client connection: the client's bytes not yet read and the server's
log. -/
structure Conn where
  input : Bytes
  events : List Event
  deriving DecidableEq, Repr

/-- The calls of `Server` that `handleConn` makes, with `stream.Begin` on the
circuit `GetCirc` returns, as the answers they give. -/
structure Server (Circ : Type) where
  getCirc : Except String Circ
  begin : Circ → Bytes → Except String Unit
  onionHandler : Option (Bytes → Nat → Except String Unit)

/-- `io.ReadFull(conn, buf[:n])`. -/
def Conn.read (c : Conn) (n : Nat) : Except String Bytes × Conn :=
  ((readFull n c.input).1, { c with input := (readFull n c.input).2 })

/-- A step of the server other than a read. -/
def Conn.emit (c : Conn) (e : Event) : Conn := { c with events := c.events ++ [e] }

/-- The `reply` of `sendReply`: `VER REP RSV ATYP BND.ADDR BND.PORT`, zero
but for the code. -/
def reply (rep : UInt8) : Bytes := [5, rep, 0, 1, 0, 0, 0, 0, 0, 0]

/-- `sendReply`. -/
def sendReply (c : Conn) (rep : UInt8) : Conn := c.emit (.write (reply rep))

/-- `doHandshake`: the greeting, answered by the choice of "no
authentication" (`0`) or by `5 0xFF`. -/
def doHandshake (c : Conn) : Except String Unit × Conn :=
  match c.read 2 with
  | (.error e, c) => (.error ("read version: " ++ e), c)
  | (.ok buf, c) =>
    if buf.getD 0 0 ≠ 5 then (.error ("unsupported SOCKS version: " ++ toString (buf.getD 0 0).toNat), c)
    else if (buf.getD 1 0).toNat = 0 then (.error "no methods offered", c)
    else
      match c.read (buf.getD 1 0).toNat with
      | (.error e, c) => (.error ("read methods: " ++ e), c)
      | (.ok methods, c) =>
        if 0 ∉ methods then (.error "client does not offer no-auth method", c.emit (.write [5, 0xFF]))
        else (.ok (), c.emit (.write [5, 0]))

/-- `net.IP(addr).String()` of a 4-byte address: dotted decimal. -/
def ipString (addr : Bytes) : Bytes := List.intercalate [46] (addr.map fun b => decimal b.toNat)

/-- The `switch hdr[3]` of `readConnect`: the host. -/
def readHost (atyp : UInt8) (c : Conn) : Except String Bytes × Conn :=
  if atyp = 1 then
    match c.read 4 with
    | (.error e, c) => (.error e, c)
    | (.ok addr, c) => (.ok (ipString addr), c)
  else if atyp = 3 then
    match c.read 1 with
    | (.error e, c) => (.error e, c)
    | (.ok lenBuf, c) =>
      match c.read (lenBuf.getD 0 0).toNat with
      | (.error e, c) => (.error e, c)
      | (.ok domain, c) => if domain = [] then (.error "empty domain name", c) else (.ok domain, c)
  else if atyp = 4 then (.error "IPv6 not supported", sendReply c 8)
  else (.error ("unknown address type: " ++ toString atyp.toNat), c)

/-- `readConnect`: the target `host:port` of a CONNECT request. -/
def readConnect (c : Conn) : Except String Bytes × Conn :=
  match c.read 4 with
  | (.error e, c) => (.error ("read request header: " ++ e), c)
  | (.ok hdr, c) =>
    if hdr.getD 0 0 ≠ 5 then (.error ("bad version: " ++ toString (hdr.getD 0 0).toNat), c)
    else if hdr.getD 1 0 ≠ 1 then
      (.error ("unsupported command: " ++ toString (hdr.getD 1 0).toNat), sendReply c 7)
    else
      match readHost (hdr.getD 3 0) c with
      | (.error e, c) => (.error e, c)
      | (.ok host, c) =>
        match c.read 2 with
        | (.error e, c) => (.error e, c)
        | (.ok portBuf, c) => (.ok (host ++ [58] ++ decimal (uint16 portBuf).toNat), c)

/-- `strings.LastIndex(s, sep)` for a one-byte `sep`: the last position of
`c`, `-1` when there is none. -/
def lastIndexByte : Bytes → UInt8 → Int
  | [], _ => -1
  | x :: s, c => if 0 ≤ lastIndexByte s c then lastIndexByte s c + 1 else if x = c then 0 else -1

/-- `splitHostPort`: the text before the last colon, and the port `%d`
reads after it (`0` when there is no colon or no port). -/
def splitHostPort (target : Bytes) : Bytes × Nat :=
  let idx := lastIndexByte target 58
  if idx < 0 then (target, 0)
  else (target.take idx.toNat, (sscanfUint16 (target.drop (idx.toNat + 1))).getD 0)

/-- `handleOnion`: the handler's connection, the reply, and the relay. -/
def handleOnion (h : Bytes → Nat → Except String Unit) (c : Conn) (onionAddr : Bytes) (port : Nat) : Conn :=
  let c := c.emit (.onion onionAddr port)
  match h onionAddr port with
  | .error _ => sendReply c 4
  | .ok () => (sendReply c 0).emit (.relay c.input)

/-- The end of `handleConn` for a target that goes through Tor: `GetCirc`,
`stream.Begin`, the reply and the relay. -/
def connectTor {Circ : Type} (s : Server Circ) (c : Conn) (target : Bytes) : Conn :=
  let c := c.emit .getCirc
  match s.getCirc with
  | .error _ => sendReply c 1
  | .ok circ =>
    let c := c.emit (.begin target)
    match s.begin circ target with
    | .error _ => sendReply c 4
    | .ok () => (sendReply c 0).emit (.relay c.input)

/-- `handleConn`. -/
def handleConn {Circ : Type} (s : Server Circ) (c : Conn) : Conn :=
  match doHandshake c with
  | (.error _, c) => c
  | (.ok (), c) =>
    match readConnect c with
    | (.error _, c) => c
    | (.ok target, c) =>
      let hp := splitHostPort target
      match s.onionHandler with
      | some h => if hasSuffix (toLower hp.1) (ascii ".onion") then handleOnion h c hp.1 hp.2 else connectTor s c target
      | none => connectTor s c target

@[simp] theorem Conn.read_events (c : Conn) (n : Nat) : (c.read n).2.events = c.events := rfl

@[simp] theorem Conn.emit_input (c : Conn) (e : Event) : (c.emit e).input = c.input := rfl

@[simp] theorem Conn.emit_events (c : Conn) (e : Event) : (c.emit e).events = c.events ++ [e] := rfl

@[simp] theorem Conn.read_append {b rest : Bytes} {ev : List Event} {n : Nat} (h : b.length = n) :
    Conn.read ⟨b ++ rest, ev⟩ n = (.ok b, ⟨rest, ev⟩) := by
  simp [Conn.read, readFull_append b rest h]

@[simp] theorem Conn.read_cons (x : UInt8) (rest : Bytes) (ev : List Event) :
    Conn.read ⟨x :: rest, ev⟩ 1 = (.ok [x], ⟨rest, ev⟩) :=
  Conn.read_append (show [x].length = 1 from rfl)

/-- A read leaves a suffix of the input. -/
theorem Conn.read_suffix (c : Conn) (n : Nat) : (c.read n).2.input <:+ c.input := by
  simp only [Conn.read, readFull]
  split
  · exact List.drop_suffix n c.input
  · exact List.nil_suffix

/-! ## The client's side (RFC 1928) -/

/-- A client's greeting: version 5 and its methods. -/
def greeting (methods : Bytes) : Bytes := [5, UInt8.ofNat methods.length] ++ methods

/-- The destination of a request. -/
inductive Addr where
  | ipv4 (a : Bytes)
  | domain (d : Bytes)
  deriving DecidableEq, Repr

/-- Four address bytes, or a domain name of 1 to 255 bytes. -/
def Addr.Valid : Addr → Prop
  | .ipv4 a => a.length = 4
  | .domain d => d ≠ [] ∧ d.length < 256

/-- `ATYP DST.ADDR`. -/
def Addr.encode : Addr → Bytes
  | .ipv4 a => 1 :: a
  | .domain d => 3 :: UInt8.ofNat d.length :: d

/-- The host `readConnect` prints for the address. -/
def Addr.host : Addr → Bytes
  | .ipv4 a => ipString a
  | .domain d => d

/-- A client's CONNECT request, its reserved byte being `rsv`. -/
def request (rsv : UInt8) (addr : Addr) (port : UInt16) : Bytes := [5, 1, rsv] ++ addr.encode ++ putUint16 port

theorem toNat_ofNat_length {l : Bytes} (h : l.length < 256) : (UInt8.ofNat l.length).toNat = l.length := by
  rw [UInt8.toNat_ofNat']; omega

/-- The server takes a greeting that offers "no authentication" and
selects it. -/
theorem doHandshake_greeting {methods : Bytes} (h0 : 0 ∈ methods) (hl : methods.length < 256)
    (rest : Bytes) (ev : List Event) :
    doHandshake ⟨greeting methods ++ rest, ev⟩ = (.ok (), ⟨rest, ev ++ [.write [5, 0]]⟩) := by
  have hne : methods.length ≠ 0 := (List.length_pos_of_mem h0).ne'
  simp only [greeting, List.append_assoc, doHandshake, Conn.read_append, List.length_cons, List.length_nil,
    List.getD_cons_zero, List.getD_cons_succ, toNat_ofNat_length hl, ne_eq, not_true_eq_false, if_false, hne,
    not_not.2 h0]
  rfl

theorem readHost_addr {addr : Addr} (ha : addr.Valid) (rest : Bytes) (ev : List Event) :
    readHost (addr.encode.headD 0) ⟨addr.encode.tail ++ rest, ev⟩ = (.ok addr.host, ⟨rest, ev⟩) := by
  cases addr with
  | ipv4 a =>
    have ha : a.length = 4 := ha
    simp only [Addr.encode, List.headD_cons, List.tail_cons, readHost, if_true, Conn.read_append ha]
    rfl
  | domain d =>
    obtain ⟨hd, hl⟩ := ha
    simp only [Addr.encode, List.headD_cons, List.tail_cons, readHost, List.cons_append, if_true, if_false,
      Conn.read_cons, List.getD_cons_zero, toNat_ofNat_length hl, Conn.read_append, if_neg hd]
    rfl

/-- The server reads a CONNECT request, whatever its reserved byte, and
prints its target as `host:port`. -/
theorem readConnect_request {addr : Addr} (ha : addr.Valid) (rsv : UInt8) (port : UInt16) (rest : Bytes)
    (ev : List Event) :
    readConnect ⟨request rsv addr port ++ rest, ev⟩ =
      (.ok (addr.host ++ [58] ++ decimal port.toNat), ⟨rest, ev⟩) := by
  have hreq : request rsv addr port ++ rest =
      [5, 1, rsv, addr.encode.headD 0] ++ (addr.encode.tail ++ (putUint16 port ++ rest)) := by
    cases addr <;> simp [request, Addr.encode]
  simp only [hreq, readConnect, Conn.read_append, List.length_cons, List.length_nil, List.getD_cons_zero,
    List.getD_cons_succ, ne_eq, not_true_eq_false, if_false, readHost_addr ha, putUint16_length,
    show uint16 (putUint16 port) = port by simpa using uint16_putUint16 port []]

/-! ## The target round trip -/

theorem lastIndexByte_of_not_mem {t : Bytes} {c : UInt8} (h : c ∉ t) : lastIndexByte t c = -1 := by
  induction t with
  | nil => rfl
  | cons x t ih =>
    rw [List.mem_cons, not_or] at h
    rw [lastIndexByte, ih h.2, if_neg (by decide), if_neg (fun e => h.1 e.symm)]

theorem lastIndexByte_append_cons (s : Bytes) {t : Bytes} {c : UInt8} (h : c ∉ t) :
    lastIndexByte (s ++ c :: t) c = s.length := by
  induction s with
  | nil => simp [lastIndexByte, lastIndexByte_of_not_mem h]
  | cons x s ih => rw [List.cons_append, lastIndexByte, ih, if_pos (by omega)]; simp

/-- `splitHostPort` takes apart every `host:port` that `readConnect`
prints: the last colon is the one before the port, whatever the host. -/
theorem splitHostPort_target (host : Bytes) {port : Nat} (hp : port < 2 ^ 16) :
    splitHostPort (host ++ [58] ++ decimal port) = (host, port) := by
  have hi : lastIndexByte (host ++ 58 :: decimal port) 58 = host.length :=
    lastIndexByte_append_cons host fun h => (decimal_digit h).2.2.2.2.2 rfl
  simp [splitHostPort, hi, sscanfUint16_decimal hp]

/-- A well-formed client's connection, after the greeting and the request:
the server goes on with the client's host and port, and with what the
client sends after the request. -/
theorem handleConn_request_eq {Circ : Type} (s : Server Circ) {methods : Bytes} (h0 : 0 ∈ methods)
    (hl : methods.length < 256) {addr : Addr} (ha : addr.Valid) (rsv : UInt8) (port : UInt16) (data : Bytes) :
    handleConn s ⟨greeting methods ++ request rsv addr port ++ data, []⟩ =
      match s.onionHandler with
      | some h =>
        if hasSuffix (toLower addr.host) (ascii ".onion") then handleOnion h ⟨data, [.write [5, 0]]⟩ addr.host port.toNat
        else connectTor s ⟨data, [.write [5, 0]]⟩ (addr.host ++ [58] ++ decimal port.toNat)
      | none => connectTor s ⟨data, [.write [5, 0]]⟩ (addr.host ++ [58] ++ decimal port.toNat) := by
  have hp : port.toNat < 2 ^ 16 := port.toNat_lt_size
  rw [handleConn, List.append_assoc, doHandshake_greeting h0 hl]
  simp only [List.nil_append, readConnect_request ha, splitHostPort_target _ hp]

/-- With a handler set, a CONNECT to a domain that ends in `.onion`, in any
case, goes to the handler with the domain and the port, and not to `Begin`;
what the client sends after the request is relayed to the handler's
connection. -/
theorem handleConn_onion_request {Circ : Type} (s : Server Circ) {h : Bytes → Nat → Except String Unit}
    (hs : s.onionHandler = some h) {methods d : Bytes} (h0 : 0 ∈ methods) (hl : methods.length < 256)
    (hd : (Addr.domain d).Valid) (ho : hasSuffix (toLower d) (ascii ".onion") = true) (rsv : UInt8)
    (port : UInt16) (data : Bytes) :
    handleConn s ⟨greeting methods ++ request rsv (.domain d) port ++ data, []⟩ =
      handleOnion h ⟨data, [.write [5, 0]]⟩ d port.toNat := by
  rw [handleConn_request_eq s h0 hl hd, hs]
  exact if_pos ho

theorem handleConn_onion_request_ab :
    handleConn ({ getCirc := .error "", begin := fun _ _ => .ok (), onionHandler := some fun _ _ => .ok () } : Server Unit)
        ⟨greeting [0] ++ request 0 (.domain (ascii "ab.onion")) 80 ++ [1], []⟩ =
      handleOnion (fun _ _ => .ok ()) ⟨[1], [.write [5, 0]]⟩ (ascii "ab.onion") 80 :=
  handleConn_onion_request _ rfl (by decide) (by decide) ⟨by decide, by decide⟩ (by decide) 0 80 [1]

/-- Every other well-formed CONNECT goes to `Begin` with the target
`host:port` of the client's own host and port. -/
theorem handleConn_tor_request {Circ : Type} (s : Server Circ) {methods : Bytes} (h0 : 0 ∈ methods)
    (hl : methods.length < 256) {addr : Addr} (ha : addr.Valid)
    (hno : ∀ h, s.onionHandler = some h → hasSuffix (toLower addr.host) (ascii ".onion") = false)
    (rsv : UInt8) (port : UInt16) (data : Bytes) :
    handleConn s ⟨greeting methods ++ request rsv addr port ++ data, []⟩ =
      connectTor s ⟨data, [.write [5, 0]]⟩ (addr.host ++ [58] ++ decimal port.toNat) := by
  rw [handleConn_request_eq s h0 hl ha]
  split
  · rw [if_neg (by simp [hno _ ‹_›])]
  · rfl

theorem handleConn_tor_request_loopback :
    handleConn ({ getCirc := .ok (), begin := fun _ _ => .ok (), onionHandler := none } : Server Unit)
        ⟨greeting [0] ++ request 0 (.ipv4 [127, 0, 0, 1]) 80 ++ [1], []⟩ =
      connectTor ({ getCirc := .ok (), begin := fun _ _ => .ok (), onionHandler := none } : Server Unit)
        ⟨[1], [.write [5, 0]]⟩ (ipString [127, 0, 0, 1] ++ [58] ++ decimal 80) :=
  handleConn_tor_request _ (by decide) (by decide) (show (Addr.ipv4 [127, 0, 0, 1]).Valid from rfl)
    (fun _ h => Option.noConfusion h) 0 80 [1]

/-! ## Every connection -/

/-- `c'` is `c` after reading part of its input and logging `w`. -/
def Conn.Advance (c : Conn) (w : List Event) (c' : Conn) : Prop :=
  c'.input <:+ c.input ∧ c'.events = c.events ++ w

theorem Conn.advance_read (c : Conn) (n : Nat) : c.Advance [] (c.read n).2 :=
  ⟨Conn.read_suffix c n, (List.append_nil _).symm⟩

theorem Conn.advance_emit (c : Conn) (e : Event) : c.Advance [e] (c.emit e) :=
  ⟨List.suffix_refl _, rfl⟩

theorem Conn.Advance.trans {c c1 c2 : Conn} {w w' : List Event} (h1 : c.Advance w c1) (h2 : c1.Advance w' c2) :
    c.Advance (w ++ w') c2 :=
  ⟨h2.1.trans h1.1, by rw [h2.2, h1.2, List.append_assoc]⟩

theorem Conn.advance_of_read {c c' : Conn} {n : Nat} {r : Except String Bytes} (h : c.read n = (r, c')) :
    c.Advance [] c' := by
  simpa [h] using Conn.advance_read c n

/-- What the last call of a connection logs after the call itself: a failure
(4), or success (0) and the relay of `data`. -/
def outcome : Except String Unit → Bytes → List Event
  | .error _, _ => [.write (reply 4)]
  | .ok (), data => [.write (reply 0), .relay data]

/-- How the request phase of a connection to `s` may end, as what it logs
after the method selection; `data` is what the client sends after its
request. -/
inductive RequestLog {Circ : Type} (s : Server Circ) (data : Bytes) : List Event → Prop
  /-- The request was not read, or not a request. -/
  | unread : RequestLog s data []
  /-- A command other than CONNECT (7), or an IPv6 address (8). -/
  | refused (rep : UInt8) : rep = 7 ∨ rep = 8 → RequestLog s data [.write (reply rep)]
  /-- `GetCirc` failed. -/
  | noCircuit (e : String) : s.getCirc = .error e → RequestLog s data [.getCirc, .write (reply 1)]
  /-- `Begin` on a circuit, for a target that does not go to the handler. -/
  | begun (circ : Circ) (target : Bytes) (r : Except String Unit) : s.getCirc = .ok circ →
      s.begin circ target = r →
      (∀ h, s.onionHandler = some h → hasSuffix (toLower (splitHostPort target).1) (ascii ".onion") = false) →
      RequestLog s data ([.getCirc, .begin target] ++ outcome r data)
  /-- The handler, for a host that ends in `.onion`. -/
  | onion (h : Bytes → Nat → Except String Unit) (onionAddr : Bytes) (port : Nat) (r : Except String Unit) :
      s.onionHandler = some h → hasSuffix (toLower onionAddr) (ascii ".onion") = true → h onionAddr port = r →
      RequestLog s data ([.onion onionAddr port] ++ outcome r data)

theorem doHandshake_cases {c c' : Conn} {r : Except String Unit} (h : doHandshake c = (r, c')) :
    r = .ok () ∧ c.Advance [.write [5, 0]] c' ∨
      (∃ e, r = .error e) ∧ (c.Advance [] c' ∨ c.Advance [.write [5, 0xFF]] c') := by
  unfold doHandshake at h
  split at h
  · cases h; exact .inr ⟨⟨_, rfl⟩, .inl (Conn.advance_of_read ‹_›)⟩
  · have a1 := Conn.advance_of_read ‹_›
    split_ifs at h
    · cases h; exact .inr ⟨⟨_, rfl⟩, .inl a1⟩
    · cases h; exact .inr ⟨⟨_, rfl⟩, .inl a1⟩
    · split at h
      · cases h; exact .inr ⟨⟨_, rfl⟩, .inl (a1.trans (Conn.advance_of_read ‹_›))⟩
      · have a2 := a1.trans (Conn.advance_of_read ‹_›)
        split_ifs at h <;> cases h
        · exact .inl ⟨rfl, a2.trans (Conn.advance_emit _ _)⟩
        · exact .inr ⟨⟨_, rfl⟩, .inr (a2.trans (Conn.advance_emit _ _))⟩

theorem readHost_cases {atyp : UInt8} {c c' : Conn} {r : Except String Bytes} (h : readHost atyp c = (r, c')) :
    (∃ host, r = .ok host) ∧ c.Advance [] c' ∨
      (∃ e, r = .error e) ∧ (c.Advance [] c' ∨ c.Advance [.write (reply 8)] c') := by
  unfold readHost at h
  split_ifs at h
  · split at h <;> cases h
    · exact .inr ⟨⟨_, rfl⟩, .inl (Conn.advance_of_read ‹_›)⟩
    · exact .inl ⟨⟨_, rfl⟩, Conn.advance_of_read ‹_›⟩
  · split at h
    · cases h; exact .inr ⟨⟨_, rfl⟩, .inl (Conn.advance_of_read ‹_›)⟩
    · have a1 := Conn.advance_of_read ‹_›
      split at h
      · cases h; exact .inr ⟨⟨_, rfl⟩, .inl (a1.trans (Conn.advance_of_read ‹_›))⟩
      · have a2 := a1.trans (Conn.advance_of_read ‹_›)
        split_ifs at h <;> cases h
        · exact .inr ⟨⟨_, rfl⟩, .inl a2⟩
        · exact .inl ⟨⟨_, rfl⟩, a2⟩
  · cases h; exact .inr ⟨⟨_, rfl⟩, .inr (Conn.advance_emit _ _)⟩
  · cases h; exact .inr ⟨⟨_, rfl⟩, .inl ⟨List.suffix_refl _, (List.append_nil _).symm⟩⟩

theorem readConnect_cases {c c' : Conn} {r : Except String Bytes} (h : readConnect c = (r, c')) :
    (∃ target, r = .ok target) ∧ c.Advance [] c' ∨
      (∃ e, r = .error e) ∧ (c.Advance [] c' ∨ ∃ rep, (rep = 7 ∨ rep = 8) ∧ c.Advance [.write (reply rep)] c') := by
  unfold readConnect at h
  split at h
  · cases h; exact .inr ⟨⟨_, rfl⟩, .inl (Conn.advance_of_read ‹_›)⟩
  · have a1 := Conn.advance_of_read ‹_›
    split_ifs at h
    · cases h; exact .inr ⟨⟨_, rfl⟩, .inl a1⟩
    · cases h; exact .inr ⟨⟨_, rfl⟩, .inr ⟨7, .inl rfl, a1.trans (Conn.advance_emit _ _)⟩⟩
    · split at h
      · cases h
        rcases readHost_cases ‹_› with ⟨⟨_, h'⟩, _⟩ | ⟨-, a2 | a2⟩
        · cases h'
        · exact .inr ⟨⟨_, rfl⟩, .inl (a1.trans a2)⟩
        · exact .inr ⟨⟨_, rfl⟩, .inr ⟨8, .inr rfl, a1.trans a2⟩⟩
      · rcases readHost_cases ‹_› with ⟨-, a2⟩ | ⟨⟨_, h'⟩, _⟩
        · split at h <;> cases h
          · exact .inr ⟨⟨_, rfl⟩, .inl ((a1.trans a2).trans (Conn.advance_of_read ‹_›))⟩
          · exact .inl ⟨⟨_, rfl⟩, (a1.trans a2).trans (Conn.advance_of_read ‹_›)⟩
        · cases h'

theorem connectTor_log {Circ : Type} (s : Server Circ) (c : Conn) (target : Bytes)
    (hno : ∀ h, s.onionHandler = some h → hasSuffix (toLower (splitHostPort target).1) (ascii ".onion") = false) :
    ∃ l, c.Advance l (connectTor s c target) ∧ RequestLog s c.input l := by
  unfold connectTor
  cases hg : s.getCirc with
  | error e => exact ⟨_, by simp [Conn.Advance, sendReply], .noCircuit e hg⟩
  | ok circ =>
    cases hb : s.begin circ target with
    | error e => exact ⟨_, by simp [Conn.Advance, hb, sendReply, outcome], .begun circ target _ hg hb hno⟩
    | ok u => exact ⟨_, by simp [Conn.Advance, hb, sendReply, outcome], .begun circ target _ hg hb hno⟩

theorem handleOnion_log {Circ : Type} (s : Server Circ) {h : Bytes → Nat → Except String Unit}
    (hs : s.onionHandler = some h) (c : Conn) {onionAddr : Bytes} (port : Nat)
    (ho : hasSuffix (toLower onionAddr) (ascii ".onion") = true) :
    ∃ l, c.Advance l (handleOnion h c onionAddr port) ∧ RequestLog s c.input l := by
  unfold handleOnion
  cases hr : h onionAddr port with
  | error e => exact ⟨_, by simp [Conn.Advance, sendReply, outcome], .onion h onionAddr port _ hs ho hr⟩
  | ok u => exact ⟨_, by simp [Conn.Advance, sendReply, outcome], .onion h onionAddr port _ hs ho hr⟩

/-- Every connection writes a method selection or nothing, then ends as
`RequestLog` allows, with the rest of its own input as the relayed data. -/
theorem ending_of_handleConn {Circ : Type} (s : Server Circ) (c : Conn) :
    ∃ w, c.Advance w (handleConn s c) ∧
      (w = [] ∨ w = [.write [5, 0xFF]] ∨ ∃ data l, data <:+ c.input ∧ w = .write [5, 0] :: l ∧ RequestLog s data l) := by
  unfold handleConn
  rcases hd : doHandshake c with ⟨r, c1⟩
  rcases doHandshake_cases hd with ⟨rfl, a1⟩ | ⟨⟨e, rfl⟩, a1 | a1⟩
  · dsimp only
    rcases hr : readConnect c1 with ⟨r2, c2⟩
    rcases readConnect_cases hr with ⟨⟨t, rfl⟩, a2⟩ | ⟨⟨e, rfl⟩, a2 | ⟨rep, hrep, a2⟩⟩
    · dsimp only
      split
      · split_ifs with ho
        · obtain ⟨l, a3, hl⟩ := handleOnion_log s ‹_› c2 _ ho
          exact ⟨_, (a1.trans a2).trans a3, .inr (.inr ⟨_, l, a2.1.trans a1.1, rfl, hl⟩)⟩
        · obtain ⟨l, a3, hl⟩ := connectTor_log s c2 t fun h hh => by simp_all
          exact ⟨_, (a1.trans a2).trans a3, .inr (.inr ⟨_, l, a2.1.trans a1.1, rfl, hl⟩)⟩
      · obtain ⟨l, a3, hl⟩ := connectTor_log s c2 t fun h hh => by simp_all
        exact ⟨_, (a1.trans a2).trans a3, .inr (.inr ⟨_, l, a2.1.trans a1.1, rfl, hl⟩)⟩
    · exact ⟨_, a1.trans a2, .inr (.inr ⟨c2.input, [], a2.1.trans a1.1, rfl, .unread⟩)⟩
    · exact ⟨_, a1.trans a2, .inr (.inr ⟨c2.input, _, a2.1.trans a1.1, rfl, .refused rep hrep⟩)⟩
  · exact ⟨[], a1, .inl rfl⟩
  · exact ⟨_, a1, .inr (.inl rfl)⟩

/-- Every connection, on every input, writes the method selection `5 0` or
`5 0xFF` or nothing, and after `5 0` ends as `RequestLog` allows: a refusal,
a failed `GetCirc`, a `Begin` for a target that does not go to the handler,
or a handler call for a host that ends in `.onion`, each with its reply; what
it relays is the rest of the client's input. -/
theorem handleConn_ending {Circ : Type} (s : Server Circ) (inp : Bytes) :
    (handleConn s ⟨inp, []⟩).events = [] ∨ (handleConn s ⟨inp, []⟩).events = [.write [5, 0xFF]] ∨
      ∃ data l, data <:+ inp ∧ (handleConn s ⟨inp, []⟩).events = .write [5, 0] :: l ∧ RequestLog s data l := by
  obtain ⟨w, ⟨-, hw⟩, h⟩ := ending_of_handleConn s ⟨inp, []⟩
  rw [hw, List.nil_append]
  exact h

/-- A connection relays only after the success reply, which follows a
`Begin` or a handler call that succeeded; and what it relays is the rest of
the client's own input. -/
theorem handleConn_relay {Circ : Type} (s : Server Circ) (inp data : Bytes)
    (h : Event.relay data ∈ (handleConn s ⟨inp, []⟩).events) :
    data <:+ inp ∧
      ((∃ circ target, s.getCirc = .ok circ ∧ s.begin circ target = .ok () ∧
        (handleConn s ⟨inp, []⟩).events = [.write [5, 0], .getCirc, .begin target, .write (reply 0), .relay data]) ∨
      (∃ hnd onionAddr port, s.onionHandler = some hnd ∧ hnd onionAddr port = .ok () ∧
        (handleConn s ⟨inp, []⟩).events = [.write [5, 0], .onion onionAddr port, .write (reply 0), .relay data])) := by
  obtain ⟨w, ⟨-, hw⟩, hc⟩ := ending_of_handleConn s ⟨inp, []⟩
  rw [hw, List.nil_append] at h ⊢
  rcases hc with rfl | rfl | ⟨d, l, hd, rfl, hl⟩
  · simp at h
  · simp at h
  · cases hl with
    | unread => simp at h
    | refused => simp at h
    | noCircuit => simp at h
    | begun circ target r hg hb _ =>
      cases r with
      | error => simp [outcome] at h
      | ok u =>
        obtain rfl : data = d := by simpa [outcome] using h
        exact ⟨hd, .inl ⟨circ, target, hg, hb, rfl⟩⟩
    | onion hnd a p r hs _ hr =>
      cases r with
      | error => simp [outcome] at h
      | ok u =>
        obtain rfl : data = d := by simpa [outcome] using h
        exact ⟨hd, .inr ⟨hnd, a, p, hs, hr, rfl⟩⟩

theorem handleConn_relay_loopback :
    let s : Server Unit := { getCirc := .ok (), begin := fun _ _ => .ok (), onionHandler := none }
    let inp := greeting [0] ++ request 0 (.ipv4 [127, 0, 0, 1]) 80 ++ [1]
    Event.relay [1] ∈ (handleConn s ⟨inp, []⟩).events ∧ [1] <:+ inp ∧
      ((∃ circ target, s.getCirc = .ok circ ∧ s.begin circ target = .ok () ∧
        (handleConn s ⟨inp, []⟩).events = [.write [5, 0], .getCirc, .begin target, .write (reply 0), .relay [1]]) ∨
      (∃ hnd onionAddr port, s.onionHandler = some hnd ∧ hnd onionAddr port = .ok () ∧
        (handleConn s ⟨inp, []⟩).events = [.write [5, 0], .onion onionAddr port, .write (reply 0), .relay [1]])) :=
  have h : Event.relay [1] ∈ (handleConn { getCirc := .ok (), begin := fun _ _ => .ok (), onionHandler := none }
      ⟨greeting [0] ++ request 0 (.ipv4 [127, 0, 0, 1]) 80 ++ [1], []⟩).events := by
    rw [handleConn_request_eq _ (by decide) (by decide) (show (Addr.ipv4 [127, 0, 0, 1]).Valid from rfl)]
    simp [connectTor, sendReply]
  ⟨h, handleConn_relay _ _ _ h⟩

end TorGo.L5.Socks
