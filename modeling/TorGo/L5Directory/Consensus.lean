import TorGo.L5Directory.KeyCerts
import TorGo.L1Encoding.Decimal

/-!
# Parsing the consensus (`ParseConsensus`)

`ParseConsensus` (`src/directory/consensus.go:208-302`) reads a
microdescriptor consensus line by line, each line with its trailing `\r`s
trimmed. The header lines `valid-after`, `fresh-until` and `valid-until`
set the times, and a time that does not parse ends the parse with an
error; `shared-rand-current-value` and `shared-rand-previous-value` set the
shared random values when their base64 decodes; `bandwidth-weights` sets
the weights it can parse. A line `r ...` ends the relay being read, keeping
it, and starts the next one from `parseRouterLine`; when that fails, no
relay is being read until the next `r` line, and the `m`, `s` and `w` lines
in between are dropped. `m`, `s` and `w` lines set the microdescriptor
digest, the flags and the bandwidth of the relay being read. The last relay
is kept at the end.

`parseRouterLine` reads `r nickname identity date time address ORPort
DirPort`: at least eight fields, an identity of 20 bytes in unpadded
base64, and two ports that `strconv.ParseUint(·, 10, 16)` accepts. Its one
caller drops its errors, so an error is `none`. `time.Parse` is the argument
`parseTime`, in Unix nanoseconds, with its error text; the zero `time.Time`
is `zeroTime`. The keys that a microdescriptor adds to a relay later
(`NtorOnionKey`, `Ed25519ID` and their flags) stay 32 zero bytes and
`false` here.

`relayBlocks` is what the loop amounts to for the relays: every `r` line
with the lines after it up to the next `r` line is one block, and the
relays are the blocks whose `r` line parses, each with the `m`, `s` and `w`
lines of its block applied in order.

Results:
* `parseConsensus_relays`: on every document it accepts, `ParseConsensus`
  returns the relays of `relayBlocks`, in order;
* `parseConsensus_ok_iff`: it accepts exactly the documents whose
  `valid-after`, `fresh-until` and `valid-until` lines carry times that
  parse;
* `parseConsensus_document`: a document written from relay entries
  (`RelayEntry.lines`: the `r`, `m`, `s` and `w` lines an authority writes),
  between header and footer lines of other kinds whose times parse, is
  accepted, and its relays are the entries' relays, in order, each field as
  written and the flags those the `s` line names;
* `validateFreshness_ok_iff`: `ValidateFreshness` accepts exactly when both
  validity times are set and the clock is within five minutes of the
  validity interval.
-/
namespace TorGo.L5.Directory

open TorGo.L1 TorGo.L5

/-! ## Relays and the consensus -/

/-- `RelayFlags`. -/
structure RelayFlags where
  authority : Bool
  badExit : Bool
  exit : Bool
  fast : Bool
  guard : Bool
  hsdir : Bool
  running : Bool
  stable : Bool
  valid : Bool
  deriving DecidableEq, Repr

/-- The zero `RelayFlags`. -/
def RelayFlags.zero : RelayFlags := ⟨false, false, false, false, false, false, false, false, false⟩

/-- `Relay`. The last four fields are filled from the relay's
microdescriptor, after the consensus is parsed. -/
structure Relay where
  nickname : Bytes
  identity : Bytes
  address : Bytes
  orPort : Nat
  dirPort : Nat
  flags : RelayFlags
  bandwidth : Int
  microdescDigest : Bytes
  ntorOnionKey : Bytes
  ed25519ID : Bytes
  hasNtorKey : Bool
  hasEd25519 : Bool
  deriving DecidableEq, Repr

/-- A zero `[32]byte`. -/
def zeroKey : Bytes := List.replicate 32 0

/-- `Consensus`; the map `BandwidthWeights` is a function. -/
structure Consensus where
  validAfter : Int
  freshUntil : Int
  validUntil : Int
  sharedRandCurrentValue : Bytes
  sharedRandPreviousValue : Bytes
  relays : List Relay
  bandwidthWeights : Bytes → Option Int

/-! ## The lines of a relay -/

/-- `parseRouterLine`; `none` for each of its errors. -/
def parseRouterLine (line : Bytes) : Option Relay :=
  let parts := fields line
  if parts.length < 8 then none else
  match rawStdDecodeString (parts.getD 2 []) with
  | .error _ => none
  | .ok idBytes =>
    if idBytes.length ≠ 20 then none else
    match parseUint (parts.getD 6 []) 16, parseUint (parts.getD 7 []) 16 with
    | .ok orPort, .ok dirPort =>
      some ⟨parts.getD 1 [], idBytes, parts.getD 5 [], orPort, dirPort, RelayFlags.zero, 0, [], zeroKey, zeroKey,
        false, false⟩
    | _, _ => none

/-- One pass of the loop of `parseFlags`. -/
def setFlag (fl : RelayFlags) (f : Bytes) : RelayFlags :=
  if f = ascii "Authority" then { fl with authority := true }
  else if f = ascii "BadExit" then { fl with badExit := true }
  else if f = ascii "Exit" then { fl with exit := true }
  else if f = ascii "Fast" then { fl with fast := true }
  else if f = ascii "Guard" then { fl with guard := true }
  else if f = ascii "HSDir" then { fl with hsdir := true }
  else if f = ascii "Running" then { fl with running := true }
  else if f = ascii "Stable" then { fl with stable := true }
  else if f = ascii "Valid" then { fl with valid := true }
  else fl

/-- `parseFlags`: the words after `s`. The line starts with `s `, so
`strings.Fields(line)[1:]` is in range. -/
def parseFlags (relay : Relay) (line : Bytes) : Relay :=
  { relay with flags := ((fields line).drop 1).foldl setFlag relay.flags }

/-- `parseBandwidth`: the last `Bandwidth=` field that `ParseInt` accepts. -/
def parseBandwidth (relay : Relay) (line : Bytes) : Relay :=
  ((fields line).drop 1).foldl (fun relay field =>
    if hasPrefix field (ascii "Bandwidth=") then
      match parseInt (field.drop 10) 64 with
      | .ok bw => { relay with bandwidth := bw }
      | .error _ => relay
    else relay) relay

/-- `strings.SplitN(s, sep, 2)` for a non-empty `sep`. -/
def splitN2 (s sep : Bytes) : List Bytes :=
  if index s sep < 0 then [s] else [s.take (index s sep).toNat, s.drop ((index s sep).toNat + sep.length)]

/-- `parseBandwidthWeights`: each `key=value` whose value `ParseInt`
accepts is written into the map. -/
def parseBandwidthWeights (w : Bytes → Option Int) (line : Bytes) : Bytes → Option Int :=
  ((fields line).drop 1).foldl (fun w field =>
    match splitN2 field (ascii "=") with
    | [key, val] =>
      match parseInt val 64 with
      | .ok v => fun k => if k = key then some v else w k
      | .error _ => w
    | _ => w) w

/-! ## The loop of `ParseConsensus` -/

/-- The state of the loop: the consensus so far and `currentRelay`. -/
structure ParseState where
  c : Consensus
  currentRelay : Option Relay

/-- A time line: `time.Parse` of the rest of the line, or the error. -/
def parseTimeLine (parseTime : Bytes → Except String Int) (name : String) (line : Bytes) : Except String Int :=
  match parseTime (line.drop (name.length + 1)) with
  | .error e => .error ("parse " ++ name ++ ": " ++ e)
  | .ok t => .ok t

/-- A shared random value line: the value when the third field decodes. -/
def sharedRandValue (line : Bytes) : Option Bytes :=
  let parts := fields line
  if parts.length ≥ 3 then
    match stdDecodeString (parts.getD 2 []) with
    | .ok b => some b
    | .error _ => none
  else none

/-- One pass of the loop of `ParseConsensus`, on a line whose `\r`s are
already trimmed. -/
def consensusLine (parseTime : Bytes → Except String Int) (st : ParseState) (line : Bytes) :
    Except String ParseState :=
  if hasPrefix line (ascii "valid-after ") then
    (parseTimeLine parseTime "valid-after" line).map fun t => { st with c := { st.c with validAfter := t } }
  else if hasPrefix line (ascii "fresh-until ") then
    (parseTimeLine parseTime "fresh-until" line).map fun t => { st with c := { st.c with freshUntil := t } }
  else if hasPrefix line (ascii "valid-until ") then
    (parseTimeLine parseTime "valid-until" line).map fun t => { st with c := { st.c with validUntil := t } }
  else if hasPrefix line (ascii "shared-rand-current-value ") then
    .ok { st with c := { st.c with sharedRandCurrentValue := (sharedRandValue line).getD st.c.sharedRandCurrentValue } }
  else if hasPrefix line (ascii "shared-rand-previous-value ") then
    .ok { st with c :=
      { st.c with sharedRandPreviousValue := (sharedRandValue line).getD st.c.sharedRandPreviousValue } }
  else if hasPrefix line (ascii "r ") then
    .ok ⟨{ st.c with relays := st.c.relays ++ st.currentRelay.toList }, parseRouterLine line⟩
  else if hasPrefix line (ascii "m ") then
    .ok { st with currentRelay := st.currentRelay.map fun relay =>
      if (fields line).length ≥ 2 then
        { relay with microdescDigest := trimPrefix ((fields line).getD 1 []) (ascii "sha256=") }
      else relay }
  else if hasPrefix line (ascii "s ") then
    .ok { st with currentRelay := st.currentRelay.map (parseFlags · line) }
  else if hasPrefix line (ascii "w ") then
    .ok { st with currentRelay := st.currentRelay.map (parseBandwidth · line) }
  else if hasPrefix line (ascii "bandwidth-weights ") then
    .ok { st with c := { st.c with bandwidthWeights := parseBandwidthWeights st.c.bandwidthWeights line } }
  else .ok st

/-- The loop over the lines. -/
def consensusLines (parseTime : Bytes → Except String Int) : List Bytes → ParseState → Except String ParseState
  | [], st => .ok st
  | line :: lines, st =>
    match consensusLine parseTime st (trimRight line (ascii "\r")) with
    | .error e => .error e
    | .ok st => consensusLines parseTime lines st

/-- The consensus `ParseConsensus` starts from. -/
def emptyConsensus : Consensus := ⟨zeroTime, zeroTime, zeroTime, [], [], [], fun _ => none⟩

/-- `ParseConsensus`. -/
def parseConsensus (parseTime : Bytes → Except String Int) (text : Bytes) : Except String Consensus :=
  match consensusLines parseTime (splitLines text) ⟨emptyConsensus, none⟩ with
  | .error e => .error e
  | .ok st => .ok { st.c with relays := st.c.relays ++ st.currentRelay.toList }

/-- `ValidateFreshness` at the time `now`; `timeText` is the `%s` of a
time. -/
def validateFreshness (timeText : Int → String) (c : Consensus) (now : Int) : Except String Unit :=
  let skew : Int := 5 * 60 * 1000000000
  if c.validAfter = zeroTime ∨ c.validUntil = zeroTime then .error "consensus missing validity timestamps"
  else if now < c.validAfter - skew then
    .error ("consensus is from the future (valid-after " ++ timeText c.validAfter ++ ", now " ++ timeText now ++ ")")
  else if now > c.validUntil + skew then
    .error ("consensus has expired (valid-until " ++ timeText c.validUntil ++ ", now " ++ timeText now ++ ")")
  else .ok ()

/-! ## The relays of the loop -/

/-- What a line does to the relay being read: `m`, `s` and `w` lines. -/
def relayLine (relay : Relay) (line : Bytes) : Relay :=
  if hasPrefix line (ascii "m ") then
    if (fields line).length ≥ 2 then
      { relay with microdescDigest := trimPrefix ((fields line).getD 1 []) (ascii "sha256=") }
    else relay
  else if hasPrefix line (ascii "s ") then parseFlags relay line
  else if hasPrefix line (ascii "w ") then parseBandwidth relay line
  else relay

/-- What a line does to the relays kept and the relay being read. -/
def relayStep (rc : List Relay × Option Relay) (line : Bytes) : List Relay × Option Relay :=
  if hasPrefix line (ascii "r ") then (rc.1 ++ rc.2.toList, parseRouterLine line)
  else (rc.1, rc.2.map (relayLine · line))

/-- An `r` line. -/
def IsRouterLine (line : Bytes) : Prop := hasPrefix line (ascii "r ") = true

instance : DecidablePred IsRouterLine := fun line => inferInstanceAs (Decidable (hasPrefix line (ascii "r ") = true))

/-- Every `r` line with the lines after it up to the next `r` line. -/
def relayBlocks : List Bytes → List (Bytes × List Bytes)
  | [] => []
  | l :: ls =>
    if IsRouterLine l then (l, ls.takeWhile fun l => !decide (IsRouterLine l)) :: relayBlocks ls
    else relayBlocks ls

/-- The relay of a block: its `r` line, if it parses, with the lines of the
block applied in order. -/
def blockRelay (b : Bytes × List Bytes) : Option Relay := (parseRouterLine b.1).map fun r => b.2.foldl relayLine r

/-! ## Flags -/

/-- The flags named among the words `ws`. -/
def flagsOf (ws : List Bytes) : RelayFlags :=
  ⟨decide (ascii "Authority" ∈ ws), decide (ascii "BadExit" ∈ ws), decide (ascii "Exit" ∈ ws),
    decide (ascii "Fast" ∈ ws), decide (ascii "Guard" ∈ ws), decide (ascii "HSDir" ∈ ws),
    decide (ascii "Running" ∈ ws), decide (ascii "Stable" ∈ ws), decide (ascii "Valid" ∈ ws)⟩

/-- `setFlag` sets the one flag the word names, if any. -/
theorem setFlag_eq (fl : RelayFlags) (w : Bytes) : setFlag fl w =
    ⟨decide (w = ascii "Authority") || fl.authority, decide (w = ascii "BadExit") || fl.badExit,
      decide (w = ascii "Exit") || fl.exit, decide (w = ascii "Fast") || fl.fast,
      decide (w = ascii "Guard") || fl.guard, decide (w = ascii "HSDir") || fl.hsdir,
      decide (w = ascii "Running") || fl.running, decide (w = ascii "Stable") || fl.stable,
      decide (w = ascii "Valid") || fl.valid⟩ := by
  by_cases h1 : w = ascii "Authority"; · subst h1; rfl
  by_cases h2 : w = ascii "BadExit"; · subst h2; rfl
  by_cases h3 : w = ascii "Exit"; · subst h3; rfl
  by_cases h4 : w = ascii "Fast"; · subst h4; rfl
  by_cases h5 : w = ascii "Guard"; · subst h5; rfl
  by_cases h6 : w = ascii "HSDir"; · subst h6; rfl
  by_cases h7 : w = ascii "Running"; · subst h7; rfl
  by_cases h8 : w = ascii "Stable"; · subst h8; rfl
  by_cases h9 : w = ascii "Valid"; · subst h9; rfl
  simp only [setFlag, h1, h2, h3, h4, h5, h6, h7, h8, h9, if_false, decide_False, Bool.false_or]

theorem foldl_setFlag : ∀ (ws : List Bytes) (fl : RelayFlags), ws.foldl setFlag fl =
    ⟨decide (ascii "Authority" ∈ ws) || fl.authority, decide (ascii "BadExit" ∈ ws) || fl.badExit,
      decide (ascii "Exit" ∈ ws) || fl.exit, decide (ascii "Fast" ∈ ws) || fl.fast,
      decide (ascii "Guard" ∈ ws) || fl.guard, decide (ascii "HSDir" ∈ ws) || fl.hsdir,
      decide (ascii "Running" ∈ ws) || fl.running, decide (ascii "Stable" ∈ ws) || fl.stable,
      decide (ascii "Valid" ∈ ws) || fl.valid⟩
  | [], _ => rfl
  | w :: ws, fl => by
    rw [List.foldl_cons, foldl_setFlag ws, setFlag_eq]
    simp only [List.mem_cons, Bool.decide_or, eq_comm (a := w), Bool.or_comm, Bool.or_assoc]

/-- `parseFlags` from no flags sets exactly the flags the `s` line names. -/
theorem foldl_setFlag_zero (ws : List Bytes) : ws.foldl setFlag RelayFlags.zero = flagsOf ws := by
  simp only [foldl_setFlag, RelayFlags.zero, Bool.or_false, flagsOf]

/-- Two prefixes of one line are prefixes of each other. -/
theorem hasPrefix_false_of {line p q : Bytes} (hp : hasPrefix line p = true)
    (hpq : (p.isPrefixOf q || q.isPrefixOf p) = false) : hasPrefix line q = false := by
  rw [Bool.eq_false_iff]
  intro hq
  rw [hasPrefix, isPrefixOf_iff] at hp hq
  rw [Bool.or_eq_false_iff, Bool.eq_false_iff, Bool.eq_false_iff, Ne, Ne, isPrefixOf_iff, isPrefixOf_iff] at hpq
  rcases le_total p.length q.length with h | h
  · exact hpq.1 (List.prefix_of_prefix_length_le hp hq h)
  · exact hpq.2 (List.prefix_of_prefix_length_le hq hp h)

/-- A line with none of the prefixes `r `, `m `, `s `, `w ` leaves the
relays as they are. -/
theorem relayStep_of_inert {line : Bytes} (hr : hasPrefix line (ascii "r ") = false)
    (hm : hasPrefix line (ascii "m ") = false) (hs : hasPrefix line (ascii "s ") = false)
    (hw : hasPrefix line (ascii "w ") = false) (rc : List Relay × Option Relay) : relayStep rc line = rc := by
  have : ∀ relay, relayLine relay line = relay := fun relay => by simp [relayLine, hm, hs, hw]
  simp [relayStep, hr, this]

/-- A line with one of the prefixes of the header or the footer leaves the
relays as they are. -/
theorem relayStep_of_hasPrefix {line p : Bytes} (hp : hasPrefix line p = true)
    (hne : ∀ q ∈ [ascii "r ", ascii "m ", ascii "s ", ascii "w "], (p.isPrefixOf q || q.isPrefixOf p) = false)
    (rc : List Relay × Option Relay) : relayStep rc line = rc :=
  relayStep_of_inert (hasPrefix_false_of hp (hne _ (by simp))) (hasPrefix_false_of hp (hne _ (by simp)))
    (hasPrefix_false_of hp (hne _ (by simp))) (hasPrefix_false_of hp (hne _ (by simp))) rc

theorem except_map_eq_ok {ε α β : Type} {f : α → β} {x : Except ε α} {y : β} (h : x.map f = .ok y) :
    ∃ a, x = .ok a ∧ f a = y := by
  cases x with
  | error e => cases h
  | ok a => exact ⟨a, rfl, by injection h⟩

/-- One pass of the loop does to the relays what `relayStep` says. -/
theorem consensusLine_relays {parseTime : Bytes → Except String Int} {st st' : ParseState} {line : Bytes}
    (h : consensusLine parseTime st line = .ok st') :
    (st'.c.relays, st'.currentRelay) = relayStep (st.c.relays, st.currentRelay) line := by
  unfold consensusLine at h
  by_cases h1 : hasPrefix line (ascii "valid-after ") = true
  · rw [if_pos h1] at h
    obtain ⟨t, -, rfl⟩ := except_map_eq_ok h
    exact (relayStep_of_hasPrefix h1 (by decide) _).symm
  rw [if_neg h1] at h
  by_cases h2 : hasPrefix line (ascii "fresh-until ") = true
  · rw [if_pos h2] at h
    obtain ⟨t, -, rfl⟩ := except_map_eq_ok h
    exact (relayStep_of_hasPrefix h2 (by decide) _).symm
  rw [if_neg h2] at h
  by_cases h3 : hasPrefix line (ascii "valid-until ") = true
  · rw [if_pos h3] at h
    obtain ⟨t, -, rfl⟩ := except_map_eq_ok h
    exact (relayStep_of_hasPrefix h3 (by decide) _).symm
  rw [if_neg h3] at h
  by_cases h4 : hasPrefix line (ascii "shared-rand-current-value ") = true
  · rw [if_pos h4] at h
    cases h
    exact (relayStep_of_hasPrefix h4 (by decide) _).symm
  rw [if_neg h4] at h
  by_cases h5 : hasPrefix line (ascii "shared-rand-previous-value ") = true
  · rw [if_pos h5] at h
    cases h
    exact (relayStep_of_hasPrefix h5 (by decide) _).symm
  rw [if_neg h5] at h
  by_cases h6 : hasPrefix line (ascii "r ") = true
  · rw [if_pos h6] at h
    cases h
    rw [relayStep, if_pos h6]
  rw [if_neg h6] at h
  by_cases h7 : hasPrefix line (ascii "m ") = true
  · rw [if_pos h7] at h
    cases h
    rw [relayStep, if_neg h6]
    exact Prod.ext rfl (congrArg (Option.map · st.currentRelay) (funext fun relay => by rw [relayLine, if_pos h7]))
  rw [if_neg h7] at h
  by_cases h8 : hasPrefix line (ascii "s ") = true
  · rw [if_pos h8] at h
    cases h
    rw [relayStep, if_neg h6]
    exact Prod.ext rfl (congrArg (Option.map · st.currentRelay)
      (funext fun relay => by rw [relayLine, if_neg h7, if_pos h8]))
  rw [if_neg h8] at h
  by_cases h9 : hasPrefix line (ascii "w ") = true
  · rw [if_pos h9] at h
    cases h
    rw [relayStep, if_neg h6]
    exact Prod.ext rfl (congrArg (Option.map · st.currentRelay)
      (funext fun relay => by rw [relayLine, if_neg h7, if_neg h8, if_pos h9]))
  rw [if_neg h9] at h
  have hinert := relayStep_of_inert (by simpa using h6) (by simpa using h7) (by simpa using h8) (by simpa using h9)
    (st.c.relays, st.currentRelay)
  by_cases h10 : hasPrefix line (ascii "bandwidth-weights ") = true
  · rw [if_pos h10] at h
    cases h
    exact hinert.symm
  · rw [if_neg h10] at h
    cases h
    exact hinert.symm

/-- The loop does to the relays what `relayStep` does over the trimmed
lines. -/
theorem consensusLines_relays {parseTime : Bytes → Except String Int} :
    ∀ (ls : List Bytes) (st st' : ParseState), consensusLines parseTime ls st = .ok st' →
      (st'.c.relays, st'.currentRelay) =
        (ls.map fun l => trimRight l (ascii "\r")).foldl relayStep (st.c.relays, st.currentRelay)
  | [], st, st', h => by cases h; rfl
  | l :: ls, st, st', h => by
    unfold consensusLines at h
    split at h
    · cases h
    · rename_i st1 h1
      rw [List.map_cons, List.foldl_cons, ← consensusLine_relays h1]
      exact consensusLines_relays ls st1 st' h

/-- The relays `relayStep` keeps over lines, from the relays `rs` and the
relay `cur` being read: `cur` with the lines before the next `r` line, then
the relays of the blocks. -/
theorem foldl_relayStep :
    ∀ (ls : List Bytes) (rs : List Relay) (cur : Option Relay),
      (ls.foldl relayStep (rs, cur)).1 ++ (ls.foldl relayStep (rs, cur)).2.toList =
        rs ++ (cur.map fun relay => (ls.takeWhile fun l => !decide (IsRouterLine l)).foldl relayLine relay).toList ++
          (relayBlocks ls).filterMap blockRelay
  | [], rs, cur => by cases cur <;> simp [relayBlocks]
  | l :: ls, rs, cur => by
    rw [List.foldl_cons]
    by_cases hl : IsRouterLine l
    · have hr : hasPrefix l (ascii "r ") = true := hl
      rw [relayStep, if_pos hr, foldl_relayStep ls, relayBlocks, if_pos hl, List.takeWhile_cons_of_neg (by simpa using hl)]
      cases hp : parseRouterLine l <;> cases cur <;> simp [blockRelay, hp]
    · have hr : ¬ hasPrefix l (ascii "r ") = true := hl
      rw [relayStep, if_neg hr, foldl_relayStep ls, relayBlocks, if_neg hl, List.takeWhile_cons_of_pos (by simpa using hl)]
      cases cur <;> rfl

theorem relays_of_parseConsensus {parseTime : Bytes → Except String Int} {text : Bytes} {c : Consensus}
    (h : parseConsensus parseTime text = .ok c) :
    c.relays = (relayBlocks ((splitLines text).map fun l => trimRight l (ascii "\r"))).filterMap blockRelay := by
  unfold parseConsensus at h
  split at h
  · cases h
  · rename_i st hst
    cases h
    have h1 := consensusLines_relays _ _ _ hst
    have h2 := foldl_relayStep ((splitLines text).map fun l => trimRight l (ascii "\r")) [] none
    rw [← show emptyConsensus.relays = [] from rfl, ← h1] at h2
    simpa using h2

/-- On every document it accepts, `ParseConsensus` returns the relays of the
blocks whose `r` line parses, in order, each with the `m`, `s` and `w` lines
of its block applied: an `r` line that does not parse drops its block and
nothing else. -/
theorem parseConsensus_relays {parseTime : Bytes → Except String Int} {text : Bytes} {c : Consensus}
    (h : parseConsensus parseTime text = .ok c) :
    c.relays = (relayBlocks ((splitLines text).map fun l => trimRight l (ascii "\r"))).filterMap blockRelay :=
  relays_of_parseConsensus h

/-- A consensus with one relay, its `r` line written out. -/
def sampleText : Bytes :=
  ascii "valid-after 2024-05-01 12:00:00\nr moria1 BwcHBwcHBwcHBwcHBwcHBwcHBwc 2024-05-01 12:00:00 128.31.0.39 9101 9131\nm abc\ns Fast Valid\nw Bandwidth=1000\n"

theorem parseConsensus_relays_sample :
    ∃ c, parseConsensus (fun _ => .ok 0) sampleText = .ok c ∧
      c.relays = (relayBlocks ((splitLines sampleText).map fun l => trimRight l (ascii "\r"))).filterMap blockRelay :=
  have h : parseConsensus (fun _ => .ok 0) sampleText = .ok _ := rfl
  ⟨_, h, parseConsensus_relays h⟩

/-! ## When the parse fails -/

/-- A line whose time, if it is a time line, parses. -/
def TimeOk (parseTime : Bytes → Except String Int) (line : Bytes) : Prop :=
  hasPrefix line (ascii "valid-after ") = true ∨ hasPrefix line (ascii "fresh-until ") = true ∨
    hasPrefix line (ascii "valid-until ") = true → ∃ t, parseTime (line.drop 12) = .ok t

theorem parseTimeLine_map_ok_iff {parseTime : Bytes → Except String Int} {name : String} {line : Bytes}
    {f : Int → ParseState} : (∃ st, (parseTimeLine parseTime name line).map f = .ok st) ↔
      ∃ t, parseTime (line.drop (name.length + 1)) = .ok t := by
  unfold parseTimeLine
  cases parseTime (line.drop (name.length + 1)) <;> simp [Except.map]

/-- One pass of the loop fails exactly on a time line whose time does not
parse. -/
theorem consensusLine_ok_iff {parseTime : Bytes → Except String Int} {st : ParseState} {line : Bytes} :
    (∃ st', consensusLine parseTime st line = .ok st') ↔ TimeOk parseTime line := by
  unfold consensusLine TimeOk
  by_cases h1 : hasPrefix line (ascii "valid-after ") = true
  · rw [if_pos h1]; simpa [h1] using parseTimeLine_map_ok_iff
  rw [if_neg h1]
  by_cases h2 : hasPrefix line (ascii "fresh-until ") = true
  · rw [if_pos h2]; simpa [h2] using parseTimeLine_map_ok_iff
  rw [if_neg h2]
  by_cases h3 : hasPrefix line (ascii "valid-until ") = true
  · rw [if_pos h3]; simpa [h3] using parseTimeLine_map_ok_iff
  rw [if_neg h3]
  have key : ∀ e : Except String ParseState, e.isOk = true → ∃ st', e = .ok st' := by
    intro e; cases e <;> simp [Except.isOk, Except.toBool]
  refine iff_of_true (key _ ?_) fun h => absurd h (by simp [h1, h2, h3])
  simp only [apply_ite Except.isOk]
  simp only [Except.isOk, Except.toBool, ite_self]

theorem consensusLines_ok_iff {parseTime : Bytes → Except String Int} :
    ∀ (ls : List Bytes) (st : ParseState), (∃ st', consensusLines parseTime ls st = .ok st') ↔
      ∀ l ∈ ls, TimeOk parseTime (trimRight l (ascii "\r"))
  | [], st => by simp [consensusLines]
  | l :: ls, st => by
    unfold consensusLines
    rw [List.forall_mem_cons, ← @consensusLine_ok_iff parseTime st]
    cases consensusLine parseTime st (trimRight l (ascii "\r")) with
    | error e => simp
    | ok st1 => simp [consensusLines_ok_iff ls st1]

/-- `ParseConsensus` accepts exactly the documents whose `valid-after`,
`fresh-until` and `valid-until` lines carry times that `time.Parse`
accepts; no other line makes it fail. -/
theorem parseConsensus_ok_iff (parseTime : Bytes → Except String Int) (text : Bytes) :
    (∃ c, parseConsensus parseTime text = .ok c) ↔
      ∀ l ∈ splitLines text, TimeOk parseTime (trimRight l (ascii "\r")) := by
  rw [← consensusLines_ok_iff _ ⟨emptyConsensus, none⟩, parseConsensus]
  cases consensusLines parseTime (splitLines text) ⟨emptyConsensus, none⟩ <;> simp

/-! ## Reading back a written consensus -/

/-- A line that is no `r`, `m`, `s` or `w` line. -/
def Inert (line : Bytes) : Prop := ∀ p ∈ [ascii "r ", ascii "m ", ascii "s ", ascii "w "], hasPrefix line p = false

instance : DecidablePred Inert := fun line =>
  inferInstanceAs (Decidable (∀ p ∈ [ascii "r ", ascii "m ", ascii "s ", ascii "w "], hasPrefix line p = false))

theorem Inert.not_router {line : Bytes} (h : Inert line) : ¬ IsRouterLine line := by
  simp [IsRouterLine, h (ascii "r ") (.head _)]

theorem Inert.relayLine_eq {line : Bytes} (h : Inert line) (relay : Relay) : relayLine relay line = relay := by
  simp [relayLine, h (ascii "m ") (.tail _ (.head _)), h (ascii "s ") (.tail _ (.tail _ (.head _))),
    h (ascii "w ") (.tail _ (.tail _ (.tail _ (.head _))))]

/-- A line that starts with a prefix of no time line is no time line. -/
theorem timeOk_of_hasPrefix {parseTime : Bytes → Except String Int} {line p : Bytes} (hp : hasPrefix line p = true)
    (hne : ∀ q ∈ [ascii "valid-after ", ascii "fresh-until ", ascii "valid-until "],
      (p.isPrefixOf q || q.isPrefixOf p) = false) : TimeOk parseTime line := by
  simp [TimeOk, hasPrefix_false_of hp (hne _ (.head _)), hasPrefix_false_of hp (hne _ (.tail _ (.head _))),
    hasPrefix_false_of hp (hne _ (.tail _ (.tail _ (.head _))))]

/-- A header or footer line of a consensus: one line with no `\r`, no
`r`, `m`, `s` or `w` line, and a time that parses if it is a time line. -/
structure OtherLine (parseTime : Bytes → Except String Int) (line : Bytes) : Prop where
  no_lf : 10 ∉ line
  no_cr : 13 ∉ line
  inert : Inert line
  time_ok : TimeOk parseTime line

theorem relayBlocks_append_of_not :
    ∀ {ls : List Bytes}, (∀ l ∈ ls, ¬ IsRouterLine l) → ∀ rest, relayBlocks (ls ++ rest) = relayBlocks rest
  | [], _, _ => rfl
  | l :: ls, h, rest => by
    rw [List.cons_append, relayBlocks, if_neg (h l (.head _)), relayBlocks_append_of_not (fun l' hl => h l' (.tail _ hl))]

theorem foldl_relayLine_inert :
    ∀ {ls : List Bytes}, (∀ l ∈ ls, Inert l) → ∀ relay, ls.foldl relayLine relay = relay
  | [], _, _ => rfl
  | l :: ls, h, relay => by
    rw [List.foldl_cons, (h l (.head _)).relayLine_eq, foldl_relayLine_inert (fun l' hl => h l' (.tail _ hl))]

/-- A relay as an authority lists it in a microdescriptor consensus: the
words of its `r` line, the digest of its `m` line, the flags of its `s`
line and the bandwidth of its `w` line. -/
structure RelayEntry where
  nickname : Bytes
  identity : Bytes
  date : Bytes
  time : Bytes
  address : Bytes
  orPort : Nat
  dirPort : Nat
  digest : Bytes
  flags : List Bytes
  bandwidth : Nat
  deriving DecidableEq, Repr

namespace RelayEntry

/-- `r nickname identity date time address ORPort DirPort`, the identity in
unpadded base64. -/
def rLine (e : RelayEntry) : Bytes :=
  joinWords (ascii "r")
    [e.nickname, encodeToString false e.identity, e.date, e.time, e.address, decimal e.orPort, decimal e.dirPort]

/-- `m digest`. -/
def mLine (e : RelayEntry) : Bytes := joinWords (ascii "m") [e.digest]

/-- `s` and the flags. -/
def sLine (e : RelayEntry) : Bytes := joinWords (ascii "s") e.flags

/-- `w Bandwidth=N`. -/
def wLine (e : RelayEntry) : Bytes := joinWords (ascii "w") [ascii "Bandwidth=" ++ decimal e.bandwidth]

/-- The lines of the entry. -/
def lines (e : RelayEntry) : List Bytes := [e.rLine, e.mLine, e.sLine, e.wLine]

/-- What an authority writes: fields of ASCII text with no white space, an
identity of 20 bytes, ports of 16 bits and a bandwidth that fits an
`int64`. (ASCII fields are split by Go's Unicode `strings.Fields` exactly
where `fields` splits them.) -/
structure WellFormed (e : RelayEntry) : Prop where
  nickname : IsWord e.nickname
  date : IsWord e.date
  time : IsWord e.time
  address : IsWord e.address
  digest : IsWord e.digest
  flags : ∀ f ∈ e.flags, IsWord f
  identity : e.identity.length = 20
  orPort : e.orPort < 2 ^ 16
  dirPort : e.dirPort < 2 ^ 16
  bandwidth : e.bandwidth < 2 ^ 63
  asciiWords : ∀ w ∈ [e.nickname, e.date, e.time, e.address, e.digest] ++ e.flags, IsAscii w

/-- The relay the entry describes: each field as written, the flags its `s`
line names, its digest with a `sha256=` prefix trimmed, and no keys yet. -/
def relay (e : RelayEntry) : Relay :=
  ⟨e.nickname, e.identity, e.address, e.orPort, e.dirPort, flagsOf e.flags, e.bandwidth,
    trimPrefix e.digest (ascii "sha256="), zeroKey, zeroKey, false, false⟩

variable {e : RelayEntry}

theorem hasPrefix_rLine (e : RelayEntry) : hasPrefix e.rLine (ascii "r ") = true := hasPrefix_joinWords _ _ _

theorem hasPrefix_mLine (e : RelayEntry) : hasPrefix e.mLine (ascii "m ") = true := hasPrefix_joinWords _ _ _

theorem hasPrefix_sLine (e : RelayEntry) : hasPrefix e.sLine (ascii "s") = true := by
  simp [sLine, joinWords, hasPrefix, isPrefixOf_iff]

theorem hasPrefix_wLine (e : RelayEntry) : hasPrefix e.wLine (ascii "w ") = true := hasPrefix_joinWords _ _ _

theorem isWord_decimal (n : Nat) : IsWord (decimal n) := ⟨decimal_ne_nil n, fun _ hb => decimal_not_space hb⟩

theorem WellFormed.rWords (he : e.WellFormed) :
    ∀ v ∈ [e.nickname, encodeToString false e.identity, e.date, e.time, e.address, decimal e.orPort,
      decimal e.dirPort], IsWord v := by
  have hid : IsWord (encodeToString false e.identity) :=
    ⟨encodeToString_ne_nil false (List.ne_nil_of_length_pos (by rw [he.identity]; decide)),
      fun _ hb => (base64_char (mem_encodeToString hb)).1⟩
  simp [he.nickname, hid, he.date, he.time, he.address, isWord_decimal]

theorem isWord_bandwidth (n : Nat) : IsWord (ascii "Bandwidth=" ++ decimal n) :=
  ⟨fun h => absurd (List.append_eq_nil.1 h).1 (by decide), fun b hb => (List.mem_append.1 hb).elim
    (fun h => (show ∀ b ∈ ascii "Bandwidth=", isAsciiSpace b = false by decide) b h) decimal_not_space⟩

/-- Each line of an entry is one line with no `\r`, and no time line. -/
theorem WellFormed.lines_ok (he : e.WellFormed) (parseTime : Bytes → Except String Int) :
    ∀ l ∈ e.lines, 10 ∉ l ∧ 13 ∉ l ∧ TimeOk parseTime l := by
  have hr : 10 ∉ e.rLine ∧ 13 ∉ e.rLine := joinWords_no_lf (by decide) he.rWords
  have hm : 10 ∉ e.mLine ∧ 13 ∉ e.mLine := joinWords_no_lf (by decide) (by simpa using he.digest)
  have hs : 10 ∉ e.sLine ∧ 13 ∉ e.sLine := joinWords_no_lf (by decide) he.flags
  have hw : 10 ∉ e.wLine ∧ 13 ∉ e.wLine := joinWords_no_lf (by decide) (by simpa using isWord_bandwidth e.bandwidth)
  simp only [lines, List.mem_cons, List.mem_singleton, List.not_mem_nil, or_false]
  rintro l (rfl | rfl | rfl | rfl)
  · exact ⟨hr.1, hr.2, timeOk_of_hasPrefix e.hasPrefix_rLine (by decide)⟩
  · exact ⟨hm.1, hm.2, timeOk_of_hasPrefix e.hasPrefix_mLine (by decide)⟩
  · exact ⟨hs.1, hs.2, timeOk_of_hasPrefix e.hasPrefix_sLine (by decide)⟩
  · exact ⟨hw.1, hw.2, timeOk_of_hasPrefix e.hasPrefix_wLine (by decide)⟩

theorem not_router (e : RelayEntry) : ∀ l ∈ [e.mLine, e.sLine, e.wLine], ¬ IsRouterLine l := by
  have hm : hasPrefix e.mLine (ascii "r ") = false := hasPrefix_false_of e.hasPrefix_mLine (by decide)
  have hs : hasPrefix e.sLine (ascii "r ") = false := hasPrefix_false_of e.hasPrefix_sLine (by decide)
  have hw : hasPrefix e.wLine (ascii "r ") = false := hasPrefix_false_of e.hasPrefix_wLine (by decide)
  simp [IsRouterLine, hm, hs, hw]

theorem parseRouterLine_rLine (he : e.WellFormed) :
    parseRouterLine e.rLine =
      some ⟨e.nickname, e.identity, e.address, e.orPort, e.dirPort, RelayFlags.zero, 0, [], zeroKey, zeroKey, false, false⟩ := by
  have hid : rawStdDecodeString (encodeToString false e.identity) = .ok e.identity := by
    rw [rawStdDecodeString, decodeString, decodeLoop_encodeToString, List.nil_append]
  rw [parseRouterLine, rLine, fields_joinWords (by decide) he.rWords]
  simp [hid, he.identity, parseUint_decimal he.orPort, parseUint_decimal he.dirPort]

theorem relayLine_mLine (he : e.WellFormed) (r : Relay) :
    relayLine r e.mLine = { r with microdescDigest := trimPrefix e.digest (ascii "sha256=") } := by
  rw [relayLine, if_pos e.hasPrefix_mLine, mLine, fields_joinWords (by decide) (by simpa using he.digest)]
  rfl

theorem relayLine_sLine (he : e.WellFormed) (r : Relay) :
    relayLine r e.sLine = { r with flags := e.flags.foldl setFlag r.flags } := by
  cases hfl : e.flags with
  | nil =>
    have hs : e.sLine = ascii "s" := by rw [sLine, hfl]; rfl
    rw [hs]; rfl
  | cons f fs =>
    have hs : hasPrefix e.sLine (ascii "s ") = true := by rw [sLine, hfl]; exact hasPrefix_joinWords _ _ _
    have hm : hasPrefix e.sLine (ascii "m ") = false := hasPrefix_false_of hs (by decide)
    rw [relayLine, if_neg (ne_true_of_eq_false hm), if_pos hs, parseFlags, sLine,
      fields_joinWords (by decide) he.flags, hfl]
    rfl

theorem relayLine_wLine (he : e.WellFormed) (r : Relay) : relayLine r e.wLine = { r with bandwidth := e.bandwidth } := by
  have hm : hasPrefix e.wLine (ascii "m ") = false := hasPrefix_false_of e.hasPrefix_wLine (by decide)
  have hs : hasPrefix e.wLine (ascii "s ") = false := hasPrefix_false_of e.hasPrefix_wLine (by decide)
  have hpre : hasPrefix (ascii "Bandwidth=" ++ decimal e.bandwidth) (ascii "Bandwidth=") = true := by
    simp [hasPrefix, isPrefixOf_iff]
  rw [relayLine, if_neg (ne_true_of_eq_false hm), if_neg (ne_true_of_eq_false hs), if_pos e.hasPrefix_wLine,
    parseBandwidth, wLine, fields_joinWords (by decide) (by simpa using isWord_bandwidth e.bandwidth)]
  simp only [List.drop_one, List.tail_cons, List.foldl_cons, List.foldl_nil, hpre, if_true,
    List.drop_left' (show (ascii "Bandwidth=").length = 10 from rfl), parseInt_decimal he.bandwidth le_rfl]

/-- The block of an entry, with lines after it that change no relay, gives
the entry's relay. -/
theorem blockRelay_lines (he : e.WellFormed) {ls : List Bytes} (hls : ∀ l ∈ ls, Inert l) :
    blockRelay (e.rLine, [e.mLine, e.sLine, e.wLine] ++ ls) = some e.relay := by
  rw [blockRelay, parseRouterLine_rLine he, Option.map_some', List.foldl_append, foldl_relayLine_inert hls]
  simp only [List.foldl_cons, List.foldl_nil, relayLine_mLine he, relayLine_sLine he, relayLine_wLine he,
    foldl_setFlag_zero]
  rfl

end RelayEntry

/-- The relays of entries' lines followed by lines that change no relay:
one block per entry, whose relay is the entry's. -/
theorem relayBlocks_entries {tail : List Bytes} (ht : ∀ l ∈ tail, Inert l) :
    ∀ {es : List RelayEntry}, (∀ e ∈ es, e.WellFormed) →
      (relayBlocks (es.flatMap RelayEntry.lines ++ tail)).filterMap blockRelay = es.map RelayEntry.relay
  | [], _ => by
    rw [List.flatMap_nil, List.nil_append, ← List.append_nil tail,
      relayBlocks_append_of_not (fun l hl => (ht l hl).not_router)]
    rfl
  | e :: es, he => by
    have hrest : ∀ l ∈ (es.flatMap RelayEntry.lines ++ tail).takeWhile (fun l => !decide (IsRouterLine l)), Inert l := by
      cases es with
      | nil => exact fun l hl => ht l ((List.takeWhile_sublist _).subset hl)
      | cons e' es' =>
        rw [List.flatMap_cons, RelayEntry.lines, List.cons_append, List.cons_append,
          List.takeWhile_cons_of_neg (by simpa [IsRouterLine] using e'.hasPrefix_rLine)]
        exact fun l hl => nomatch hl
    rw [List.flatMap_cons, List.append_assoc, RelayEntry.lines, List.cons_append, relayBlocks, if_pos (show IsRouterLine e.rLine from e.hasPrefix_rLine),
      List.takeWhile_append_of_pos (by simpa using e.not_router), relayBlocks_append_of_not e.not_router,
      List.filterMap_cons, RelayEntry.blockRelay_lines (he e (.head _)) hrest,
      relayBlocks_entries ht (fun e' h => he e' (.tail _ h)), List.map_cons]

/-- A consensus written from relay entries, between header and footer lines
that are no relay lines and whose times parse, is accepted, and its relays
are the entries' relays, in order, each field as written. -/
theorem parseConsensus_document (parseTime : Bytes → Except String Int) {header footer : List Bytes}
    {entries : List RelayEntry} (hh : ∀ l ∈ header, OtherLine parseTime l)
    (hf : ∀ l ∈ footer, OtherLine parseTime l) (he : ∀ e ∈ entries, e.WellFormed) :
    ∃ c, parseConsensus parseTime (joinLines (header ++ entries.flatMap RelayEntry.lines ++ footer)) = .ok c ∧
      c.relays = entries.map RelayEntry.relay := by
  have hlines : ∀ l ∈ header ++ entries.flatMap RelayEntry.lines ++ footer ++ [[]],
      10 ∉ l ∧ 13 ∉ l ∧ TimeOk parseTime l := by
    simp only [List.mem_append, List.mem_flatMap, List.mem_singleton]
    rintro l (((hl | ⟨e, he', hl⟩) | hl) | rfl)
    · exact ⟨(hh l hl).no_lf, (hh l hl).no_cr, (hh l hl).time_ok⟩
    · exact (he e he').lines_ok parseTime l hl
    · exact ⟨(hf l hl).no_lf, (hf l hl).no_cr, (hf l hl).time_ok⟩
    · exact ⟨List.not_mem_nil _, List.not_mem_nil _, by rintro (h | h | h) <;> exact absurd h (by decide)⟩
  have hsplit : splitLines (joinLines (header ++ entries.flatMap RelayEntry.lines ++ footer)) =
      header ++ entries.flatMap RelayEntry.lines ++ footer ++ [[]] :=
    splitLines_joinLines fun l hl => (hlines l (List.mem_append_left _ hl)).1
  have htrim : (header ++ entries.flatMap RelayEntry.lines ++ footer ++ [[]]).map (fun l => trimRight l (ascii "\r")) =
      header ++ entries.flatMap RelayEntry.lines ++ footer ++ [[]] :=
    (List.map_congr_left fun l hl => trimRight_cr (hlines l hl).2.1).trans (List.map_id _)
  have hok : ∀ l ∈ splitLines (joinLines (header ++ entries.flatMap RelayEntry.lines ++ footer)),
      TimeOk parseTime (trimRight l (ascii "\r")) := by
    rw [hsplit]
    intro l hl
    rw [trimRight_cr (hlines l hl).2.1]
    exact (hlines l hl).2.2
  obtain ⟨st, hst⟩ := (consensusLines_ok_iff _ ⟨emptyConsensus, none⟩).2 hok
  have hc : parseConsensus parseTime (joinLines (header ++ entries.flatMap RelayEntry.lines ++ footer)) =
      .ok { st.c with relays := st.c.relays ++ st.currentRelay.toList } := by
    rw [parseConsensus, hst]
  refine ⟨_, hc, ?_⟩
  rw [relays_of_parseConsensus hc, hsplit, htrim, List.append_assoc, List.append_assoc,
    relayBlocks_append_of_not (fun l hl => (hh l hl).inert.not_router)]
  exact relayBlocks_entries (fun l hl => (List.mem_append.1 hl).elim (fun hl => (hf l hl).inert)
    fun hl => by rw [List.mem_singleton.1 hl]; decide) he

/-- A relay entry with every field filled. -/
def sampleEntry : RelayEntry :=
  ⟨ascii "moria1", List.replicate 20 7, ascii "2024-05-01", ascii "12:00:00", ascii "128.31.0.39", 9101, 9131,
    ascii "sha256=abc", [ascii "Fast", ascii "Running", ascii "Valid"], 1000⟩

theorem sampleEntry_wellFormed : sampleEntry.WellFormed :=
  ⟨by decide, by decide, by decide, by decide, by decide, by decide, rfl, by decide, by decide, by decide, by decide⟩

theorem parseConsensus_document_sample :
    ∃ c, parseConsensus (fun _ => .ok 0) (joinLines ([ascii "network-status-version 3 microdesc",
      ascii "valid-after 2024-05-01 12:00:00"] ++ [sampleEntry].flatMap RelayEntry.lines ++
      [ascii "directory-footer"])) = .ok c ∧ c.relays = [sampleEntry].map RelayEntry.relay :=
  parseConsensus_document _
    (fun l hl => have h := (show ∀ l ∈ [ascii "network-status-version 3 microdesc",
      ascii "valid-after 2024-05-01 12:00:00"], 10 ∉ l ∧ 13 ∉ l ∧ Inert l by decide) l hl
      ⟨h.1, h.2.1, h.2.2, fun _ => ⟨0, rfl⟩⟩)
    (fun l hl => have h := (show ∀ l ∈ [ascii "directory-footer"], 10 ∉ l ∧ 13 ∉ l ∧ Inert l by decide) l hl
      ⟨h.1, h.2.1, h.2.2, fun _ => ⟨0, rfl⟩⟩)
    (by simpa using sampleEntry_wellFormed)

/-! ## Freshness -/

/-- `ValidateFreshness` accepts exactly when both validity times are set and
the clock is no more than five minutes before `valid-after` or after
`valid-until`. -/
theorem validateFreshness_ok_iff (timeText : Int → String) (c : Consensus) (now : Int) :
    validateFreshness timeText c now = .ok () ↔
      c.validAfter ≠ zeroTime ∧ c.validUntil ≠ zeroTime ∧
        c.validAfter - 5 * 60 * 1000000000 ≤ now ∧ now ≤ c.validUntil + 5 * 60 * 1000000000 := by
  unfold validateFreshness
  dsimp only
  split_ifs with h1 h2 h3
  · exact iff_of_false (by simp) fun h => h1.elim h.1 h.2.1
  · exact iff_of_false (by simp) fun h => absurd h.2.2.1 (by omega)
  · exact iff_of_false (by simp) fun h => absurd h.2.2.2 (by omega)
  · rw [not_or] at h1
    exact iff_of_true rfl ⟨h1.1, h1.2, by omega, by omega⟩

end TorGo.L5.Directory
