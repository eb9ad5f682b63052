import TorGo.L1Encoding.Text
import Mathlib.Data.List.Sort
import Mathlib.Algebra.Group.Int
import Mathlib.Data.List.Rotate

/-!
# HSDir selection (`onion/hsdir.go`)

`SelectHSDirs` puts the relays with the HSDir, Running and Valid flags and
an Ed25519 identity on a hash ring, sorted by `relayIndex`, and for each of
the `hsdirNReplicas = 2` replicas walks the ring from the first entry at or
after that replica's `serviceIndex`, taking `hsdirSpreadFetch = 3` relays
that are not yet selected. The walk of one replica is

    for count < hsdirSpreadFetch {
      pos := (start + offset) % len(ring); offset++
      if selected[r] { continue }
      selected[r] = true; result = append(result, r); count++
      if len(selected) >= len(ring) { break }
    }

Go's loop has no bound of its own, so the model runs it for at most `fuel`
passes: `pickLoop` ends in `.ok`, in a panic (`ring[pos]` with a negative
`pos`, once `offset` has wrapped around `int`) or out of passes. SHA3-256 is
a parameter; `sort.Slice` is a stable merge sort on the ring index, which
orders the ring as Go does except among relays with equal indices. A relay
is its position in `consensus.Relays`, the pointer the Go map is keyed by.

Results:
* `pickPass_all_selected`: once every relay of the ring is selected, a pass
  selects nothing and only goes round again (or panics);
* `pickLoop_covers_small_ring`: a first replica that returns on a ring of at
  most three relays has selected all of them;
* `selectHSDirs_small_ring_never_returns`: with one to three eligible relays
  and a shared random value, `SelectHSDirs` returns for no bound on the
  passes of its loops: the second replica finds every relay selected, and
  its loop can only `continue`;
* `sortRing_sorted`, `search_sorted_ring`: the ring is sorted by
  `bytes.Compare`, and on it `sort.Search` finds the first entry at or after
  the service index (`firstAtOrAfter`);
* `pickLoop_walk`: a replica's loop that starts with some relays selected
  returns, within three passes more than it has relays selected, the first
  `hsdirSpreadFetch` relays of its walk round the ring that are not among
  them, as long as some relay is left to select;
* `selectHSDirs_ring_rule`: with four eligible relays or more, six passes of
  each loop are enough and `SelectHSDirs` returns `ringRule`, the HSDir ring
  rule of rend-spec-v3: `min 6 N` distinct eligible relays.
-/
namespace TorGo.L5

open TorGo.L1

/-! ## Relays and their ring -/

/-- The fields of `directory.Relay` that `SelectHSDirs` reads. -/
structure Relay where
  hsdir : Bool
  running : Bool
  valid : Bool
  hasEd25519 : Bool
  ed25519ID : Bytes
  deriving DecidableEq, Repr

def hsdirNReplicas : Nat := 2

def hsdirSpreadFetch : Nat := 3

/-- The relays `SelectHSDirs` puts on the ring. -/
def Relay.onRing (r : Relay) : Bool := r.hsdir && r.running && r.valid && r.hasEd25519

/-- `binary.BigEndian.PutUint64(buf, uint64(x))` of a Go `int64`. -/
def int64Bytes (x : Int) : Bytes := putUint64 (UInt64.ofNat (x % 2 ^ 64).toNat)

section Ring

variable (sha3 : Bytes → Bytes)

/-- `serviceIndex`: SHA3-256 of `store-at-idx`, the blinded key, the replica
number, the period length and the period number. -/
def serviceIndex (blindedKey : Bytes) (replicanum periodLength periodNum : Int) : Bytes :=
  sha3 (ascii "store-at-idx" ++ blindedKey ++ int64Bytes replicanum ++ int64Bytes periodLength ++
    int64Bytes periodNum)

/-- `relayIndex`: SHA3-256 of `node-idx`, the identity, the shared random
value, the period number and the period length. -/
def relayIndex (nodeIdentity srv : Bytes) (periodNum periodLength : Int) : Bytes :=
  sha3 (ascii "node-idx" ++ nodeIdentity ++ srv ++ int64Bytes periodNum ++ int64Bytes periodLength)

/-- `hsdirEntry`: a relay, by its position in `consensus.Relays`, and its
ring index. -/
structure HsdirEntry where
  relay : Nat
  index : Bytes
  deriving DecidableEq, Repr

/-- The ring before it is sorted, in consensus order. -/
def buildRing (relays : List Relay) (srv : Bytes) (periodNum periodLength : Int) : List HsdirEntry :=
  ((relays.enum.filter fun e => e.2.onRing).map fun e => ⟨e.1, relayIndex sha3 e.2.ed25519ID srv periodNum periodLength⟩)

end Ring

/-- `sort.Slice(ring, ...)` by `bytes.Compare` of the indices. -/
def sortRing (ring : List HsdirEntry) : List HsdirEntry :=
  ring.mergeSort fun e f => !decide (bytesCompare f.index e.index < 0)

/-- `sort.Search(n, f)`: Go's binary search for the first `i < n` at which
`f` holds, `n` when there is none. -/
def search (n : Nat) (f : Nat → Bool) : Nat := go 0 n
where
  /-- The loop of `sort.Search` on `[i, j)`. -/
  go (i j : Nat) : Nat :=
    if i < j then
      let h := (i + j) / 2
      if !f h then go (h + 1) j else go i h
    else i
  termination_by j - i

/-! ## Go's `int` and indexing -/

/-- The `int` (64-bit) that Go's arithmetic leaves of `x`. -/
def goInt (x : Int) : Int := (x + 2 ^ 63) % 2 ^ 64 - 2 ^ 63

theorem goInt_of_range {x : Int} (h0 : -2 ^ 63 ≤ x) (h1 : x < 2 ^ 63) : goInt x = x := by
  unfold goInt
  omega

/-- `l[i]`; `none` is Go's "index out of range" panic. -/
def goIndex {α : Type} (l : List α) (i : Int) : Option α := if 0 ≤ i then l.get? i.toNat else none

theorem goIndex_natCast {α : Type} (l : List α) (i : Nat) : goIndex l i = l[i]? := by
  rw [goIndex, if_pos (Int.ofNat_nonneg i)]
  simp

theorem tmod_natCast_add (a b n : Nat) : Int.tmod ((a : Int) + b) n = ((a + b) % n : Nat) := by
  norm_cast

theorem mem_of_goIndex {α : Type} {l : List α} {i : Int} {a : α} (h : goIndex l i = some a) : a ∈ l := by
  unfold goIndex at h
  split at h
  · exact List.get?_mem h
  · cases h

/-! ## The replica loops -/

/-- How a run that does not return ends. -/
inductive Stop where
  | panic
  | fuelOut
  deriving DecidableEq, Repr

/-- The variables of the replica loops: the keys of `selected` in the order
they were set, `result`, and the inner loop's `count` and `offset`. -/
structure Pick where
  selected : List Nat
  result : List Nat
  count : Nat
  offset : Int
  deriving DecidableEq, Repr

/-- One pass of the inner loop, from `pos := (start + offset) % len(ring)`:
`.inl` when it breaks, `.inr` when it goes round again (`continue`
included); `none` is a panic. -/
def pickPass (ring : List HsdirEntry) (start : Nat) (p : Pick) : Option (Pick ⊕ Pick) :=
  let pos := Int.tmod (goInt (start + p.offset)) ring.length
  let offset := goInt (p.offset + 1)
  match goIndex ring pos with
  | none => none
  | some e =>
    if e.relay ∈ p.selected then some (.inr { p with offset }) else
    let p : Pick := ⟨p.selected ++ [e.relay], p.result ++ [e.relay], p.count + 1, offset⟩
    if ring.length ≤ p.selected.length then some (.inl p) else some (.inr p)

/-- The inner loop `for count < hsdirSpreadFetch`, for at most `fuel` passes. -/
def pickLoop (ring : List HsdirEntry) (start : Nat) : Nat → Pick → Except Stop Pick
  | 0, p => if p.count < hsdirSpreadFetch then .error .fuelOut else .ok p
  | fuel + 1, p =>
    if p.count < hsdirSpreadFetch then
      match pickPass ring start p with
      | none => .error .panic
      | some (.inl p) => .ok p
      | some (.inr p) => pickLoop ring start fuel p
    else .ok p

/-! ## What one pass can do -/

section Pass

variable {ring : List HsdirEntry} {start : Nat} {p : Pick} {x : Pick ⊕ Pick}

/-- A pass goes round again with only `offset` changed, or selects a relay
of the ring that was not selected, and breaks once as many relays are
selected as the ring holds. -/
theorem pickPass_cases (h : pickPass ring start p = some x) :
    x = .inr { p with offset := goInt (p.offset + 1) } ∨
      ∃ e ∈ ring, e.relay ∉ p.selected ∧
        x = (if ring.length ≤ p.selected.length + 1 then Sum.inl else Sum.inr)
          ⟨p.selected ++ [e.relay], p.result ++ [e.relay], p.count + 1, goInt (p.offset + 1)⟩ := by
  dsimp only [pickPass] at h
  split at h
  · cases h
  next e he =>
  split_ifs at h with hs hl <;> cases h
  · exact .inl rfl
  all_goals simp only [List.length_append, List.length_singleton] at hl
  · exact .inr ⟨e, mem_of_goIndex he, hs, by rw [if_pos hl]⟩
  · exact .inr ⟨e, mem_of_goIndex he, hs, by rw [if_neg hl]⟩

/-- Once every relay of the ring is selected, a pass only goes round again. -/
theorem pickPass_all_selected (hall : ∀ e ∈ ring, e.relay ∈ p.selected) (h : pickPass ring start p = some x) :
    x = .inr { p with offset := goInt (p.offset + 1) } :=
  (pickPass_cases h).resolve_right fun ⟨e, he, hs, _⟩ => hs (hall e he)

/-- What the loop keeps of `selected`: no relay twice, only relays of the
ring, and one relay more than at the start of the replica for each count. -/
def Sound (ring : List HsdirEntry) (base : Nat) (p : Pick) : Prop :=
  p.selected.Nodup ∧ p.selected ⊆ ring.map (·.relay) ∧ p.selected.length = base + p.count

theorem pickPass_sound {base : Nat} (hp : Sound ring base p) (h : pickPass ring start p = some x) :
    Sound ring base (x.elim id id) ∧ ∀ q, x = .inl q → ring.length ≤ q.selected.length := by
  rcases pickPass_cases h with rfl | ⟨e, he, hs, rfl⟩
  · exact ⟨hp, nofun⟩
  have hq : Sound ring base ⟨p.selected ++ [e.relay], p.result ++ [e.relay], p.count + 1, goInt (p.offset + 1)⟩ :=
    ⟨hp.1.append (List.nodup_singleton _) (List.disjoint_singleton.2 hs),
      List.append_subset.2 ⟨hp.2.1, fun r hr => List.mem_singleton.1 hr ▸ List.mem_map_of_mem _ he⟩,
      by simp only [List.length_append, List.length_singleton, hp.2.2]; omega⟩
  split_ifs with hl
  · exact ⟨hq, fun q hq' => by cases hq'; simpa using hl⟩
  · exact ⟨hq, nofun⟩

end Pass

/-! ## Runs of the inner loop -/

section Loop

variable {ring : List HsdirEntry} {start : Nat}

/-- A loop that returns has reached `hsdirSpreadFetch` or selected as many
relays as the ring holds. -/
theorem pickLoop_sound {base : Nat} :
    ∀ (fuel : Nat) (p q : Pick), Sound ring base p → pickLoop ring start fuel p = .ok q →
      Sound ring base q ∧ (hsdirSpreadFetch ≤ q.count ∨ ring.length ≤ q.selected.length)
  | 0, p, q, hp, h => by
    unfold pickLoop at h
    split_ifs at h with hc
    cases h
    exact ⟨hp, .inl (by omega)⟩
  | fuel + 1, p, q, hp, h => by
    unfold pickLoop at h
    split_ifs at h with hc
    · split at h
      · cases h
      next q' hx =>
        cases h
        exact ⟨(pickPass_sound hp hx).1, .inr ((pickPass_sound hp hx).2 _ rfl)⟩
      next q' hx => exact pickLoop_sound fuel q' q (pickPass_sound hp hx).1 h
    · cases h
      exact ⟨hp, .inl (by omega)⟩

/-- Once every relay of the ring is selected and `count` is below
`hsdirSpreadFetch`, the loop returns for no number of passes. -/
theorem pickLoop_all_selected :
    ∀ (fuel : Nat) (p : Pick), (∀ e ∈ ring, e.relay ∈ p.selected) → p.count < hsdirSpreadFetch →
      ∃ stop, pickLoop ring start fuel p = .error stop
  | 0, p, _, hc => ⟨.fuelOut, by rw [pickLoop, if_pos hc]⟩
  | fuel + 1, p, hall, hc => by
    rw [pickLoop, if_pos hc]
    cases hx : pickPass ring start p with
    | none => exact ⟨.panic, rfl⟩
    | some x =>
      rw [pickPass_all_selected hall hx]
      exact pickLoop_all_selected fuel _ hall hc

/-- A first replica that returns on a ring of at most `hsdirSpreadFetch`
relays has selected every one of them. -/
theorem pickLoop_covers_small_ring (hn : ring.length ≤ hsdirSpreadFetch)
    {fuel : Nat} {q : Pick} (h : pickLoop ring start fuel ⟨[], [], 0, 0⟩ = .ok q) :
    ∀ e ∈ ring, e.relay ∈ q.selected := by
  obtain ⟨⟨hq, hsub, hlen⟩, hexit⟩ := pickLoop_sound fuel ⟨[], [], 0, 0⟩ q
    (show Sound ring 0 ⟨[], [], 0, 0⟩ from ⟨List.nodup_nil, List.nil_subset _, rfl⟩) h
  have hle : (ring.map (·.relay)).length ≤ q.selected.length := by
    rw [List.length_map]
    omega
  have hperm := (List.subperm_of_subset hq hsub).perm_of_length_le hle
  exact fun e he => hperm.mem_iff.2 (List.mem_map_of_mem _ he)

end Loop

section Select

variable (sha3 : Bytes → Bytes)

/-- One replica of the outer loop: the first ring entry at or after its
service index, then the inner loop from `count = 0` and `offset = 0`. -/
def runReplica (ring : List HsdirEntry) (blindedKey : Bytes) (periodNum periodLength : Int) (fuel : Nat)
    (p : Pick) (replica : Nat) : Except Stop Pick :=
  let svcIdx := serviceIndex sha3 blindedKey replica periodLength periodNum
  let start := search ring.length fun i =>
    match ring.get? i with
    | some e => decide (0 ≤ bytesCompare e.index svcIdx)
    | none => true
  pickLoop ring start fuel { p with count := 0, offset := 0 }

/-- `SelectHSDirs`, with at most `fuel` passes for each replica's loop. -/
def selectHSDirs (fuel : Nat) (consensus : List Relay) (blindedKey : Bytes) (periodNum periodLength : Int)
    (srv : Bytes) : Except Stop (Except String (List Nat)) :=
  if srv = [] then .ok (.error "no shared random value available") else
  let ring := buildRing sha3 consensus srv periodNum periodLength
  if ring = [] then .ok (.error "no HSDir relays in consensus") else
  let ring := sortRing ring
  match (List.range' 1 hsdirNReplicas).foldlM (runReplica sha3 ring blindedKey periodNum periodLength fuel)
      ⟨[], [], 0, 0⟩ with
  | .error stop => .error stop
  | .ok p => .ok (if p.result = [] then .error "no HSDirs selected" else .ok p.result)

variable {sha3} in
/-- A first replica that returns on a ring of at most `hsdirSpreadFetch`
relays has selected every one of them. -/
theorem runReplica_covers_small_ring {ring : List HsdirEntry} {blindedKey : Bytes} {periodNum periodLength : Int}
    {fuel replica : Nat} {q : Pick} (hn : ring.length ≤ hsdirSpreadFetch)
    (h : runReplica sha3 ring blindedKey periodNum periodLength fuel ⟨[], [], 0, 0⟩ replica = .ok q) :
    ∀ e ∈ ring, e.relay ∈ q.selected :=
  pickLoop_covers_small_ring hn h

/-- A replica that starts with every relay of the ring selected returns for
no number of passes. -/
theorem runReplica_all_selected {ring : List HsdirEntry} (blindedKey : Bytes) (periodNum periodLength : Int)
    (fuel replica : Nat) {p : Pick} (hall : ∀ e ∈ ring, e.relay ∈ p.selected) :
    ∃ stop, runReplica sha3 ring blindedKey periodNum periodLength fuel p replica = .error stop :=
  pickLoop_all_selected fuel _ hall (by show 0 < 3; decide)

theorem buildRing_length (relays : List Relay) (srv : Bytes) (periodNum periodLength : Int) :
    (buildRing sha3 relays srv periodNum periodLength).length = (relays.filter Relay.onRing).length := by
  conv_rhs => rw [← List.enum_map_snd relays, List.filter_map, List.length_map]
  rw [buildRing, List.length_map]
  rfl

theorem sortRing_length (ring : List HsdirEntry) : (sortRing ring).length = ring.length :=
  (List.mergeSort_perm _ _).length_eq

/-- **`SelectHSDirs` on a small ring.** With one to three relays on the
ring and a shared random value, `SelectHSDirs` returns for no bound on the
passes of its loops: the first replica selects every relay of the ring,
and the second replica's loop then finds only selected relays, so it
neither counts nor breaks. -/
theorem selectHSDirs_small_ring_never_returns (consensus : List Relay) (blindedKey : Bytes)
    (periodNum periodLength : Int) (srv : Bytes) (hsrv : srv ≠ [])
    (h1 : 0 < (consensus.filter Relay.onRing).length) (h3 : (consensus.filter Relay.onRing).length ≤ 3)
    (fuel : Nat) : ∃ stop, selectHSDirs sha3 fuel consensus blindedKey periodNum periodLength srv = .error stop := by
  have hlen := buildRing_length sha3 consensus srv periodNum periodLength
  have hne : buildRing sha3 consensus srv periodNum periodLength ≠ [] := fun h => by
    rw [h, List.length_nil] at hlen
    omega
  have hn : (sortRing (buildRing sha3 consensus srv periodNum periodLength)).length ≤ hsdirSpreadFetch := by
    rw [sortRing_length, hlen]
    exact h3
  unfold selectHSDirs
  rw [if_neg hsrv, if_neg hne]
  dsimp only
  rw [show List.range' 1 hsdirNReplicas = [1, 2] from rfl]
  simp only [List.foldlM_cons, List.foldlM_nil]
  generalize sortRing (buildRing sha3 consensus srv periodNum periodLength) = ring at hn
  cases hr1 : runReplica sha3 ring blindedKey periodNum periodLength fuel ⟨[], [], 0, 0⟩ 1 with
  | error stop => exact ⟨stop, rfl⟩
  | ok p1 =>
    obtain ⟨stop, h2⟩ := runReplica_all_selected sha3 blindedKey periodNum periodLength fuel 2
      (runReplica_covers_small_ring hn hr1)
    refine ⟨stop, ?_⟩
    simp only [except_ok_bind, h2, except_error_bind]

/-- A consensus with one HSDir. -/
def loneHSDir : Relay := ⟨true, true, true, true, List.replicate 32 7⟩

/-- With one HSDir, `SelectHSDirs` has not returned after a thousand passes
of each replica's loop (nor after any other number). -/
theorem lone_hsdir_never_returns :
    [1] ≠ ([] : Bytes) ∧ 0 < ([loneHSDir].filter Relay.onRing).length ∧ ([loneHSDir].filter Relay.onRing).length ≤ 3 ∧
      ∃ stop, selectHSDirs (fun b => b.take 32) 1000 [loneHSDir] (List.replicate 32 9) 19000 1440 [1] = .error stop :=
  ⟨by decide, by decide, by decide,
    selectHSDirs_small_ring_never_returns (fun b => b.take 32) [loneHSDir] (List.replicate 32 9) 19000 1440 [1]
      (by decide) (by decide) (by decide) 1000⟩

end Select

/-! ## The sorted ring and `sort.Search` -/

/-- `sortRing` leaves every entry at or after the ones before it. -/
theorem sortRing_sorted (ring : List HsdirEntry) :
    (sortRing ring).Pairwise fun e f => 0 ≤ bytesCompare f.index e.index := by
  have h := @List.sorted_mergeSort HsdirEntry (fun e f => !decide (bytesCompare f.index e.index < 0))
    (fun a b c hab hbc => by
      simp only [Bool.not_eq_true', decide_eq_false_iff_not, not_lt] at hab hbc ⊢
      exact bytesCompare_nonneg_trans _ _ _ hbc hab)
    (fun a b => by
      have := bytesCompare_swap a.index b.index
      simp only [Bool.or_eq_true, Bool.not_eq_true', decide_eq_false_iff_not, not_lt]
      omega)
    ring
  exact h.imp fun hle => by simpa using hle

/-- `sort.Search` on a predicate that stays true once it holds: the first
index where it holds, `n` when there is none. -/
theorem search_eq {n : Nat} {f : Nat → Bool} {k : Nat}
    (hmono : ∀ a b, a ≤ b → b < n → f a = true → f b = true) (hk : k ≤ n)
    (hbefore : ∀ j < k, f j = false) (hat : k < n → f k = true) : search n f = k := by
  suffices h : ∀ i j, i ≤ k → k ≤ j → j ≤ n → search.go f i j = k from h 0 n (Nat.zero_le _) hk le_rfl
  intro i j
  induction i, j using search.go.induct f with
  | case1 i j hij m hf ih =>
    intro hi hj hjn
    have hm : m = (i + j) / 2 := rfl
    rw [search.go, if_pos hij, ← hm, if_pos hf]
    refine ih ?_ hj hjn
    by_contra hlt
    have := hmono k m (by omega) (by omega) (hat (by omega))
    simp_all
  | case2 i j hij m hf ih =>
    intro hi hj hjn
    have hm : m = (i + j) / 2 := rfl
    rw [search.go, if_pos hij, ← hm, if_neg hf]
    refine ih hi ?_ (by omega)
    by_contra hlt
    have := hbefore m (by omega)
    simp_all
  | case3 i j hij =>
    intro hi hj _
    rw [search.go, if_neg hij]
    omega

/-! ## The ring rule -/

/-- The first ring position whose index is at or after `svcIdx`; the
ring's length when there is none. -/
def firstAtOrAfter (ring : List HsdirEntry) (svcIdx : Bytes) : Nat :=
  ring.findIdx fun e => decide (0 ≤ bytesCompare e.index svcIdx)

/-- The relays met walking the ring upward from position `start`, wrapping
around. -/
def ringWalk (ring : List HsdirEntry) (start : Nat) : List Nat := (ring.rotate start).map (·.relay)

/-- One replica of the ring rule: the first `hsdirSpreadFetch` relays of
the walk not chosen before. -/
def replicaPicks (walk chosen : List Nat) : List Nat :=
  (walk.filter fun r => r ∉ chosen).take hsdirSpreadFetch

/-- The HSDir ring rule of rend-spec-v3 (section 2.2.3): replica 1, then
replica 2, walks the ring sorted by `relayIndex` from the first entry at or
after its `serviceIndex` and picks the first relays not chosen before. -/
def ringRule (sha3 : Bytes → Bytes) (consensus : List Relay) (blindedKey : Bytes)
    (periodNum periodLength : Int) (srv : Bytes) : List Nat :=
  let ring := sortRing (buildRing sha3 consensus srv periodNum periodLength)
  let walk (replica : Int) :=
    ringWalk ring (firstAtOrAfter ring (serviceIndex sha3 blindedKey replica periodLength periodNum))
  let first := replicaPicks (walk 1) []
  first ++ replicaPicks (walk 2) first

/-- On a sorted ring, the binary search of `SelectHSDirs` finds the first
entry at or after the service index. -/
theorem search_sorted_ring {ring : List HsdirEntry}
    (hs : ring.Pairwise fun e f => 0 ≤ bytesCompare f.index e.index) (svcIdx : Bytes) :
    search ring.length (fun i => match ring.get? i with
      | some e => decide (0 ≤ bytesCompare e.index svcIdx)
      | none => true) = firstAtOrAfter ring svcIdx := by
  have hget (i : Nat) (hi : i < ring.length) : ring.get? i = some ring[i] := by simp [hi]
  apply search_eq
  · intro a b hab hb ha
    rw [hget b hb]
    rw [hget a (by omega)] at ha
    simp only [decide_eq_true_eq] at ha ⊢
    rcases Nat.eq_or_lt_of_le hab with rfl | hlt
    · exact ha
    · exact bytesCompare_nonneg_trans _ _ _ (List.pairwise_iff_getElem.1 hs a b (by omega) hb hlt) ha
  · exact List.findIdx_le_length _
  · intro j hj
    have hjl : j < ring.length := Nat.lt_of_lt_of_le hj (List.findIdx_le_length _)
    rw [hget j hjl]
    exact List.not_of_lt_findIdx hj
  · intro hk
    rw [hget _ hk]
    exact List.findIdx_getElem (w := hk)

/-! ## A replica's loop walks the ring -/

section Walk

variable {ring : List HsdirEntry} {start : Nat}

@[simp] theorem length_ringWalk : (ringWalk ring start).length = ring.length := by
  simp [ringWalk]

theorem mem_ringWalk {r : Nat} : r ∈ ringWalk ring start ↔ r ∈ ring.map (·.relay) := by
  rw [ringWalk, List.map_rotate, List.mem_rotate]

theorem ringWalk_nodup (h : (ring.map (·.relay)).Nodup) : (ringWalk ring start).Nodup := by
  rw [ringWalk, List.map_rotate]
  exact List.nodup_rotate.2 h

/-- A walk over all of `chosen` and more: its relays not in `chosen` are
the walk less `chosen`. -/
theorem length_filter_not_chosen {W chosen : List Nat} (hW : W.Nodup) (hc : chosen.Nodup)
    (hsub : chosen ⊆ W) : (W.filter fun r => r ∉ chosen).length + chosen.length = W.length := by
  have hin : (W.filter fun r => r ∈ chosen).Perm chosen :=
    (List.perm_ext_iff_of_nodup (hW.filter _) hc).2 fun r => by
      simpa using fun h => hsub h
  have hsplit := @List.length_eq_length_filter_add _ W fun r => decide (r ∉ chosen)
  simp only [decide_not, Bool.not_not] at hsplit ⊢
  rw [hin.length_eq] at hsplit
  omega

/-- The relays not in `chosen` among the first `o` of the walk `W`. -/
def newAfter (W chosen : List Nat) (o : Nat) : List Nat := (W.take o).filter fun r => r ∉ chosen

theorem newAfter_prefix (W chosen : List Nat) (o : Nat) :
    newAfter W chosen o <+: W.filter fun r => r ∉ chosen :=
  (List.take_prefix o W).filter _

/-- After `o` passes the loop has met `o` relays, each either new or
chosen before. -/
theorem take_length_le {W : List Nat} (hW : W.Nodup) (chosen : List Nat) (o : Nat) :
    (W.take o).length ≤ (newAfter W chosen o).length + chosen.length := by
  have hsplit := @List.length_eq_length_filter_add _ (W.take o) fun r => decide (r ∉ chosen)
  have hin : ((W.take o).filter fun r => !decide (r ∉ chosen)).length ≤ chosen.length :=
    (List.subperm_of_subset ((hW.sublist (List.take_sublist o W)).filter _)
      fun r hr => by simpa using (List.mem_filter.1 hr).2).length_le
  rw [newAfter]
  omega

/-- One pass at offset `o`, with no `int` overflow: it looks at the `o`-th
relay of the walk. -/
theorem pickPass_walk {p : Pick} {o r : Nat} (hoff : p.offset = o)
    (hr : (ringWalk ring start)[o]? = some r) (hb : start + o < 2 ^ 63) (hb1 : o + 1 < 2 ^ 63) :
    pickPass ring start p = some
      (if r ∈ p.selected then .inr { p with offset := o + 1 }
      else if ring.length ≤ p.selected.length + 1 then
        .inl ⟨p.selected ++ [r], p.result ++ [r], p.count + 1, o + 1⟩
      else .inr ⟨p.selected ++ [r], p.result ++ [r], p.count + 1, o + 1⟩) := by
  have ho : o < ring.length := by simpa using (List.getElem?_eq_some_iff.1 hr).1
  have hat : ring[(o + start) % ring.length]?.map (·.relay) = some r := by
    rw [← List.getElem?_rotate ho, ← List.getElem?_map]; exact hr
  obtain ⟨e, he, rfl⟩ := Option.map_eq_some'.1 hat
  have hg1 : goInt ((start : Int) + o) = (start : Int) + o := goInt_of_range (by omega) (by omega)
  have hg2 : goInt ((o : Int) + 1) = (o : Int) + 1 := goInt_of_range (by omega) (by omega)
  have hpos : Int.tmod ((start : Int) + o) ring.length = ((o + start) % ring.length : Nat) := by
    rw [tmod_natCast_add, Nat.add_comm start o]
  unfold pickPass
  rw [hoff]
  simp only [hg1, hg2, hpos, goIndex_natCast, he, List.length_append, List.length_singleton]
  split_ifs <;> rfl

/-- A loop whose `count` has reached `hsdirSpreadFetch` returns at once. -/
theorem pickLoop_of_count {p : Pick} (hc : ¬ p.count < hsdirSpreadFetch) (fuel : Nat) :
    pickLoop ring start fuel p = .ok p := by
  cases fuel <;> simp [pickLoop, hc]

/-- **A replica's loop walks the ring.** Started with `chosen` selected and
having met the new relays `newAfter W chosen o` in its first `o` passes,
a loop with enough passes left returns the first `hsdirSpreadFetch` relays
of the walk not in `chosen`, appended to `selected` and `result`. -/
theorem pickLoop_walk (chosen res0 : List Nat) (hnd : (ring.map (·.relay)).Nodup)
    (hb : start + 5 < 2 ^ 63) (hc : chosen.Nodup) (hsub : chosen ⊆ ring.map (·.relay))
    (h3 : chosen.length ≤ 3) (fuel o : Nat)
    (hF : (newAfter (ringWalk ring start) chosen o).length < hsdirSpreadFetch)
    (hlt : chosen.length + (newAfter (ringWalk ring start) chosen o).length < ring.length)
    (hfuel : chosen.length + hsdirSpreadFetch ≤ o + fuel) :
    ∃ off, pickLoop ring start fuel
        ⟨chosen ++ newAfter (ringWalk ring start) chosen o, res0 ++ newAfter (ringWalk ring start) chosen o,
          (newAfter (ringWalk ring start) chosen o).length, o⟩ =
      .ok ⟨chosen ++ replicaPicks (ringWalk ring start) chosen,
        res0 ++ replicaPicks (ringWalk ring start) chosen,
        (replicaPicks (ringWalk ring start) chosen).length, off⟩ := by
  generalize hW : ringWalk ring start = W at hF hlt ⊢
  have hWnd : W.Nodup := hW ▸ ringWalk_nodup hnd
  have hWlen : W.length = ring.length := hW ▸ length_ringWalk
  have hsubW : chosen ⊆ W := fun r h => hW ▸ mem_ringWalk.2 (hsub h)
  have hall := length_filter_not_chosen hWnd hc hsubW
  have hS : hsdirSpreadFetch = 3 := rfl
  rw [hS] at hF hfuel
  induction fuel generalizing o with
  | zero =>
    have := take_length_le hWnd chosen o
    rw [List.length_take] at this
    omega
  | succ fuel ih =>
    have hmet := take_length_le hWnd chosen o
    rw [List.length_take] at hmet
    have ho : o < W.length := by omega
    have hr : W[o]? = some W[o] := List.getElem?_eq_getElem ho
    have hrF : W[o] ∉ newAfter W chosen o := fun h => by
      have hmem := (List.mem_filter.1 h).1
      have hsplit := List.take_append_drop o W
      rw [List.drop_eq_getElem_cons ho] at hsplit
      rw [← hsplit] at hWnd
      exact List.disjoint_of_nodup_append hWnd hmem (List.mem_cons_self _ _)
    have hnext : newAfter W chosen (o + 1) =
        newAfter W chosen o ++ if W[o] ∉ chosen then [W[o]] else [] := by
      simp only [newAfter, List.take_succ, hr, Option.toList_some, List.filter_append, List.filter_cons,
        List.filter_nil, decide_eq_true_eq]
    rw [pickLoop]
    simp only [hS, hF, if_true]
    rw [pickPass_walk rfl (by rw [hW]; exact hr) (by omega) (by omega)]
    dsimp only
    have hpre := newAfter_prefix W chosen (o + 1)
    by_cases hr0 : W[o] ∈ chosen
    · -- a relay chosen before: the pass goes round again
      have hsame : newAfter W chosen (o + 1) = newAfter W chosen o := by
        rw [hnext, if_neg (not_not.2 hr0), List.append_nil]
      rw [if_pos (List.mem_append_left _ hr0)]
      obtain ⟨off, h⟩ := ih (o + 1) (by omega) (by rwa [hsame]) (by rwa [hsame])
      rw [hsame] at h
      push_cast at h
      exact ⟨off, h⟩
    have hnew : newAfter W chosen (o + 1) = newAfter W chosen o ++ [W[o]] := by rw [hnext, if_pos hr0]
    rw [if_neg (by simp [hr0, hrF])]
    split_ifs with hfull
    · -- every relay of the ring is selected: the loop breaks
      have hlen : (W.filter fun r => r ∉ chosen).length ≤ (newAfter W chosen (o + 1)).length := by
        rw [hnew, List.length_append, List.length_singleton]
        simp only [List.length_append] at hfull
        omega
      have hpick : replicaPicks W chosen = newAfter W chosen (o + 1) := by
        rw [replicaPicks, ← hpre.eq_of_length_le hlen]
        exact List.take_of_length_le (by rw [hS, hnew, List.length_append, List.length_singleton]; omega)
      exact ⟨o + 1, by rw [hpick, hnew]; simp⟩
    by_cases hc3 : (newAfter W chosen (o + 1)).length < 3
    · -- a new relay, fewer than three so far: the loop goes on
      obtain ⟨off, h⟩ := ih (o + 1) (by omega) hc3 (by
        rw [hnew, List.length_append, List.length_singleton]
        simp only [List.length_append, not_le] at hfull
        omega)
      rw [hnew] at h
      push_cast at h
      exact ⟨off, by simpa using h⟩
    · -- the third new relay: `count` reaches `hsdirSpreadFetch`
      have h3new : (newAfter W chosen (o + 1)).length = 3 := by
        rw [hnew, List.length_append, List.length_singleton] at hc3 ⊢
        omega
      have hpick : replicaPicks W chosen = newAfter W chosen (o + 1) := by
        rw [replicaPicks, hS, List.prefix_iff_eq_take.1 hpre, h3new]
      refine ⟨o + 1, ?_⟩
      dsimp only
      rw [hnew, List.length_append, List.length_singleton] at h3new
      rw [pickLoop_of_count (show ¬ (newAfter W chosen o).length + 1 < hsdirSpreadFetch by omega)]
      rw [hpick, hnew]
      simp

end Walk

/-! ## `SelectHSDirs` follows the ring rule on rings of four relays or more -/

section RingRule

variable (sha3 : Bytes → Bytes)

/-- The ring holds each relay once, by its position in the consensus. -/
theorem buildRing_relays_nodup (relays : List Relay) (srv : Bytes) (periodNum periodLength : Int) :
    ((buildRing sha3 relays srv periodNum periodLength).map (·.relay)).Nodup := by
  rw [buildRing, List.map_map]
  have h := ((List.filter_sublist (p := fun e : Nat × Relay => e.2.onRing) relays.enum).map Prod.fst)
  rw [List.enum_map_fst] at h
  exact (List.nodup_range _).sublist h

/-- The relays on the ring are the eligible ones of the consensus. -/
theorem mem_buildRing_relays {relays : List Relay} {srv : Bytes} {periodNum periodLength : Int} {i : Nat}
    (h : i ∈ (buildRing sha3 relays srv periodNum periodLength).map (·.relay)) :
    ∃ r, relays[i]? = some r ∧ r.onRing = true := by
  simp only [buildRing, List.map_map, List.mem_map, List.mem_filter, Function.comp] at h
  obtain ⟨⟨j, r⟩, ⟨hmem, hon⟩, rfl⟩ := h
  exact ⟨r, List.mem_enum_iff_getElem?.1 hmem, hon⟩

/-- A replica run from a `Pick` holding `chosen` in both lists: the first
relays of its walk not in `chosen` are appended. -/
theorem runReplica_walk {ring : List HsdirEntry} {blindedKey : Bytes} {periodNum periodLength : Int}
    (hs : ring.Pairwise fun e f => 0 ≤ bytesCompare f.index e.index)
    (hnd : (ring.map (·.relay)).Nodup) (hN : ring.length + 5 < 2 ^ 63) (chosen : List Nat)
    (hc : chosen.Nodup) (hsub : chosen ⊆ ring.map (·.relay)) (h3 : chosen.length ≤ 3)
    (hlt : chosen.length < ring.length) {fuel : Nat} (hfuel : chosen.length + hsdirSpreadFetch ≤ fuel)
    (count : Nat) (offset : Int) (replica : Nat) :
    ∃ q, runReplica sha3 ring blindedKey periodNum periodLength fuel ⟨chosen, chosen, count, offset⟩
        replica = .ok q ∧
      q.result = chosen ++ replicaPicks (ringWalk ring (firstAtOrAfter ring
        (serviceIndex sha3 blindedKey replica periodLength periodNum))) chosen ∧ q.selected = q.result := by
  rw [runReplica, search_sorted_ring hs]
  have hstart : firstAtOrAfter ring (serviceIndex sha3 blindedKey replica periodLength periodNum) ≤
      ring.length := List.findIdx_le_length _
  generalize firstAtOrAfter ring (serviceIndex sha3 blindedKey replica periodLength periodNum) = start
    at hstart ⊢
  have hF0 : newAfter (ringWalk ring start) chosen 0 = [] := rfl
  obtain ⟨off, h⟩ := @pickLoop_walk ring start chosen chosen hnd (by omega) hc hsub h3 fuel 0
    (by rw [hF0]; decide) (by rw [hF0]; simpa using hlt) (by omega)
  rw [hF0, List.append_nil, List.length_nil] at h
  exact ⟨_, h, rfl, rfl⟩

theorem replicaPicks_sublist (W chosen : List Nat) : (replicaPicks W chosen).Sublist W :=
  (List.take_sublist _ _).trans (List.filter_sublist _)

theorem not_mem_of_mem_replicaPicks {W chosen : List Nat} {r : Nat} (h : r ∈ replicaPicks W chosen) :
    r ∉ chosen := by
  simpa using (List.mem_filter.1 (List.mem_of_mem_take h)).2

/-- A replica picks `hsdirSpreadFetch` relays, or all that are left. -/
theorem length_replicaPicks {W chosen : List Nat} (hW : W.Nodup) (hc : chosen.Nodup) (hsub : chosen ⊆ W) :
    (replicaPicks W chosen).length = min hsdirSpreadFetch (W.length - chosen.length) := by
  have := length_filter_not_chosen hW hc hsub
  rw [replicaPicks, List.length_take]
  omega

/-- **`SelectHSDirs` implements the HSDir ring rule.** With a shared random
value and at least four eligible relays, fewer than `2^63 - 5` of them so
that `start + offset` never overflows `int`, six passes of each replica's
loop are enough and `SelectHSDirs` returns `ringRule`: replica 1 the first
three relays of its walk, replica 2 the first three not taken by replica 1,
or as many as are left. That is `min 6 N` relays, each once, each eligible. -/
theorem selectHSDirs_ring_rule (consensus : List Relay) (blindedKey : Bytes)
    (periodNum periodLength : Int) (srv : Bytes) (hsrv : srv ≠ [])
    (h4 : 4 ≤ (consensus.filter Relay.onRing).length)
    (hN : (consensus.filter Relay.onRing).length + 5 < 2 ^ 63) (fuel : Nat) (hfuel : 6 ≤ fuel) :
    selectHSDirs sha3 fuel consensus blindedKey periodNum periodLength srv =
        .ok (.ok (ringRule sha3 consensus blindedKey periodNum periodLength srv)) ∧
      (ringRule sha3 consensus blindedKey periodNum periodLength srv).length =
        min 6 (consensus.filter Relay.onRing).length ∧
      (ringRule sha3 consensus blindedKey periodNum periodLength srv).Nodup ∧
      ∀ i ∈ ringRule sha3 consensus blindedKey periodNum periodLength srv,
        ∃ r, consensus[i]? = some r ∧ r.onRing = true := by
  have hlen := buildRing_length sha3 consensus srv periodNum periodLength
  have hne : buildRing sha3 consensus srv periodNum periodLength ≠ [] := fun h => by
    rw [h, List.length_nil] at hlen
    omega
  have hperm := (List.mergeSort_perm (buildRing sha3 consensus srv periodNum periodLength)
    fun e f => !decide (bytesCompare f.index e.index < 0)).map (·.relay)
  have hnd : ((sortRing (buildRing sha3 consensus srv periodNum periodLength)).map (·.relay)).Nodup :=
    hperm.nodup_iff.2 (buildRing_relays_nodup sha3 consensus srv periodNum periodLength)
  have hmem (i : Nat) (hi : i ∈ (sortRing (buildRing sha3 consensus srv periodNum periodLength)).map
      (·.relay)) : ∃ r, consensus[i]? = some r ∧ r.onRing = true :=
    mem_buildRing_relays sha3 (hperm.subset hi)
  have hrl : (sortRing (buildRing sha3 consensus srv periodNum periodLength)).length =
      (consensus.filter Relay.onRing).length := by
    rw [sortRing_length, hlen]
  have hs := sortRing_sorted (buildRing sha3 consensus srv periodNum periodLength)
  unfold selectHSDirs ringRule
  rw [if_neg hsrv, if_neg hne]
  dsimp only
  rw [show List.range' 1 hsdirNReplicas = [1, 2] from rfl]
  simp only [List.foldlM_cons, List.foldlM_nil]
  generalize sortRing (buildRing sha3 consensus srv periodNum periodLength) = ring at hnd hmem hrl hs
  rw [← hrl] at h4 hN ⊢
  obtain ⟨⟨sel1, res1, c1, o1⟩, hq1, hr1, hs1⟩ := @runReplica_walk sha3 ring blindedKey periodNum
    periodLength hs hnd hN [] List.nodup_nil (List.nil_subset _) (by simp) (by simp; omega) fuel
    (by show 0 + 3 ≤ fuel; omega) 0 0 1
  dsimp only at hr1 hs1
  subst hs1 hr1
  simp only [Nat.cast_one, List.nil_append] at hq1
  generalize firstAtOrAfter ring (serviceIndex sha3 blindedKey 1 periodLength periodNum) = s1 at hq1 ⊢
  have hW1nd : (ringWalk ring s1).Nodup := ringWalk_nodup hnd
  have hT1len : (replicaPicks (ringWalk ring s1) []).length = 3 := by
    rw [length_replicaPicks hW1nd List.nodup_nil (List.nil_subset _), length_ringWalk]
    show min 3 (ring.length - 0) = 3
    omega
  have hT1nd : (replicaPicks (ringWalk ring s1) []).Nodup := hW1nd.sublist (replicaPicks_sublist _ _)
  have hT1sub : replicaPicks (ringWalk ring s1) [] ⊆ ring.map (·.relay) := fun r h =>
    mem_ringWalk.1 ((replicaPicks_sublist _ _).subset h)
  obtain ⟨⟨sel2, res2, c2, o2⟩, hq2, hr2, hs2⟩ := @runReplica_walk sha3 ring blindedKey periodNum
    periodLength hs hnd hN _ hT1nd hT1sub (by omega) (by omega) fuel
    (by rw [hT1len]; show 3 + 3 ≤ fuel; omega) c1 o1 2
  dsimp only at hr2 hs2
  subst hs2 hr2
  simp only [Nat.cast_ofNat] at hq2
  generalize firstAtOrAfter ring (serviceIndex sha3 blindedKey 2 periodLength periodNum) = s2 at hq2 ⊢
  have hW2nd : (ringWalk ring s2).Nodup := ringWalk_nodup hnd
  rw [hq1, except_ok_bind, hq2, except_ok_bind]
  have hT2len := length_replicaPicks hW2nd hT1nd fun r h => mem_ringWalk.2 (hT1sub h)
  rw [length_ringWalk, hT1len] at hT2len
  refine ⟨?_, ?_, ?_, ?_⟩
  · rw [except_pure_eq]
    dsimp only
    rw [if_neg fun h => by simpa [hT1len] using congrArg List.length h]
  · rw [List.length_append, hT1len, hT2len]
    show 3 + min 3 (ring.length - 3) = min 6 ring.length
    omega
  · exact List.nodup_append.2 ⟨hT1nd, hW2nd.sublist (replicaPicks_sublist _ _),
      fun r h1 h2 => not_mem_of_mem_replicaPicks h2 h1⟩
  · intro i hi
    rcases List.mem_append.1 hi with h | h
    · exact hmem i (hT1sub h)
    · exact hmem i (mem_ringWalk.1 ((replicaPicks_sublist _ _).subset h))

/-- A consensus of four HSDirs. -/
def fourHSDirs : List Relay :=
  (List.range 4).map fun i => ⟨true, true, true, true, List.replicate 32 (UInt8.ofNat i)⟩

/-- With four HSDirs, six passes of each loop are enough: `SelectHSDirs`
returns the four relays the ring rule picks. -/
theorem four_hsdirs_follow_ring_rule :
    [1] ≠ ([] : Bytes) ∧ 4 ≤ (fourHSDirs.filter Relay.onRing).length ∧
      (fourHSDirs.filter Relay.onRing).length + 5 < 2 ^ 63 ∧
      selectHSDirs (fun b => b.take 32) 6 fourHSDirs (List.replicate 32 9) 19000 1440 [1] =
        .ok (.ok (ringRule (fun b => b.take 32) fourHSDirs (List.replicate 32 9) 19000 1440 [1])) ∧
      (ringRule (fun b => b.take 32) fourHSDirs (List.replicate 32 9) 19000 1440 [1]).length = 4 :=
  have h := selectHSDirs_ring_rule (fun b => b.take 32) fourHSDirs (List.replicate 32 9) 19000 1440 [1]
    (by decide) (by decide) (by decide) 6 le_rfl
  ⟨by decide, by decide, by decide, h.1, h.2.1⟩

end RingRule

end TorGo.L5
