import TorGo.L5Onion.HsDir
import TorGo.L5Onion.LinkSpec
import Mathlib.Algebra.Order.BigOperators.Group.List
import Mathlib.Algebra.Ring.Int.Defs

/-!
# Path selection (`pathselect` package)

`SelectPath` picks an exit, then a guard, then a middle relay from the
consensus. Each of `SelectExit`, `SelectGuard` and `SelectMiddle` filters
the relays by their flags, their ntor key, their identity and the `/16`
subnet of their address against the relays already chosen, weighs the
candidates by bandwidth times a consensus weight, and draws one with
`weightedRandom`. `weightedRandom` clamps negative weights to zero, draws
`r` in `[0, total)` with `crypto/rand` and returns the first index whose
running total passes `r`, with `len(weights) - 1` after the loop as a
fallback; when the total is not positive it draws the index uniformly.

`crypto/rand` is a parameter `rand : σ → Int → Except String Int × σ`, the
outcome of `rand.Int(rand.Reader, max)` on a state of the world, so that the
results hold for every outcome of the draws. Go's `int64` arithmetic is
`goInt`, and `candidates[idx]` is `goIndex`, whose `none` is the panic of an
index out of range. `net.ParseIP` and `To4` are those of `IPText`.

Results:
* `weightedRandom_picks_proportionally`: with a positive total below `2^63`
  and a draw `r` in `[0, total)`, `weightedRandom` returns exactly the index
  whose clamped running totals enclose `r`; every index is returned for as
  many values of `r` as its clamped weight, never with a weight that is not
  positive, and the fallback after the loop is never reached;
* `selectPath_constraints`: a path `SelectPath` returns has an exit, a guard
  and a middle relay with the flags and the ntor key their role asks for,
  three distinct identities and three distinct `/16` subnets, for every
  consensus and every outcome of the draws.
-/
namespace TorGo.L5.PathSelect

open TorGo.L1

/-! ## Relays and the consensus -/

/-- `directory.RelayFlags`: the flags path selection reads. -/
structure RelayFlags where
  badExit : Bool
  exit : Bool
  fast : Bool
  guard : Bool
  running : Bool
  valid : Bool
  deriving DecidableEq, Repr

/-- The fields of `directory.Relay` that path selection reads. -/
structure Relay where
  identity : Bytes
  address : String
  flags : RelayFlags
  bandwidth : Int
  hasNtorKey : Bool
  deriving DecidableEq, Repr

/-- The fields of `directory.Consensus` that path selection reads: the
relays and the map `BandwidthWeights`. -/
structure Consensus where
  relays : List Relay
  bandwidthWeights : String → Option Int

/-- `getWeight(c, key, defaultVal)`. -/
def getWeight (c : Consensus) (key : String) (defaultVal : Int) : Int := (c.bandwidthWeights key).getD defaultVal

/-- `r.Bandwidth*w/10000` in `int64`. -/
def scaledWeight (bandwidth w : Int) : Int := (goInt (bandwidth * w)).tdiv 10000

/-- `subnet16(addr)`: the first two bytes of an IPv4 address as `"a.b"`, and
`""` for anything else. -/
def subnet16 (N : IPText) (addr : String) : String :=
  match N.parseIPv4 addr with
  | some ip4 => toString (ip4.getD 0 0) ++ "." ++ toString (ip4.getD 1 0)
  | none => ""

/-! ## `weightedRandom` -/

section Weighted

variable {σ : Type} (rand : σ → Int → Except String Int × σ)

/-- The loop `for i, w := range weights` after the draw `r`, from index `i`
with the running total `cumulative`: the first index whose running total
passes `r`, or `none` when the loop ends. -/
def cumulativeLoop (r : Int) : List Int → Nat → Int → Option Nat
  | [], _, _ => none
  | w :: ws, i, cumulative =>
    let cumulative := goInt (cumulative + max w 0)
    if r < cumulative then some i else cumulativeLoop r ws (i + 1) cumulative

/-- The index `weightedRandom` returns for the draw `r`: the loop's, or
`len(weights) - 1` after it. -/
def cumulativePick (r : Int) (weights : List Int) : Int :=
  match cumulativeLoop r weights 0 0 with
  | some i => i
  | none => weights.length - 1

/-- `weightedRandom(weights)`. -/
def weightedRandom (weights : List Int) (s : σ) : Except String Int × σ :=
  if weights = [] then (.error "empty weights", s) else
  let total := weights.foldl (fun total w => goInt (total + max w 0)) 0
  if total ≤ 0 then
    match rand s weights.length with
    | (.error e, s) => (.error ("crypto/rand: " ++ e), s)
    | (.ok n, s) => (.ok n, s)
  else
    match rand s total with
    | (.error e, s) => (.error ("crypto/rand: " ++ e), s)
    | (.ok r, s) => (.ok (cumulativePick r weights), s)

/-- The sum of the first `i` weights, each clamped at zero. -/
def clampedPrefix (weights : List Int) (i : Nat) : Int := ((weights.take i).map (max · 0)).sum

theorem clamped_nonneg {ws : List Int} {v : Int} (h : v ∈ ws.map (max · 0)) : 0 ≤ v := by
  obtain ⟨w, -, rfl⟩ := List.mem_map.1 h
  exact le_max_right w 0

theorem sum_clamped_nonneg (ws : List Int) : 0 ≤ (ws.map (max · 0)).sum :=
  List.sum_nonneg fun _ => clamped_nonneg

theorem clampedPrefix_nonneg (weights : List Int) (i : Nat) : 0 ≤ clampedPrefix weights i :=
  sum_clamped_nonneg _

theorem clampedPrefix_mono (weights : List Int) {i j : Nat} (h : i ≤ j) :
    clampedPrefix weights i ≤ clampedPrefix weights j :=
  ((List.take_sublist_take_left weights h).map _).sum_le_sum fun _ hw =>
    clamped_nonneg (List.map_subset _ (List.take_subset _ _) hw)

theorem clampedPrefix_cons_succ (w : Int) (ws : List Int) (k : Nat) :
    clampedPrefix (w :: ws) (k + 1) = max w 0 + clampedPrefix ws k := by
  simp [clampedPrefix]

theorem clampedPrefix_succ (weights : List Int) (i : Nat) :
    clampedPrefix weights (i + 1) = clampedPrefix weights i + max (weights.getD i 0) 0 := by
  induction weights generalizing i with
  | nil => simp [clampedPrefix]
  | cons w ws ih =>
    cases i with
    | zero => simp [clampedPrefix]
    | succ i => rw [clampedPrefix_cons_succ, clampedPrefix_cons_succ, ih]; simp; omega

theorem clampedPrefix_length (weights : List Int) :
    clampedPrefix weights weights.length = (weights.map (max · 0)).sum := by
  rw [clampedPrefix, List.take_length]

/-- Without wrap-around, the running total is the sum of the clamped weights. -/
theorem foldl_total : ∀ (ws : List Int) (c : Int), 0 ≤ c → c + (ws.map (max · 0)).sum < 2 ^ 63 →
    ws.foldl (fun total w => goInt (total + max w 0)) c = c + (ws.map (max · 0)).sum
  | [], c, _, _ => by simp
  | w :: ws, c, h0, h1 => by
    have hs := sum_clamped_nonneg ws
    have hw := le_max_right w 0
    simp only [List.map_cons, List.sum_cons] at h1 ⊢
    rw [List.foldl_cons, goInt_of_range (by omega) (by omega),
      foldl_total ws _ (by omega) (by omega)]
    omega

/-- The loop, from index `i` and running total `c`, returns the first index
whose clamped running total passes `r`, when `r` lies between `c` and the
full total. -/
theorem cumulativeLoop_spec (r : Int) : ∀ (ws : List Int) (i : Nat) (c : Int), 0 ≤ c →
    c + (ws.map (max · 0)).sum < 2 ^ 63 → c ≤ r → r < c + (ws.map (max · 0)).sum →
    ∃ k < ws.length, cumulativeLoop r ws i c = some (i + k) ∧
      c + clampedPrefix ws k ≤ r ∧ r < c + clampedPrefix ws (k + 1)
  | [], _, _, _, _, hc, hr => by simp at hr; omega
  | w :: ws, i, c, h0, h1, hc, hr => by
    have hs := sum_clamped_nonneg ws
    have hw := le_max_right w 0
    simp only [List.map_cons, List.sum_cons] at h1 hr
    rw [cumulativeLoop, goInt_of_range (by omega) (by omega)]
    split_ifs with hlt
    · exact ⟨0, by simp, by rw [Nat.add_zero], by simp [clampedPrefix]; omega, by simp [clampedPrefix]; omega⟩
    · obtain ⟨k, hk, hl, h2, h3⟩ := cumulativeLoop_spec r ws (i + 1) (c + max w 0) (by omega) (by omega)
        (by omega) (by omega)
      refine ⟨k + 1, by simp; omega, by rw [hl]; congr 1; omega, ?_, ?_⟩ <;>
        rw [clampedPrefix_cons_succ] <;> omega

/-- Clamped running totals enclose a value for at most one index. -/
theorem clampedPrefix_unique (weights : List Int) {r : Int} {i j : Nat}
    (hi : clampedPrefix weights i ≤ r ∧ r < clampedPrefix weights (i + 1))
    (hj : clampedPrefix weights j ≤ r ∧ r < clampedPrefix weights (j + 1)) : i = j := by
  by_contra hne
  rcases Nat.lt_or_gt_of_ne hne with h | h
  · have := clampedPrefix_mono weights (show i + 1 ≤ j by omega)
    omega
  · have := clampedPrefix_mono weights (show j + 1 ≤ i by omega)
    omega

/-- The index of the draw `r`, for `r` in `[0, total)`: the one whose clamped
running totals enclose `r`, reached inside the loop. -/
theorem cumulativePick_iff {weights : List Int} (hS : (weights.map (max · 0)).sum < 2 ^ 63) {r : Int}
    (h0 : 0 ≤ r) (hr : r < (weights.map (max · 0)).sum) :
    (cumulativeLoop r weights 0 0).isSome ∧ ∀ i : Nat, cumulativePick r weights = i ↔
      i < weights.length ∧ clampedPrefix weights i ≤ r ∧ r < clampedPrefix weights (i + 1) := by
  obtain ⟨k, hk, hl, h1, h2⟩ := cumulativeLoop_spec r weights 0 0 le_rfl (by omega) h0 (by omega)
  rw [Int.zero_add] at h1 h2
  refine ⟨by rw [hl]; rfl, fun i => ⟨fun hi => ?_, fun ⟨_, hi⟩ => ?_⟩⟩
  · simp only [cumulativePick, hl, Nat.zero_add, Int.ofNat_inj] at hi
    subst hi
    exact ⟨hk, h1, h2⟩
  · rw [cumulativePick, hl, Nat.zero_add, clampedPrefix_unique weights ⟨h1, h2⟩ hi]

/-- The draws in `[0, n)` that lie in `[a, b)`. -/
theorem count_range_between {a b : Int} (ha : 0 ≤ a) (hab : a ≤ b) : ∀ n : Nat,
    ((List.range n).filter fun r : Nat => decide (a ≤ r ∧ (r : Int) < b)).length = (min b n - min a n).toNat
  | 0 => by simp; omega
  | n + 1 => by
    rw [List.range_succ, List.filter_append, List.length_append, count_range_between ha hab n]
    by_cases h : a ≤ n ∧ (n : Int) < b
    · simp [h]
      omega
    · simp [h]
      omega

/-- With a positive clamped total below `2^63`, `weightedRandom` draws `r` in
`[0, total)` and returns the index of the draw. -/
theorem weightedRandom_eq {weights : List Int} (hpos : 0 < (weights.map (max · 0)).sum)
    (hS : (weights.map (max · 0)).sum < 2 ^ 63) (s : σ) :
    weightedRandom rand weights s = match rand s (weights.map (max · 0)).sum with
      | (.error e, s) => (.error ("crypto/rand: " ++ e), s)
      | (.ok r, s) => (.ok (cumulativePick r weights), s) := by
  have hne : weights ≠ [] := by rintro rfl; simp at hpos
  have ht := foldl_total weights 0 le_rfl (by omega)
  rw [Int.zero_add] at ht
  rw [weightedRandom, if_neg hne]
  dsimp only
  rw [ht, if_neg (by omega)]

/-- **`weightedRandom` picks in proportion to the clamped weights.** For
weights whose clamped total `S` is positive (so the list is not empty) and
below `2^63`, and a draw `r` in `[0, S)`: `weightedRandom` returns the index
whose clamped running totals enclose `r` and no other; the loop finds it, so
the fallback after the loop is never reached; an index whose weight is not
positive is never returned; and each index is returned for exactly as many
of the `S` draws as its clamped weight. -/
theorem weightedRandom_picks_proportionally {weights : List Int} (hpos : 0 < (weights.map (max · 0)).sum)
    (hS : (weights.map (max · 0)).sum < 2 ^ 63) {s s' : σ} {r : Int}
    (hrand : rand s (weights.map (max · 0)).sum = (.ok r, s')) (h0 : 0 ≤ r) (hr : r < (weights.map (max · 0)).sum) :
    (∀ i : Nat, weightedRandom rand weights s = (.ok i, s') ↔
      i < weights.length ∧ clampedPrefix weights i ≤ r ∧ r < clampedPrefix weights (i + 1)) ∧
    (cumulativeLoop r weights 0 0).isSome ∧
    (∀ i : Nat, weightedRandom rand weights s = (.ok i, s') → 0 < weights.getD i 0) ∧
    ∀ i < weights.length, ((List.range (weights.map (max · 0)).sum.toNat).filter
      fun v : Nat => cumulativePick v weights = i).length = (max (weights.getD i 0) 0).toNat := by
  have hw : ∀ i : Nat, weightedRandom rand weights s = (.ok i, s') ↔ cumulativePick r weights = i := by
    intro i
    rw [weightedRandom_eq rand hpos hS, hrand]
    simp only [Prod.mk.injEq, Except.ok.injEq, and_true]
  obtain ⟨hsome, hpick⟩ := cumulativePick_iff hS h0 hr
  refine ⟨fun i => (hw i).trans (hpick i), hsome, fun i hi => ?_, fun i hi => ?_⟩
  · obtain ⟨-, h1, h2⟩ := (hpick i).1 ((hw i).1 hi)
    rw [clampedPrefix_succ] at h2
    omega
  · have hle := clampedPrefix_mono weights (show i + 1 ≤ weights.length by omega)
    rw [clampedPrefix_length] at hle
    have hi0 := clampedPrefix_nonneg weights i
    have hf : (List.range (weights.map (max · 0)).sum.toNat).filter
        (fun v : Nat => decide (cumulativePick v weights = i)) =
        (List.range (weights.map (max · 0)).sum.toNat).filter
          (fun v : Nat => decide (clampedPrefix weights i ≤ v ∧ (v : Int) < clampedPrefix weights (i + 1))) :=
      List.filter_congr fun v hv => decide_eq_decide.2 <| by
        rw [(cumulativePick_iff hS (Int.ofNat_nonneg v) (by simp at hv; omega)).2 i]
        exact and_iff_right hi
    rw [hf, count_range_between hi0 (clampedPrefix_mono weights (Nat.le_succ i))]
    rw [clampedPrefix_succ] at hle ⊢
    omega

end Weighted

/-- Weights 3, -2 and 5 with the draw 4: the third index, the only one whose
clamped running totals (3, 3, 8) enclose 4. -/
theorem three_weights_pick :
    0 < ([3, -2, 5].map (max · 0)).sum ∧ ([3, -2, 5].map (max · 0)).sum < 2 ^ 63 ∧
      (fun (_ : Unit) (_ : Int) => ((.ok 4 : Except String Int), ())) () ([3, -2, 5].map (max · 0)).sum =
        (.ok 4, ()) ∧ (0 : Int) ≤ 4 ∧ (4 : Int) < ([3, -2, 5].map (max · 0)).sum ∧
      ((∀ i : Nat, weightedRandom (fun (_ : Unit) (_ : Int) => ((.ok 4 : Except String Int), ())) [3, -2, 5] () =
          (.ok i, ()) ↔ i < [3, -2, 5].length ∧ clampedPrefix [3, -2, 5] i ≤ 4 ∧ 4 < clampedPrefix [3, -2, 5] (i + 1)) ∧
        (cumulativeLoop 4 [3, -2, 5] 0 0).isSome ∧
        (∀ i : Nat, weightedRandom (fun (_ : Unit) (_ : Int) => ((.ok 4 : Except String Int), ())) [3, -2, 5] () =
          (.ok i, ()) → 0 < [3, -2, 5].getD i 0) ∧
        ∀ i < [3, -2, 5].length, ((List.range ([3, -2, 5].map (max · 0)).sum.toNat).filter
          fun v : Nat => cumulativePick v [3, -2, 5] = i).length = (max ([3, -2, 5].getD i 0) 0).toNat) :=
  ⟨by decide, by decide, rfl, by decide, by decide,
    weightedRandom_picks_proportionally (fun (_ : Unit) (_ : Int) => ((.ok 4 : Except String Int), ()))
      (by decide) (by decide) rfl (by decide) (by decide)⟩

/-! ## Choosing the three relays -/

/-- A path: guard, middle and exit. -/
structure Path where
  guard : Relay
  middle : Relay
  exit : Relay
  deriving DecidableEq, Repr

/-- The relays `SelectExit` considers. -/
def Relay.exitOk (r : Relay) : Bool :=
  r.flags.exit && !r.flags.badExit && r.flags.running && r.flags.valid && r.hasNtorKey

/-- The relays `SelectGuard` considers once `exit` is chosen. -/
def Relay.guardOk (N : IPText) (exit r : Relay) : Bool :=
  r.flags.guard && r.flags.fast && r.flags.running && r.flags.valid && r.hasNtorKey &&
    subnet16 N r.address != subnet16 N exit.address && r.identity != exit.identity

/-- The relays `SelectMiddle` considers once `guard` and `exit` are chosen. -/
def Relay.middleOk (N : IPText) (guard exit r : Relay) : Bool :=
  r.flags.fast && r.flags.running && r.flags.valid && r.hasNtorKey &&
    !(subnet16 N r.address == subnet16 N guard.address || subnet16 N r.address == subnet16 N exit.address) &&
    !(r.identity == guard.identity || r.identity == exit.identity)

section Select

variable {σ : Type} (N : IPText) (rand : σ → Int → Except String Int × σ)

/-- The common shape of `SelectExit`, `SelectGuard` and `SelectMiddle`: the
relays `ok` admits, in consensus order, weighed by `weight`, and
`candidates[idx]` for the index `weightedRandom` draws; `none` is the panic
of an index out of range. -/
def selectWith (ok : Relay → Bool) (weight : Relay → Int) (noneFound : String) (c : Consensus) (s : σ) :
    Option (Except String Relay × σ) :=
  let candidates := c.relays.filter ok
  if candidates = [] then some (.error noneFound, s) else
  match weightedRandom rand (candidates.map weight) s with
  | (.error e, s) => some (.error e, s)
  | (.ok idx, s) => (goIndex candidates idx).map fun r => (.ok r, s)

/-- `SelectExit`. -/
def selectExit (c : Consensus) (s : σ) : Option (Except String Relay × σ) :=
  selectWith rand Relay.exitOk (fun r => scaledWeight r.bandwidth (getWeight c "Wee" 10000))
    "no suitable exit relays found" c s

/-- `SelectGuard`. -/
def selectGuard (c : Consensus) (exit : Relay) (s : σ) : Option (Except String Relay × σ) :=
  selectWith rand (Relay.guardOk N exit)
    (fun r => scaledWeight r.bandwidth (if r.flags.exit then getWeight c "Wgd" 10000 else getWeight c "Wgg" 10000))
    "no suitable guard relays found" c s

/-- `SelectMiddle`. -/
def selectMiddle (c : Consensus) (guard exit : Relay) (s : σ) : Option (Except String Relay × σ) :=
  selectWith rand (Relay.middleOk N guard exit)
    (fun r => scaledWeight r.bandwidth
      (if r.flags.guard && r.flags.exit then getWeight c "Wmd" 10000
        else if r.flags.guard then getWeight c "Wmg" 10000
        else if r.flags.exit then getWeight c "Wme" 10000
        else getWeight c "Wmm" 10000))
    "no suitable middle relays found" c s

/-- `SelectPath`; `none` is a panic in one of the selections. -/
def selectPath (c : Consensus) (s : σ) : Option (Except String Path × σ) :=
  match selectExit rand c s with
  | none => none
  | some (.error e, s) => some (.error ("select exit: " ++ e), s)
  | some (.ok exit, s) =>
    match selectGuard N rand c exit s with
    | none => none
    | some (.error e, s) => some (.error ("select guard: " ++ e), s)
    | some (.ok guard, s) =>
      match selectMiddle N rand c guard exit s with
      | none => none
      | some (.error e, s) => some (.error ("select middle: " ++ e), s)
      | some (.ok middle, s) => some (.ok ⟨guard, middle, exit⟩, s)

/-- What a selection returns is a relay of the consensus that its filter
admits, for every outcome of the draw. -/
theorem selectWith_ok {ok : Relay → Bool} {weight : Relay → Int} {noneFound : String} {c : Consensus}
    {s s' : σ} {r : Relay} (h : selectWith rand ok weight noneFound c s = some (.ok r, s')) :
    r ∈ c.relays ∧ ok r = true := by
  unfold selectWith at h
  dsimp only at h
  split_ifs at h
  · cases h
  split at h
  · cases h
  · obtain ⟨r', hr', hrr⟩ := Option.map_eq_some'.1 h
    cases hrr
    exact List.mem_filter.1 (mem_of_goIndex hr')

/-- The three selections of a path that `SelectPath` returns. -/
theorem selectPath_ok {c : Consensus} {s s' : σ} {p : Path} (h : selectPath N rand c s = some (.ok p, s')) :
    ∃ s1 s2, selectExit rand c s = some (.ok p.exit, s1) ∧ selectGuard N rand c p.exit s1 = some (.ok p.guard, s2) ∧
      selectMiddle N rand c p.guard p.exit s2 = some (.ok p.middle, s') := by
  unfold selectPath at h
  rcases h1 : selectExit rand c s with _ | ⟨_ | exit, s1⟩ <;> simp only [h1] at h <;> try cases h
  rcases h2 : selectGuard N rand c exit s1 with _ | ⟨_ | guard, s2⟩ <;> simp only [h2] at h <;> try cases h
  rcases h3 : selectMiddle N rand c guard exit s2 with _ | ⟨_ | middle, s3⟩ <;> simp only [h3] at h <;> try cases h
  exact ⟨s1, s2, rfl, h2, h3⟩

/-- **The constraints of a selected path.** For every consensus and every
outcome of the draws, a path that `SelectPath` returns is made of relays of
the consensus: an exit with the Exit, Running and Valid flags, an ntor key
and no BadExit flag; a guard with the Guard, Fast, Running and Valid flags
and an ntor key; a middle relay with the Fast, Running and Valid flags and
an ntor key; with three distinct identities and three distinct `/16`
subnets. -/
theorem selectPath_constraints {c : Consensus} {s s' : σ} {p : Path}
    (h : selectPath N rand c s = some (.ok p, s')) :
    (p.exit ∈ c.relays ∧ p.guard ∈ c.relays ∧ p.middle ∈ c.relays) ∧
    (p.exit.flags.exit ∧ p.exit.flags.running ∧ p.exit.flags.valid ∧ p.exit.hasNtorKey ∧ ¬ p.exit.flags.badExit) ∧
    (p.guard.flags.guard ∧ p.guard.flags.fast ∧ p.guard.flags.running ∧ p.guard.flags.valid ∧ p.guard.hasNtorKey) ∧
    (p.middle.flags.fast ∧ p.middle.flags.running ∧ p.middle.flags.valid ∧ p.middle.hasNtorKey) ∧
    (p.guard.identity ≠ p.exit.identity ∧ p.middle.identity ≠ p.guard.identity ∧
      p.middle.identity ≠ p.exit.identity) ∧
    (subnet16 N p.guard.address ≠ subnet16 N p.exit.address ∧
      subnet16 N p.middle.address ≠ subnet16 N p.guard.address ∧
      subnet16 N p.middle.address ≠ subnet16 N p.exit.address) := by
  obtain ⟨s1, s2, he, hg, hm⟩ := selectPath_ok N rand h
  obtain ⟨he1, he2⟩ := selectWith_ok rand he
  obtain ⟨hg1, hg2⟩ := selectWith_ok rand hg
  obtain ⟨hm1, hm2⟩ := selectWith_ok rand hm
  simp only [Relay.exitOk, Relay.guardOk, Relay.middleOk, Bool.and_eq_true, Bool.not_eq_true', bne_iff_ne,
    ne_eq, Bool.or_eq_false_iff, beq_eq_false_iff_ne] at he2 hg2 hm2
  exact ⟨⟨he1, hg1, hm1⟩, ⟨he2.1.1.1.1, he2.1.1.2, he2.1.2, he2.2, by simp [he2.1.1.1.2]⟩,
    ⟨hg2.1.1.1.1.1.1, hg2.1.1.1.1.1.2, hg2.1.1.1.1.2, hg2.1.1.1.2, hg2.1.1.2⟩,
    ⟨hm2.1.1.1.1.1, hm2.1.1.1.1.2, hm2.1.1.1.2, hm2.1.1.2⟩,
    ⟨hg2.2, hm2.2.1, hm2.2.2⟩, ⟨hg2.1.2, hm2.1.2.1, hm2.1.2.2⟩⟩

end Select

/-- A relay of the path tests: the given flags, address and identity byte,
bandwidth 100, an ntor key. -/
def testRelay (id : UInt8) (addr : Bytes) (exit guard : Bool) : Relay :=
  ⟨[id], rawIPText.ipString addr, ⟨false, exit, true, guard, true, true⟩, 100, true⟩

/-- An exit in 10.0/16, a guard in 10.1/16 and a middle relay in 10.2/16. -/
def testConsensus : Consensus :=
  ⟨[testRelay 1 [10, 0, 0, 1] true false, testRelay 2 [10, 1, 0, 1] false true,
    testRelay 3 [10, 2, 0, 1] false false], fun _ => none⟩

/-- The path the draws `0, 0, 0` give on `testConsensus`, with its
constraints. -/
theorem test_path_constraints :
    selectPath rawIPText (fun (n : Nat) (_ : Int) => ((.ok 0 : Except String Int), n + 1)) testConsensus 0 =
      some (.ok ⟨testRelay 2 [10, 1, 0, 1] false true, testRelay 3 [10, 2, 0, 1] false false,
        testRelay 1 [10, 0, 0, 1] true false⟩, 3) ∧
    let p : Path := ⟨testRelay 2 [10, 1, 0, 1] false true, testRelay 3 [10, 2, 0, 1] false false,
      testRelay 1 [10, 0, 0, 1] true false⟩
    (p.exit ∈ testConsensus.relays ∧ p.guard ∈ testConsensus.relays ∧ p.middle ∈ testConsensus.relays) ∧
    (p.exit.flags.exit ∧ p.exit.flags.running ∧ p.exit.flags.valid ∧ p.exit.hasNtorKey ∧ ¬ p.exit.flags.badExit) ∧
    (p.guard.flags.guard ∧ p.guard.flags.fast ∧ p.guard.flags.running ∧ p.guard.flags.valid ∧ p.guard.hasNtorKey) ∧
    (p.middle.flags.fast ∧ p.middle.flags.running ∧ p.middle.flags.valid ∧ p.middle.hasNtorKey) ∧
    (p.guard.identity ≠ p.exit.identity ∧ p.middle.identity ≠ p.guard.identity ∧
      p.middle.identity ≠ p.exit.identity) ∧
    (subnet16 rawIPText p.guard.address ≠ subnet16 rawIPText p.exit.address ∧
      subnet16 rawIPText p.middle.address ≠ subnet16 rawIPText p.guard.address ∧
      subnet16 rawIPText p.middle.address ≠ subnet16 rawIPText p.exit.address) :=
  have h : selectPath rawIPText (fun (n : Nat) (_ : Int) => ((.ok 0 : Except String Int), n + 1)) testConsensus 0 =
      some (.ok ⟨testRelay 2 [10, 1, 0, 1] false true, testRelay 3 [10, 2, 0, 1] false false,
        testRelay 1 [10, 0, 0, 1] true false⟩, 3) := rfl
  ⟨h, selectPath_constraints rawIPText _ h⟩

end TorGo.L5.PathSelect
