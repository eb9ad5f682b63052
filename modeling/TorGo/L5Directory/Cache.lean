import TorGo.L5Directory.Microdesc

/-!
# The microdescriptor cache and the client's start-up

`SaveMicrodescriptors` (`src/directory/cache.go:134-160`) files the keys of
every relay that has an ntor key and a digest under its `MicrodescDigest`,
a later relay replacing an earlier one, and writes the map to
`microdescriptors.json`. `LoadMicrodescriptors` (106-131) gives each relay
the keys filed under its digest, when they include an ntor key, and counts
the relays it changed. At start-up the client (`populateMicrodescriptors`,
`src/directory/consensus_test.go:442-466`) keeps the consensus relays with
useful flags, loads the cache into them, fetches the microdescriptors of
those still without an ntor key (`fetchMissingMicrodescriptors`, 468-485)
and saves the relays back.

The file is the map itself: `json.Unmarshal` gives back the map
`json.Marshal` wrote (its keys are the base64 digests of a consensus), and a
missing file, a file that does not unmarshal and an unset `Dir` all read as
no cache. Writes succeed; a failed save is only logged, so the cache stays
as it was. `UpdateRelaysWithMicrodescriptors` always returns `nil`, so the
loop over `DirAuthorities` stops after the first authority. A start that
ends before the microdescriptor step (a consensus that fails its signature
or freshness check) leaves the cache as it was.

Results:
* `loadMicrodescriptors_save`: relays whose keys agree across each digest
  they share, saved and loaded back, come back unchanged, and the count is
  the number of relays with an ntor key and a digest;
* `populateMicrodescriptors_sourced`: a start-up keeps the useful relays in
  order and changes only their keys, and every key it marks present on a
  relay or in the cache comes from a microdescriptor with that digest;
* `startRuns_sourced`: the same over every sequence of start-ups, each on
  any consensus text and any directory answers.
-/
namespace TorGo.L5.Directory

open TorGo.L1 TorGo.L5

/-! ## The cache file -/

/-- `cachedRelay`. -/
structure CachedRelay where
  ntorOnionKey : Bytes
  ed25519ID : Bytes
  hasNtorKey : Bool
  hasEd25519 : Bool
  deriving DecidableEq, Repr

/-- `Cache`, with what `microdescriptors.json` reads back as: the map
`Relays`, or `none` for a missing file or one that does not unmarshal. -/
structure Cache where
  dir : Bytes
  microdescriptors : Option (Bytes → Option CachedRelay)

/-- The entry `SaveMicrodescriptors` writes for a relay. -/
def cachedRelay (r : Relay) : CachedRelay := ⟨r.ntorOnionKey, r.ed25519ID, r.hasNtorKey, r.hasEd25519⟩

/-- The loop of `SaveMicrodescriptors`, writing into the map `m`. -/
def saveLoop (m : Bytes → Option CachedRelay) : List Relay → Bytes → Option CachedRelay
  | [] => m
  | r :: rs =>
    saveLoop (if !r.hasNtorKey || r.microdescDigest = [] then m
      else fun d => if d = r.microdescDigest then some (cachedRelay r) else m d) rs

/-- A relay `SaveMicrodescriptors` files: it has an ntor key and a digest. -/
def Filed (r : Relay) : Prop := r.hasNtorKey = true ∧ r.microdescDigest ≠ []

instance : DecidablePred Filed := fun r => inferInstanceAs (Decidable (r.hasNtorKey = true ∧ r.microdescDigest ≠ []))

/-! ### The JSON file

`json.Marshal` writes the map's keys in byte order, each as a JSON string;
`encoding/json` writes a byte that starts no valid UTF-8 encoding as
`\ufffd` (U+FFFD, `EF BF BD` once read back) and every other byte as it
is. `json.Unmarshal` gives a key read twice its last value. -/

/-- The width `utf8.DecodeRune` gives the rune at the head of `s`, or `0`
where it returns `RuneError` with width 1 (an invalid or cut encoding). -/
def runeWidth : Bytes → Nat
  | [] => 0
  | b :: s =>
    let cont (i : Nat) (lo hi : UInt8) : Bool := match s[i]? with
      | some x => lo ≤ x && x ≤ hi
      | none => false
    if b < 0x80 then 1
    else if 0xC2 ≤ b && b ≤ 0xDF then if cont 0 0x80 0xBF then 2 else 0
    else if b = 0xE0 then if cont 0 0xA0 0xBF && cont 1 0x80 0xBF then 3 else 0
    else if 0xE1 ≤ b && b ≤ 0xEF then
      if cont 0 0x80 (if b = 0xED then 0x9F else 0xBF) && cont 1 0x80 0xBF then 3 else 0
    else if b = 0xF0 then if cont 0 0x90 0xBF && cont 1 0x80 0xBF && cont 2 0x80 0xBF then 4 else 0
    else if 0xF1 ≤ b && b ≤ 0xF4 then
      if cont 0 0x80 (if b = 0xF4 then 0x8F else 0xBF) && cont 1 0x80 0xBF && cont 2 0x80 0xBF then 4 else 0
    else 0

/-- The loop of `encodeState.string` over the bytes, `k` bytes of a valid
rune still to copy. -/
def jsonLoop : Nat → Bytes → Bytes
  | _, [] => []
  | k + 1, b :: s => b :: jsonLoop k s
  | 0, b :: s =>
    match runeWidth (b :: s) with
    | 0 => [0xEF, 0xBF, 0xBD] ++ jsonLoop 0 s
    | n + 1 => b :: jsonLoop n s

/-- The bytes the JSON string `encoding/json` writes for `s` reads back as. -/
def jsonString (s : Bytes) : Bytes := jsonLoop 0 s

/-- One key of the object read back, over the map read so far. -/
def jsonStep (m : Bytes → Option CachedRelay) (acc : Bytes → Option CachedRelay) (k : Bytes) :
    Bytes → Option CachedRelay :=
  fun d => if d = jsonString k then m k else acc d

/-- The map `json.Unmarshal` reads back from what `json.Marshal` wrote for
the map `m` with the keys `keys`. -/
def jsonMap (m : Bytes → Option CachedRelay) (keys : List Bytes) : Bytes → Option CachedRelay :=
  (keys.mergeSort fun a b => decide (bytesCompare a b ≤ 0)).foldl (jsonStep m) fun _ => none

/-- `SaveMicrodescriptors`: the file holds the map written by the loop, as
`LoadMicrodescriptors` reads it back. -/
def saveMicrodescriptors (c : Cache) (relays : List Relay) : Except String Cache :=
  if c.dir = [] then .error "cache directory not set"
  else .ok { c with microdescriptors := some (jsonMap (saveLoop (fun _ => none) relays)
    ((relays.filter fun r => decide (Filed r)).map Relay.microdescDigest)) }

/-- One pass of the loop of `LoadMicrodescriptors`: the relay with the keys
filed under its digest, if they include an ntor key. -/
def loadRelay (cached : Bytes → Option CachedRelay) (r : Relay) : Option Relay :=
  match cached r.microdescDigest with
  | some cr =>
    if cr.hasNtorKey then
      some { r with ntorOnionKey := cr.ntorOnionKey, hasNtorKey := cr.hasNtorKey,
                    ed25519ID := cr.ed25519ID, hasEd25519 := cr.hasEd25519 }
    else none
  | none => none

/-- `LoadMicrodescriptors`: the relays, each with the keys of its digest,
and how many of them it changed. -/
def loadMicrodescriptors (c : Cache) (relays : List Relay) : List Relay × Nat :=
  if c.dir = [] then (relays, 0) else
  match c.microdescriptors with
  | none => (relays, 0)
  | some cached =>
    (relays.map fun r => (loadRelay cached r).getD r, (relays.filter fun r => (loadRelay cached r).isSome).length)

/-! ## The client's start-up -/

/-- The flags `populateMicrodescriptors` keeps a relay for. -/
def isUseful (r : Relay) : Bool :=
  r.flags.running && r.flags.valid && (r.flags.guard || r.flags.exit || r.flags.fast || r.flags.hsdir)

/-- `DirAuthorities`. -/
def dirAuthorities : List Bytes :=
  [ascii "128.31.0.39:9131", ascii "86.59.21.38:80", ascii "194.109.206.212:80", ascii "199.58.81.140:80",
    ascii "204.13.164.118:80", ascii "66.111.2.131:9030", ascii "193.23.244.244:80", ascii "171.25.193.9:443",
    ascii "154.35.175.225:80"]

section Startup

variable (sha256 : Bytes → Bytes)

/-- `UpdateRelaysWithMicrodescriptors` with the error it returns: `nil`,
whatever the directory answers. -/
def updateRelaysResult (get : Bytes → Option Bytes) (addr : Bytes) (relays : List Relay) :
    Option String × List Relay :=
  (none, updateRelaysWithMicrodescriptors sha256 get addr relays)

/-- The loop of `fetchMissingMicrodescriptors` over the authorities: the
first update that returns `nil` ends it. -/
def authorityLoop (get : Bytes → Option Bytes) : List Bytes → List Relay → List Relay
  | [], relays => relays
  | addr :: addrs, relays =>
    match updateRelaysResult sha256 get addr relays with
    | (none, relays) => relays
    | (some _, relays) => authorityLoop get addrs relays

/-- `fetchMissingMicrodescriptors`. -/
def fetchMissingMicrodescriptors (get : Bytes → Option Bytes) (relays : List Relay) : List Relay :=
  if (relays.filter fun r => !r.hasNtorKey).length = 0 then relays
  else authorityLoop sha256 get dirAuthorities relays

/-- `populateMicrodescriptors`, on the relays of the consensus: the relays
it leaves in `consensus.Relays`, and the cache. -/
def populateMicrodescriptors (get : Bytes → Option Bytes) (c : Cache) (relays : List Relay) :
    List Relay × Cache :=
  let fetched := fetchMissingMicrodescriptors sha256 get (loadMicrodescriptors c (relays.filter isUseful)).1
  (fetched, match saveMicrodescriptors c fetched with
    | .ok c' => c'
    | .error _ => c)

/-- A start of the client from `ParseConsensus` on: a consensus that does
not parse ends the program (`os.Exit(1)`); the relays of one that does are
populated from the cache and the directory `get`. -/
def startClient (parseTime : Bytes → Except String Int) (c : Cache) (text : Bytes) (get : Bytes → Option Bytes) :
    Option (List Relay) × Cache :=
  match parseConsensus parseTime text with
  | .ok cons =>
    let r := populateMicrodescriptors sha256 get c cons.relays
    (some r.1, r.2)
  | .error _ => (none, c)

/-- Successive starts of the client, each on its consensus text and its
directory: the relays of each start that got to the microdescriptor step,
and the cache at the end. -/
def startRuns (parseTime : Bytes → Except String Int) :
    Cache → List (Bytes × (Bytes → Option Bytes)) → List (List Relay) × Cache
  | c, [] => ([], c)
  | c, (text, get) :: starts =>
    let s := startClient sha256 parseTime c text get
    let r := startRuns parseTime s.2 starts
    (s.1.toList ++ r.1, r.2)

end Startup

/-! ## Saving and loading back -/

theorem saveLoop_cons (m : Bytes → Option CachedRelay) (r : Relay) (rs : List Relay) :
    saveLoop m (r :: rs) =
      saveLoop (if Filed r then fun d => if d = r.microdescDigest then some (cachedRelay r) else m d else m) rs := by
  by_cases hf : Filed r
  · rw [saveLoop, if_neg (by simpa [Filed] using hf), if_pos hf]
  · rw [saveLoop, if_pos (by by_contra h; simp_all [Filed]), if_neg hf]

/-- What the loop files under `d` when the relays it files there agree on
their entry `e`: `e`, or what `m` held if it files none. -/
theorem saveLoop_agree {d : Bytes} {e : CachedRelay} :
    ∀ (m : Bytes → Option CachedRelay) (rs : List Relay),
      (∀ r ∈ rs, Filed r → r.microdescDigest = d → cachedRelay r = e) →
      saveLoop m rs d = if rs.any fun r => decide (Filed r ∧ r.microdescDigest = d) then some e else m d
  | m, [], _ => rfl
  | m, r :: rs, h => by
    rw [saveLoop_cons, saveLoop_agree _ rs fun r' hr' => h r' (.tail _ hr'), List.any_cons]
    by_cases hf : Filed r <;> by_cases hd : r.microdescDigest = d
    · simp [hf, hd, h r (.head _) hf hd]
    · simp [hf, hd, Ne.symm hd]
    · simp [hf]
    · simp [hf]

theorem saveLoop_of_not_mem {d : Bytes} : ∀ (m : Bytes → Option CachedRelay) (rs : List Relay),
    (∀ r ∈ rs, Filed r → r.microdescDigest ≠ d) → saveLoop m rs d = m d
  | _, [], _ => rfl
  | m, r :: rs, h => by
    rw [saveLoop_cons, saveLoop_of_not_mem _ rs fun r' hr' => h r' (.tail _ hr')]
    by_cases hf : Filed r
    · simp [hf, Ne.symm (h r (.head _) hf)]
    · simp [hf]

/-- ASCII text is written as it is. -/
theorem jsonString_of_ascii : ∀ {s : Bytes}, IsAscii s → jsonString s = s
  | [], _ => rfl
  | b :: s, h => by
    have hw : runeWidth (b :: s) = 1 := by simp [runeWidth, h b (.head _)]
    show jsonLoop 0 (b :: s) = b :: s
    simp only [jsonLoop, hw]
    exact congrArg (b :: ·) (jsonString_of_ascii fun x hx => h x (.tail _ hx))

example : jsonString [0xFF, 0x61, 0xC3, 0xA9] = [0xEF, 0xBF, 0xBD, 0x61, 0xC3, 0xA9] := by decide

theorem foldl_jsonStep_ascii (m : Bytes → Option CachedRelay) : ∀ (L : List Bytes), (∀ k ∈ L, IsAscii k) →
    ∀ acc d, L.foldl (jsonStep m) acc d = if d ∈ L then m d else acc d
  | [], _, _, _ => by simp
  | k :: L, h, acc, d => by
    rw [List.foldl_cons, foldl_jsonStep_ascii m L (fun k hk => h k (.tail _ hk))]
    simp only [jsonStep, jsonString_of_ascii (h k (.head _)), List.mem_cons]
    by_cases h1 : d ∈ L <;> by_cases h2 : d = k <;> simp [h1, h2]

theorem foldl_jsonStep_some (m : Bytes → Option CachedRelay) : ∀ (L : List Bytes) (acc : Bytes → Option CachedRelay)
    {d : Bytes} {cr : CachedRelay}, L.foldl (jsonStep m) acc d = some cr →
      (∃ k ∈ L, jsonString k = d ∧ m k = some cr) ∨ acc d = some cr
  | [], _, _, _, h => .inr h
  | k :: L, acc, d, cr, h => by
    rw [List.foldl_cons] at h
    rcases foldl_jsonStep_some m L _ h with ⟨k', hk', h1, h2⟩ | h
    · exact .inl ⟨k', .tail _ hk', h1, h2⟩
    · unfold jsonStep at h
      split_ifs at h with hd
      · exact .inl ⟨k, .head _, hd.symm, h⟩
      · exact .inr h

/-- Over ASCII keys the map reads back as it was written. -/
theorem jsonMap_of_ascii {m : Bytes → Option CachedRelay} {keys : List Bytes} (hk : ∀ k ∈ keys, IsAscii k)
    (hm : ∀ d, d ∉ keys → m d = none) : jsonMap m keys = m := funext fun d => by
  rw [jsonMap, foldl_jsonStep_ascii m _ fun k h => hk k (List.mem_mergeSort.1 h)]
  by_cases h : d ∈ keys <;> simp [List.mem_mergeSort, h, hm d]

/-- An entry read back under `d` was written under a key that reads as `d`. -/
theorem jsonMap_some {m : Bytes → Option CachedRelay} {keys : List Bytes} {d : Bytes} {cr : CachedRelay}
    (h : jsonMap m keys d = some cr) : ∃ k ∈ keys, jsonString k = d ∧ m k = some cr := by
  rcases foldl_jsonStep_some m _ _ h with ⟨k, hk, h1, h2⟩ | h
  · exact ⟨k, List.mem_mergeSort.1 hk, h1, h2⟩
  · cases h

/-- A relay whose entry is filed under its own digest loads back as itself. -/
theorem loadRelay_cachedRelay {cached : Bytes → Option CachedRelay} {r : Relay}
    (h : cached r.microdescDigest = some (cachedRelay r)) (hn : r.hasNtorKey = true) : loadRelay cached r = some r := by
  rw [loadRelay, h, cachedRelay]
  exact if_pos hn

/-- Relays with ASCII digests whose keys agree across each digest they
share, saved and loaded back, come back unchanged; the count is the number
of relays with an ntor key and a digest. (The digests are the file's JSON
map keys: `encoding/json` writes ASCII keys as they are and reads them back,
where it would write a byte that is not UTF-8 as U+FFFD.) -/
theorem loadMicrodescriptors_save {c c' : Cache} {relays : List Relay} (hc : saveMicrodescriptors c relays = .ok c')
    (hascii : ∀ r ∈ relays, IsAscii r.microdescDigest)
    (hagree : ∀ r ∈ relays, ∀ r' ∈ relays, Filed r → r'.microdescDigest = r.microdescDigest →
      cachedRelay r' = cachedRelay r) :
    loadMicrodescriptors c' relays = (relays, (relays.filter fun r => decide (Filed r)).length) := by
  unfold saveMicrodescriptors at hc
  split_ifs at hc with hdir
  cases hc
  have hkeys : ∀ k ∈ (relays.filter fun r => decide (Filed r)).map Relay.microdescDigest, IsAscii k := by
    intro k hk
    obtain ⟨r, hr, rfl⟩ := List.mem_map.1 hk
    exact hascii r (List.mem_filter.1 hr).1
  rw [jsonMap_of_ascii hkeys fun d hd => saveLoop_of_not_mem _ _ fun r hr hf hrd =>
    hd (List.mem_map.2 ⟨r, List.mem_filter.2 ⟨hr, decide_eq_true hf⟩, hrd⟩)]
  -- each relay loads back as itself exactly when it is filed
  have hload : ∀ r ∈ relays, loadRelay (saveLoop (fun _ => none) relays) r = if Filed r then some r else none := by
    intro r hr
    split_ifs with hf
    · refine loadRelay_cachedRelay ?_ hf.1
      rw [saveLoop_agree _ _ fun r' hr' _ hd => hagree r hr r' hr' hf hd, if_pos (List.any_eq_true.2 ⟨r, hr, by simp [hf]⟩)]
    · have hnone : ∀ r' ∈ relays, Filed r' → r'.microdescDigest ≠ r.microdescDigest := fun r' hr' hf' hd => by
        have he := hagree r' hr' r hr hf' hd.symm
        exact hf ⟨(congrArg CachedRelay.hasNtorKey he).trans hf'.1, hd ▸ hf'.2⟩
      rw [loadRelay, saveLoop_agree (e := cachedRelay r) _ _ fun r' hr' hf' hd => absurd hd (hnone r' hr' hf'),
        if_neg (by simpa using fun r' hr' hf' => hnone r' hr' hf')]
  have hmap : relays.map (fun r => (loadRelay (saveLoop (fun _ => none) relays) r).getD r) = relays := by
    conv_rhs => rw [← List.map_id relays]
    refine List.map_congr_left fun r hr => ?_
    by_cases hf : Filed r <;> simp [hload r hr, hf]
  have hcount : relays.filter (fun r => (loadRelay (saveLoop (fun _ => none) relays) r).isSome) =
      relays.filter fun r => decide (Filed r) :=
    List.filter_congr fun r hr => by by_cases hf : Filed r <;> simp [hload r hr, hf]
  rw [loadMicrodescriptors, if_neg hdir]
  exact Prod.ext hmap (congrArg List.length hcount)

/-- A relay with an ntor key, of the sample consensus. -/
def keyedRelay : Relay := { sampleRelay with ntorOnionKey := zeroKey, hasNtorKey := true }

theorem loadMicrodescriptors_save_sample :
    loadMicrodescriptors ⟨ascii "/var/cache/tor-go", some (jsonMap (saveLoop (fun _ => none) [keyedRelay])
        (([keyedRelay].filter fun r => decide (Filed r)).map Relay.microdescDigest))⟩ [keyedRelay] =
      ([keyedRelay], ([keyedRelay].filter fun r => decide (Filed r)).length) :=
  loadMicrodescriptors_save (c := ⟨ascii "/var/cache/tor-go", none⟩) rfl
    (fun r hr => by rw [List.mem_singleton.1 hr]; decide) fun r hr r' hr' _ _ => by
      rw [List.mem_singleton.1 hr, List.mem_singleton.1 hr']

/-! ## Where the keys come from -/

/-- Keys filed under the digest `d` come from microdescriptors with that
digest: a key marked present is the one such a microdescriptor gives. -/
structure KeysSourced (sha256 : Bytes → Bytes) (d ntorKey : Bytes) (hasNtor : Bool) (edKey : Bytes) (hasEd : Bool) :
    Prop where
  ntor : hasNtor = true → ∃ md, encodeToString false (sha256 md) = d ∧ (parseMicrodescriptor md).hasNtor = true ∧
    ntorKey = (parseMicrodescriptor md).ntorKey
  ed : hasEd = true → ∃ md, encodeToString false (sha256 md) = d ∧ (parseMicrodescriptor md).hasEd = true ∧
    edKey = (parseMicrodescriptor md).ed25519Key

/-- Every key marked present on the relay comes from a microdescriptor with
its digest. -/
def Relay.Sourced (sha256 : Bytes → Bytes) (r : Relay) : Prop :=
  KeysSourced sha256 r.microdescDigest r.ntorOnionKey r.hasNtorKey r.ed25519ID r.hasEd25519

/-- An entry of the cache file comes from microdescriptors with the digest
it is filed under. -/
def CachedRelay.Sourced (sha256 : Bytes → Bytes) (d : Bytes) (cr : CachedRelay) : Prop :=
  KeysSourced sha256 d cr.ntorOnionKey cr.hasNtorKey cr.ed25519ID cr.hasEd25519

/-- Every entry of the cache file is sourced from its digest. -/
def Cache.Sourced (sha256 : Bytes → Bytes) (c : Cache) : Prop :=
  ∀ cached, c.microdescriptors = some cached → ∀ d cr, cached d = some cr → cr.Sourced sha256 d

/-- A relay without its keys: what the consensus says of it. -/
def Relay.withoutKeys (r : Relay) : Relay :=
  { r with ntorOnionKey := [], ed25519ID := [], hasNtorKey := false, hasEd25519 := false }

section Sourced

variable {sha256 : Bytes → Bytes}

/-- A relay without keys is sourced. -/
theorem Relay.sourced_of_noKeys {r : Relay} (hn : r.hasNtorKey = false) (he : r.hasEd25519 = false) :
    r.Sourced sha256 :=
  ⟨fun h => absurd (hn ▸ h) Bool.false_ne_true, fun h => absurd (he ▸ h) Bool.false_ne_true⟩

/-- The update keeps a relay sourced: a key it sets comes from a
microdescriptor with the relay's digest, which it does not change. -/
theorem KeysFrom.sourced {r0 r : Relay} (h : KeysFrom sha256 r0 r) (h0 : r0.Sourced sha256) : r.Sourced sha256 := by
  have hd : r.microdescDigest = r0.microdescDigest := by
    have h' := congrArg Relay.microdescDigest h.same
    exact h'
  refine ⟨fun hr => ?_, fun hr => ?_⟩
  · rcases h.ntor with ⟨hk, hh⟩ | ⟨md, hmd, hn, hk, -⟩
    · obtain ⟨md, hmd, hn, hk'⟩ := h0.ntor (hh ▸ hr)
      exact ⟨md, hmd.trans hd.symm, hn, hk.trans hk'⟩
    · exact ⟨md, hmd.trans hd.symm, hn, hk⟩
  · rcases h.ed with ⟨hk, hh⟩ | ⟨md, hmd, he, hk, -⟩
    · obtain ⟨md, hmd, he, hk'⟩ := h0.ed (hh ▸ hr)
      exact ⟨md, hmd.trans hd.symm, he, hk.trans hk'⟩
    · exact ⟨md, hmd.trans hd.symm, he, hk⟩

theorem KeysFrom.withoutKeys {r0 r : Relay} (h : KeysFrom sha256 r0 r) : r.withoutKeys = r0.withoutKeys := by
  have h' := congrArg Relay.withoutKeys h.same
  exact h'

/-- The update keeps every relay sourced and changes only keys. -/
theorem updateRelays_sourced (get : Bytes → Option Bytes) (addr : Bytes) {relays : List Relay}
    (h : ∀ r ∈ relays, r.Sourced sha256) :
    (∀ r ∈ updateRelaysWithMicrodescriptors sha256 get addr relays, r.Sourced sha256) ∧
      (updateRelaysWithMicrodescriptors sha256 get addr relays).map Relay.withoutKeys = relays.map Relay.withoutKeys := by
  obtain ⟨hlen, hk⟩ := @keysInv_updateRelays sha256 get addr relays
  refine ⟨fun r hr => ?_, List.ext_getElem (by simp [hlen]) fun i h₁ h₂ => ?_⟩
  · obtain ⟨i, hi, rfl⟩ := List.getElem_of_mem hr
    exact (hk i (hlen ▸ hi) hi).sourced (h _ (List.getElem_mem _))
  · simp only [List.getElem_map]
    exact (hk i (by simpa using h₂) (by simpa using h₁)).withoutKeys

/-- Only the first authority is ever asked: its update returns `nil`. -/
theorem fetchMissingMicrodescriptors_eq (get : Bytes → Option Bytes) (relays : List Relay) :
    fetchMissingMicrodescriptors sha256 get relays =
      if (relays.filter fun r => !r.hasNtorKey).length = 0 then relays
      else updateRelaysWithMicrodescriptors sha256 get (ascii "128.31.0.39:9131") relays :=
  rfl

theorem fetchMissing_sourced (get : Bytes → Option Bytes) {relays : List Relay} (h : ∀ r ∈ relays, r.Sourced sha256) :
    (∀ r ∈ fetchMissingMicrodescriptors sha256 get relays, r.Sourced sha256) ∧
      (fetchMissingMicrodescriptors sha256 get relays).map Relay.withoutKeys = relays.map Relay.withoutKeys := by
  rw [fetchMissingMicrodescriptors_eq]
  split_ifs
  · exact ⟨h, rfl⟩
  · exact updateRelays_sourced get _ h

theorem loadRelay_sourced {cached : Bytes → Option CachedRelay} (hc : ∀ d cr, cached d = some cr → cr.Sourced sha256 d)
    {r r' : Relay} (h : loadRelay cached r = some r') : r'.Sourced sha256 ∧ r'.withoutKeys = r.withoutKeys := by
  unfold loadRelay at h
  split at h
  · rename_i cr hcr
    split_ifs at h
    cases h
    exact ⟨hc _ _ hcr, rfl⟩
  · cases h

theorem loadMicrodescriptors_sourced {c : Cache} (hc : c.Sourced sha256) {relays : List Relay}
    (h : ∀ r ∈ relays, r.Sourced sha256) :
    (∀ r ∈ (loadMicrodescriptors c relays).1, r.Sourced sha256) ∧
      (loadMicrodescriptors c relays).1.map Relay.withoutKeys = relays.map Relay.withoutKeys := by
  unfold loadMicrodescriptors
  split_ifs
  · exact ⟨h, rfl⟩
  split
  · exact ⟨h, rfl⟩
  · rename_i cached hcached
    have hl := @loadRelay_sourced sha256 cached (hc cached hcached)
    refine ⟨fun r' hr' => ?_, ?_⟩
    · obtain ⟨r, hr, rfl⟩ := List.mem_map.1 hr'
      cases hlr : loadRelay cached r
      · exact h r hr
      · exact (hl hlr).1
    · rw [List.map_map]
      refine List.map_congr_left fun r _ => ?_
      simp only [Function.comp]
      cases hlr : loadRelay cached r
      · rfl
      · exact (hl hlr).2

/-- What the loop files is sourced, when the relays and the map it starts
from are. -/
theorem saveLoop_sourced : ∀ {m : Bytes → Option CachedRelay} {rs : List Relay},
    (∀ d cr, m d = some cr → cr.Sourced sha256 d) → (∀ r ∈ rs, r.Sourced sha256) →
      ∀ d cr, saveLoop m rs d = some cr → cr.Sourced sha256 d
  | _, [], hm, _ => hm
  | m, r :: rs, hm, h => by
    rw [saveLoop_cons]
    refine saveLoop_sourced (fun d cr hd => ?_) fun r' hr' => h r' (.tail _ hr')
    by_cases hf : Filed r
    · simp only [hf, if_true] at hd
      split_ifs at hd with hdr
      · cases hd
        exact hdr ▸ h r (.head _)
      · exact hm d cr hd
    · exact hm d cr (by simpa only [hf, if_false] using hd)

/-- Keys sourced under a digest are sourced under what it reads back as:
a digest of a microdescriptor is base64, which JSON keeps. -/
theorem KeysSourced.json {k d ntorKey edKey : Bytes} {hasNtor hasEd : Bool}
    (h : KeysSourced sha256 k ntorKey hasNtor edKey hasEd) (hk : jsonString k = d) :
    KeysSourced sha256 d ntorKey hasNtor edKey hasEd := by
  have hsrc : ∀ md, encodeToString false (sha256 md) = k → encodeToString false (sha256 md) = d := fun md hmd => by
    rw [← hk, ← hmd, jsonString_of_ascii (isAscii_encodeToString _ _)]
  exact ⟨fun hn => let ⟨md, hmd, h2⟩ := h.ntor hn; ⟨md, hsrc md hmd, h2⟩,
    fun he => let ⟨md, hmd, h2⟩ := h.ed he; ⟨md, hsrc md hmd, h2⟩⟩

theorem saveMicrodescriptors_sourced {c c' : Cache} {relays : List Relay} (hc : saveMicrodescriptors c relays = .ok c')
    (h : ∀ r ∈ relays, r.Sourced sha256) : c'.Sourced sha256 := by
  unfold saveMicrodescriptors at hc
  split_ifs at hc
  cases hc
  rintro cached ⟨⟩ d cr hd
  obtain ⟨k, -, hk, hcr⟩ := jsonMap_some hd
  exact KeysSourced.json (saveLoop_sourced (fun _ _ h => by cases h) h k cr hcr) hk

/-- A start-up keeps the useful relays of the consensus, in order, and
changes only their keys; from sourced relays and a sourced cache it leaves
sourced relays and a sourced cache. -/
theorem populateMicrodescriptors_sourced (get : Bytes → Option Bytes) {c : Cache} (hc : c.Sourced sha256)
    {relays : List Relay} (h : ∀ r ∈ relays, r.Sourced sha256) :
    (populateMicrodescriptors sha256 get c relays).1.map Relay.withoutKeys =
        (relays.filter isUseful).map Relay.withoutKeys ∧
      (∀ r ∈ (populateMicrodescriptors sha256 get c relays).1, r.Sourced sha256) ∧
      (populateMicrodescriptors sha256 get c relays).2.Sourced sha256 := by
  have hl := @loadMicrodescriptors_sourced sha256 c hc (relays.filter isUseful) fun r hr => h r (List.mem_filter.1 hr).1
  have hf := fetchMissing_sourced get hl.1
  refine ⟨hf.2.trans hl.2, hf.1, ?_⟩
  dsimp only [populateMicrodescriptors]
  split
  · exact saveMicrodescriptors_sourced ‹_› hf.1
  · exact hc

end Sourced

/-- A cache file with one entry: the keys of `sampleMicrodesc`, filed under
its digest for a SHA-256 that gives 32 zero bytes. -/
def sampleCache : Cache :=
  ⟨ascii "/var/cache/tor-go", some fun d =>
    if d = encodeToString false zeroKey then some ⟨zeroKey, [], true, false⟩ else none⟩

theorem sampleCache_sourced : sampleCache.Sourced fun _ => zeroKey := by
  intro cached h d cr hcr
  cases h
  dsimp only at hcr
  split_ifs at hcr with hd
  cases hcr
  exact ⟨fun _ => ⟨mdMarker ++ sampleMicrodesc, hd.symm, by decide, by decide⟩, fun h => absurd h (by decide)⟩

/-- A relay of the sample consensus with a digest the cache does not hold. -/
def uncachedRelay : Relay := { sampleRelay with microdescDigest := encodeToString false (List.replicate 32 1) }

theorem populateMicrodescriptors_sourced_sample :
    (populateMicrodescriptors (fun _ => zeroKey) (fun _ => some (mdMarker ++ sampleMicrodesc)) sampleCache
        [sampleRelay, uncachedRelay]).1.map Relay.withoutKeys =
        ([sampleRelay, uncachedRelay].filter isUseful).map Relay.withoutKeys ∧
      (∀ r ∈ (populateMicrodescriptors (fun _ => zeroKey) (fun _ => some (mdMarker ++ sampleMicrodesc)) sampleCache
        [sampleRelay, uncachedRelay]).1, r.Sourced fun _ => zeroKey) ∧
      (populateMicrodescriptors (fun _ => zeroKey) (fun _ => some (mdMarker ++ sampleMicrodesc)) sampleCache
        [sampleRelay, uncachedRelay]).2.Sourced fun _ => zeroKey :=
  populateMicrodescriptors_sourced _ sampleCache_sourced fun r hr => by
    rcases List.mem_pair.1 hr with rfl | rfl <;> exact Relay.sourced_of_noKeys rfl rfl

/-! ## Every start of the client -/

/-- The relays of a parsed consensus have no keys yet. -/
theorem parseRouterLine_noKeys {line : Bytes} {r : Relay} (h : parseRouterLine line = some r) :
    r.hasNtorKey = false ∧ r.hasEd25519 = false := by
  unfold parseRouterLine at h
  dsimp only at h
  split_ifs at h
  split at h
  · cases h
  · split_ifs at h
    split at h
    · cases h
      exact ⟨rfl, rfl⟩
    · cases h

theorem relayLine_keys (r : Relay) (line : Bytes) :
    (relayLine r line).hasNtorKey = r.hasNtorKey ∧ (relayLine r line).hasEd25519 = r.hasEd25519 := by
  unfold relayLine parseFlags parseBandwidth
  split_ifs
  · exact ⟨rfl, rfl⟩
  · exact ⟨rfl, rfl⟩
  · exact ⟨rfl, rfl⟩
  · refine List.foldlRecOn (motive := fun r' : Relay => r'.hasNtorKey = r.hasNtorKey ∧ r'.hasEd25519 = r.hasEd25519)
      _ _ _ ⟨rfl, rfl⟩ fun r' h field _ => ?_
    split_ifs
    · split
      · exact h
      · exact h
    · exact h
  · exact ⟨rfl, rfl⟩

theorem parseConsensus_noKeys {parseTime : Bytes → Except String Int} {text : Bytes} {cons : Consensus}
    (h : parseConsensus parseTime text = .ok cons) : ∀ r ∈ cons.relays, r.hasNtorKey = false ∧ r.hasEd25519 = false := by
  intro r hr
  rw [relays_of_parseConsensus h] at hr
  obtain ⟨b, -, hb⟩ := List.mem_filterMap.1 hr
  obtain ⟨r0, hr0, rfl⟩ := Option.map_eq_some'.1 hb
  exact List.foldlRecOn (motive := fun r : Relay => r.hasNtorKey = false ∧ r.hasEd25519 = false) _ _ _
    (parseRouterLine_noKeys hr0) fun r h line _ =>
      ⟨(relayLine_keys r line).1.trans h.1, (relayLine_keys r line).2.trans h.2⟩

section Runs

variable {sha256 : Bytes → Bytes} {parseTime : Bytes → Except String Int}

/-- One start keeps the cache sourced, and the relays it ends with are
sourced. -/
theorem startClient_sourced {c : Cache} (hc : c.Sourced sha256) (text : Bytes) (get : Bytes → Option Bytes) :
    (∀ rs ∈ (startClient sha256 parseTime c text get).1, ∀ r ∈ rs, r.Sourced sha256) ∧
      (startClient sha256 parseTime c text get).2.Sourced sha256 := by
  unfold startClient
  split
  · rename_i cons hcons
    have h := populateMicrodescriptors_sourced get hc fun r hr =>
      Relay.sourced_of_noKeys (parseConsensus_noKeys hcons r hr).1 (parseConsensus_noKeys hcons r hr).2
    exact ⟨fun rs hrs => Option.mem_some_iff.1 hrs ▸ h.2.1, h.2.2⟩
  · exact ⟨fun _ h => (by cases h), hc⟩

/-- Over every sequence of start-ups of the client, each on any consensus
text and any directory answers, from a cache holding only sourced keys
(for one, no cache file): every key marked present on a relay the client
ends a start with, and every key in the cache, comes from a
microdescriptor whose SHA-256, in unpadded base64, is the relay's or the
entry's digest. -/
theorem startRuns_sourced :
    ∀ (starts : List (Bytes × (Bytes → Option Bytes))) {c : Cache}, c.Sourced sha256 →
      (∀ rs ∈ (startRuns sha256 parseTime c starts).1, ∀ r ∈ rs, r.Sourced sha256) ∧
        (startRuns sha256 parseTime c starts).2.Sourced sha256
  | [], _, hc => ⟨fun _ h => (by cases h), hc⟩
  | (text, get) :: starts, c, hc => by
    have h1 := @startClient_sourced sha256 parseTime c hc text get
    have h2 := startRuns_sourced starts h1.2
    refine ⟨fun rs hrs => ?_, h2.2⟩
    rcases List.mem_append.1 hrs with hrs | hrs
    · exact h1.1 rs (Option.mem_toList.1 hrs)
    · exact h2.1 rs hrs

end Runs

theorem startRuns_sourced_sample :
    (∀ rs ∈ (startRuns (fun _ => zeroKey) (fun _ => .ok 0) sampleCache
        [(sampleText, fun _ => some (mdMarker ++ sampleMicrodesc)), (sampleText, fun _ => none)]).1,
        ∀ r ∈ rs, r.Sourced fun _ => zeroKey) ∧
      (startRuns (fun _ => zeroKey) (fun _ => .ok 0) sampleCache
        [(sampleText, fun _ => some (mdMarker ++ sampleMicrodesc)), (sampleText, fun _ => none)]).2.Sourced
        fun _ => zeroKey :=
  startRuns_sourced _ sampleCache_sourced

end TorGo.L5.Directory
