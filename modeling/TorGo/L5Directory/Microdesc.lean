import TorGo.L5Directory.Consensus

/-!
# Microdescriptors (`UpdateRelaysWithMicrodescriptors`)

`UpdateRelaysWithMicrodescriptors` (`src/directory/cache.go:692-767`) fills
the keys of the consensus relays from their microdescriptors. It maps each
non-empty `MicrodescDigest` to the index of the last relay that carries it
(`digestToIdx`), asks the directory for the digests in batches of 92, one
`GET http://addr/tor/micro/d/D1-D2-...` each, and cuts each body it gets
into microdescriptors at every `onion-key\n` (`splitMicrodescriptors`,
769-795). A microdescriptor whose SHA-256, in unpadded base64, is a digest
of the map gives that relay the keys `ParseMicrodescriptor` (663-688) reads
from it, if it has an ntor key: the `ntor-onion-key` and `id ed25519` lines
whose key, trimmed and without its `=` padding, decodes to 32 bytes, the
last line of each kind.

The HTTP client is the argument `get`: the body for a URL, or `none` for a
failed request, a status other than 200 or a failed read, each of which
skips the batch. SHA-256 is the argument `sha256`. The Go function always
returns `nil`; the model returns the relays. The map and the digest list
that the first loop builds together are `digestToIdx` and `digests`.

Results:
* `parseMicrodescriptor_eq`: each key is the one of the last line of its
  kind that decodes, and is marked present exactly when there is such a
  line; the `continue` after a bad `ntor-onion-key` line changes nothing;
* `parseMicrodescriptor_keyLines`: the keys a relay writes, the ntor key in
  padded and the Ed25519 key in unpadded base64, are read back;
* `splitMicrodescriptors_texts`: microdescriptors laid end to end are cut
  back into themselves;
* `updateRelays_keysFrom`: for every answer of the directory, the update
  changes only the keys of a relay, and every key it sets comes from a
  microdescriptor whose digest is the relay's consensus digest;
* `updateRelays_shadowed`: a relay whose digest a later relay also carries
  keeps its keys;
* `updateRelays_honest`: when the directory answers each batch with the
  microdescriptors of its digests, every relay that is the last with its
  digest gets the keys of its microdescriptor.
-/
namespace TorGo.L5.Directory

open TorGo.L1 TorGo.L5

/-! ## One microdescriptor -/

/-- What `ParseMicrodescriptor` returns. -/
structure MicrodescKeys where
  ntorKey : Bytes
  ed25519Key : Bytes
  hasNtor : Bool
  hasEd : Bool
  deriving DecidableEq, Repr

/-- The zero results. -/
def noKeys : MicrodescKeys := ⟨zeroKey, zeroKey, false, false⟩

/-- `"ntor-onion-key "`. -/
def ntorKeyword : Bytes := ascii "ntor-onion-key "

/-- `"id ed25519 "`. -/
def edKeyword : Bytes := ascii "id ed25519 "

/-- The key after a keyword: trimmed, its `=` cut, decoded as unpadded
base64, and kept when it has 32 bytes. -/
def decodeKey (s : Bytes) : Option Bytes :=
  match rawStdDecodeString (trimRight (trimSpace s) (ascii "=")) with
  | .ok keyBytes => if keyBytes.length = 32 then some keyBytes else none
  | .error _ => none

/-- The `id ed25519 ` test of a line. -/
def edStep (k : MicrodescKeys) (line : Bytes) : MicrodescKeys :=
  if hasPrefix line edKeyword then
    match decodeKey (line.drop edKeyword.length) with
    | some key => { k with ed25519Key := key, hasEd := true }
    | none => k
  else k

/-- One pass of the loop of `ParseMicrodescriptor`: the `ntor-onion-key `
test, whose failure ends the pass (`continue`), then the Ed25519 test. -/
def microdescLine (k : MicrodescKeys) (line : Bytes) : MicrodescKeys :=
  if hasPrefix line ntorKeyword then
    match decodeKey (line.drop ntorKeyword.length) with
    | some key => edStep { k with ntorKey := key, hasNtor := true } line
    | none => k
  else edStep k line

/-- `ParseMicrodescriptor`. -/
def parseMicrodescriptor (text : Bytes) : MicrodescKeys :=
  (splitLines text).foldl (fun k line => microdescLine k (trimRight line (ascii "\r"))) noKeys

/-- The key a line gives for the keyword `kw`, if it starts with it and the
key decodes. -/
def lineKey (kw line : Bytes) : Option Bytes := if hasPrefix line kw then decodeKey (line.drop kw.length) else none

/-- No line starts with both keywords. -/
theorem edKeyword_of_ntorKeyword {line : Bytes} (h : hasPrefix line ntorKeyword = true) :
    hasPrefix line edKeyword = false :=
  hasPrefix_false_of h (by decide)

/-- One pass sets each key its line gives, whatever the `continue`. -/
theorem microdescLine_eq (k : MicrodescKeys) (line : Bytes) : microdescLine k line =
    ⟨(lineKey ntorKeyword line).getD k.ntorKey, (lineKey edKeyword line).getD k.ed25519Key,
      k.hasNtor || (lineKey ntorKeyword line).isSome, k.hasEd || (lineKey edKeyword line).isSome⟩ := by
  by_cases hn : hasPrefix line ntorKeyword = true
  · have he := edKeyword_of_ntorKeyword hn
    rw [microdescLine, if_pos hn]
    cases hk : decodeKey (line.drop ntorKeyword.length) <;> simp [lineKey, edStep, hn, he, hk]
  · rw [microdescLine, if_neg hn, edStep]
    by_cases he : hasPrefix line edKeyword = true
    · cases hk : decodeKey (line.drop edKeyword.length) <;> simp [lineKey, hn, he, hk]
    · simp [lineKey, hn, he]

theorem getLast?_getD_filterMap {α β : Type} (f : α → Option β) (a : α) (as : List α) (d : β) :
    ((as.filterMap f).getLast?).getD ((f a).getD d) = (((a :: as).filterMap f).getLast?).getD d := by
  rw [List.filterMap_cons]
  cases f a <;> simp [List.getLast?_cons]

theorem foldl_microdescLine : ∀ (ls : List Bytes) (k : MicrodescKeys), ls.foldl microdescLine k =
    ⟨((ls.filterMap (lineKey ntorKeyword)).getLast?).getD k.ntorKey,
      ((ls.filterMap (lineKey edKeyword)).getLast?).getD k.ed25519Key,
      k.hasNtor || !(ls.filterMap (lineKey ntorKeyword)).isEmpty,
      k.hasEd || !(ls.filterMap (lineKey edKeyword)).isEmpty⟩
  | [], _ => by simp
  | l :: ls, k => by
    rw [List.foldl_cons, foldl_microdescLine ls, microdescLine_eq]
    simp only [getLast?_getD_filterMap, List.filterMap_cons]
    congr 1 <;> cases lineKey ntorKeyword l <;> cases lineKey edKeyword l <;> simp

/-- `ParseMicrodescriptor` returns, for each kind, the key of the last line
whose key decodes to 32 bytes, and marks it present exactly when there is
one; the zero key and `false` otherwise. -/
theorem parseMicrodescriptor_eq (text : Bytes) :
    parseMicrodescriptor text =
      let ls := (splitLines text).map fun l => trimRight l (ascii "\r")
      ⟨((ls.filterMap (lineKey ntorKeyword)).getLast?).getD zeroKey,
        ((ls.filterMap (lineKey edKeyword)).getLast?).getD zeroKey,
        !(ls.filterMap (lineKey ntorKeyword)).isEmpty, !(ls.filterMap (lineKey edKeyword)).isEmpty⟩ := by
  rw [parseMicrodescriptor, ← List.foldl_map, foldl_microdescLine]
  rfl

/-! ## Reading back the key lines a relay writes -/

/-- A key as either base64 encoding writes it decodes back. -/
theorem decodeKey_encodeToString (padded : Bool) {key : Bytes} (h : key.length = 32) :
    decodeKey (encodeToString padded key) = some key := by
  have hraw : ∀ b ∈ encodeToString false key, b ∉ ascii "=" := fun b hb h61 =>
    absurd ((List.mem_singleton.1 h61) ▸ mem_encodeToString_raw hb) (by decide)
  have htrim : trimRight (trimSpace (encodeToString padded key)) (ascii "=") = encodeToString false key := by
    rw [trimSpace_of_forall fun b hb => (base64_char (mem_encodeToString hb)).1]
    cases padded
    · exact trimRight_of_forall hraw
    · obtain ⟨n, hn⟩ := encodeToString_padded key
      rw [hn]
      exact trimRight_append_of_forall hraw fun b hb => by rw [(List.mem_replicate.1 hb).2]; decide
  rw [decodeKey, htrim, rawStdDecodeString, decodeString, decodeLoop_encodeToString, List.nil_append]
  simp [h]

theorem lineKey_keyword {kw s : Bytes} : lineKey kw (kw ++ s) = decodeKey s := by
  rw [lineKey, if_pos (by simp [hasPrefix, isPrefixOf_iff]), List.drop_left]

/-- The ntor key line `ntor-onion-key KEY=` gives no Ed25519 key, and the
`id ed25519 KEY` line no ntor key. -/
theorem lineKey_other {kw kw' s : Bytes} (h : (kw.isPrefixOf kw' || kw'.isPrefixOf kw) = false) :
    lineKey kw' (kw ++ s) = none := by
  rw [lineKey, if_neg (by rw [hasPrefix_false_of (by simp [hasPrefix, isPrefixOf_iff] : hasPrefix (kw ++ s) kw = true) h]; decide)]

/-- A key line holds no line feed and no carriage return. -/
theorem keyLine_no_lf (kw : Bytes) (hkw : 10 ∉ kw ∧ 13 ∉ kw) (padded : Bool) (key : Bytes) :
    10 ∉ kw ++ encodeToString padded key ∧ 13 ∉ kw ++ encodeToString padded key := by
  simp only [List.mem_append, not_or]
  exact ⟨⟨hkw.1, fun h => (base64_char (mem_encodeToString h)).2.1 rfl⟩,
    ⟨hkw.2, fun h => (base64_char (mem_encodeToString h)).2.2.1 rfl⟩⟩

theorem filterMap_lineKey_nil {kw : Bytes} {ls : List Bytes} (h : ∀ l ∈ ls, hasPrefix l kw = false) :
    ls.filterMap (lineKey kw) = [] :=
  List.filterMap_eq_nil_iff.2 fun l hl => by simp [lineKey, h l hl]

/-- A microdescriptor whose only key lines are `ntor-onion-key` with the
ntor key in padded base64 and `id ed25519` with the Ed25519 key in unpadded
base64, in the order of dir-spec, gives back both keys. -/
theorem parseMicrodescriptor_keyLines {pre mid post : List Bytes} {ntorKey edKey : Bytes}
    (hn : ntorKey.length = 32) (he : edKey.length = 32)
    (hother : ∀ l ∈ pre ++ mid ++ post, 10 ∉ l ∧ 13 ∉ l ∧ hasPrefix l ntorKeyword = false ∧
      hasPrefix l edKeyword = false) :
    parseMicrodescriptor (joinLines (pre ++ (ntorKeyword ++ encodeToString true ntorKey) :: mid ++
      (edKeyword ++ encodeToString false edKey) :: post)) = ⟨ntorKey, edKey, true, true⟩ := by
  have hnl := keyLine_no_lf ntorKeyword (by decide) true ntorKey
  have hel := keyLine_no_lf edKeyword (by decide) false edKey
  have hlf : ∀ l ∈ pre ++ (ntorKeyword ++ encodeToString true ntorKey) :: mid ++
      (edKeyword ++ encodeToString false edKey) :: post ++ [[]], 10 ∉ l ∧ 13 ∉ l := by
    have ho : ∀ l ∈ pre ++ mid ++ post, 10 ∉ l ∧ 13 ∉ l := fun l hl => ⟨(hother l hl).1, (hother l hl).2.1⟩
    intro l hl
    simp only [List.mem_append, List.mem_cons, List.mem_singleton, List.not_mem_nil, or_false] at hl
    rcases hl with (((hl | rfl | hl) | rfl | hl) | rfl)
    · exact ho l (by simp [hl])
    · exact hnl
    · exact ho l (by simp [hl])
    · exact hel
    · exact ho l (by simp [hl])
    · exact ⟨List.not_mem_nil _, List.not_mem_nil _⟩
  have hkeys : ∀ kw, kw ≠ [] → (∀ l ∈ pre ++ mid ++ post, hasPrefix l kw = false) →
      (pre ++ (ntorKeyword ++ encodeToString true ntorKey) :: mid ++ (edKeyword ++ encodeToString false edKey) :: post ++
        [[]]).filterMap (lineKey kw) =
        (lineKey kw (ntorKeyword ++ encodeToString true ntorKey)).toList ++
          (lineKey kw (edKeyword ++ encodeToString false edKey)).toList := by
    intro kw hkw h
    have hp := filterMap_lineKey_nil fun l (hl : l ∈ pre) => h l (by simp [hl])
    have hm := filterMap_lineKey_nil fun l (hl : l ∈ mid) => h l (by simp [hl])
    have hq := filterMap_lineKey_nil fun l (hl : l ∈ post) => h l (by simp [hl])
    have hnil : lineKey kw [] = none := by cases kw <;> simp_all [lineKey, hasPrefix]
    simp only [List.filterMap_append, List.filterMap_cons, hp, hm, hq, hnil, List.filterMap_nil, List.nil_append]
    cases lineKey kw (ntorKeyword ++ encodeToString true ntorKey) <;>
      cases lineKey kw (edKeyword ++ encodeToString false edKey) <;> rfl
  rw [parseMicrodescriptor, ← List.foldl_map, foldl_microdescLine,
    splitLines_joinLines fun l hl => (hlf l (List.mem_append_left _ hl)).1,
    List.map_congr_left fun l hl => trimRight_cr (hlf l hl).2, List.map_id',
    hkeys ntorKeyword (by decide) fun l hl => (hother l hl).2.2.1, hkeys edKeyword (by decide) fun l hl => (hother l hl).2.2.2,
    lineKey_keyword, lineKey_keyword, lineKey_other (by decide), lineKey_other (by decide),
    decodeKey_encodeToString _ hn, decodeKey_encodeToString _ he]
  rfl

theorem parseMicrodescriptor_keyLines_sample :
    parseMicrodescriptor (joinLines ([ascii "onion-key"] ++ (ntorKeyword ++ encodeToString true (List.replicate 32 1)) ::
      [] ++ (edKeyword ++ encodeToString false (List.replicate 32 2)) :: [ascii "p accept 80,443"])) =
      ⟨List.replicate 32 1, List.replicate 32 2, true, true⟩ :=
  parseMicrodescriptor_keyLines rfl rfl (by decide)

/-! ## Cutting a body into microdescriptors -/

/-- `"onion-key\n"`, where each microdescriptor starts. -/
def mdMarker : Bytes := ascii "onion-key\n"

/-- `splitMicrodescriptors`: the text from each `onion-key\n` to the next,
or to the end, kept when it is not all white space. The slices are in
range: the marker is found at `idx`. -/
def splitMicrodescriptors (body : Bytes) : List Bytes :=
  if h : index body mdMarker < 0 then [] else
  let idx := (index body mdMarker).toNat
  let nextIdx := index (body.drop (idx + mdMarker.length)) mdMarker
  if nextIdx < 0 then (if trimSpace (body.drop idx) ≠ [] then [body.drop idx] else [])
  else
    let entry := slice body idx (idx + mdMarker.length + nextIdx.toNat)
    (if trimSpace entry ≠ [] then [entry] else []) ++
      splitMicrodescriptors (body.drop (idx + mdMarker.length + nextIdx.toNat))
termination_by body.length
decreasing_by
  have h10 : mdMarker.length ≤ body.length := (not_not.1 ((index_neg_iff _ _).not.1 h)).length_le
  have : mdMarker.length = 10 := rfl
  simp only [List.length_drop]
  omega

/-- No proper end of the marker starts it. -/
theorem mdMarker_unbordered : ∀ k < mdMarker.length, 0 < k → (mdMarker.drop k).isPrefixOf mdMarker = false := by
  decide

theorem splitMicrodescriptors_of_no_marker {body : Bytes} (h : ¬ mdMarker <:+: body) : splitMicrodescriptors body = [] := by
  rw [splitMicrodescriptors, dif_pos ((index_neg_iff _ _).2 h)]

/-- A microdescriptor after text with no marker, followed by nothing or by
another microdescriptor, is cut off whole. -/
theorem splitMicrodescriptors_append {pre t rest : Bytes} (hpre : ¬ mdMarker <:+: pre) (ht : ¬ mdMarker <:+: t)
    (hr : rest = [] ∨ mdMarker <+: rest) :
    splitMicrodescriptors (pre ++ (mdMarker ++ t) ++ rest) = (mdMarker ++ t) :: splitMicrodescriptors rest := by
  have hidx : index (pre ++ (mdMarker ++ t) ++ rest) mdMarker = pre.length := by
    rw [List.append_assoc, index_append_of_unbordered hpre ((List.prefix_append mdMarker t).trans (List.prefix_append _ rest))
      mdMarker_unbordered]
  have hdrop : (pre ++ (mdMarker ++ t) ++ rest).drop (pre.length + mdMarker.length) = t ++ rest := by
    rw [List.append_assoc, List.append_assoc, List.drop_append_eq_append_drop]
    simp
  have hkeep : trimSpace (mdMarker ++ t) ≠ [] := trimSpace_ne_nil (t := ascii "nion-key\n" ++ t) rfl
  rw [splitMicrodescriptors, dif_neg (by rw [hidx]; omega)]
  simp only [hidx, Int.toNat_natCast, hdrop]
  rcases hr with rfl | hr
  · rw [List.append_nil, if_pos ((index_neg_iff _ _).2 ht), List.append_nil, List.drop_left, if_pos hkeep,
      splitMicrodescriptors_of_no_marker (by rw [List.infix_nil]; decide)]
  · rw [index_append_of_unbordered ht hr mdMarker_unbordered, if_neg (by omega), Int.toNat_natCast]
    have hent : slice (pre ++ (mdMarker ++ t) ++ rest) pre.length (pre.length + mdMarker.length + t.length) =
        mdMarker ++ t := by
      rw [List.append_assoc, slice_append_right _ _ _ _ le_rfl, Nat.sub_self, slice_append_first _ _ (by simp; omega)]
    have hrest : (pre ++ (mdMarker ++ t) ++ rest).drop (pre.length + mdMarker.length + t.length) = rest := by
      rw [List.drop_left' (by simp; omega)]
    rw [hent, if_pos hkeep, hrest]
    rfl

theorem splitMicrodescriptors_flatten :
    ∀ {ts : List Bytes} (pre : Bytes), ¬ mdMarker <:+: pre → (∀ t ∈ ts, ¬ mdMarker <:+: t) →
      splitMicrodescriptors (pre ++ (ts.map (mdMarker ++ ·)).flatten) = ts.map (mdMarker ++ ·)
  | [], pre, hpre, _ => by rw [List.map_nil, List.flatten_nil, List.append_nil, splitMicrodescriptors_of_no_marker hpre]
  | t :: ts, pre, hpre, hts => by
    have hr : (ts.map (mdMarker ++ ·)).flatten = [] ∨ mdMarker <+: (ts.map (mdMarker ++ ·)).flatten := by
      rcases ts with _ | ⟨t', ts⟩
      · exact .inl rfl
      · exact .inr (by simp [List.append_assoc])
    rw [List.map_cons, List.flatten_cons, ← List.append_assoc, splitMicrodescriptors_append hpre (hts t (.head _)) hr,
      ← List.nil_append (ts.map (mdMarker ++ ·)).flatten,
      splitMicrodescriptors_flatten [] (by rw [List.infix_nil]; decide) fun t' h => hts t' (.tail _ h)]

/-- A text without a line feed holds no marker. -/
theorem no_mdMarker_of_no_lf {t : Bytes} (h : 10 ∉ t) : ¬ mdMarker <:+: t :=
  fun hi => h (hi.subset (by decide : (10 : UInt8) ∈ mdMarker))

/-- Microdescriptors laid end to end, after text with no marker, are cut
back into themselves. -/
theorem splitMicrodescriptors_texts {ts : List Bytes} (pre : Bytes) (hpre : ¬ mdMarker <:+: pre)
    (hts : ∀ t ∈ ts, ¬ mdMarker <:+: t) :
    splitMicrodescriptors (pre ++ (ts.map (mdMarker ++ ·)).flatten) = ts.map (mdMarker ++ ·) :=
  splitMicrodescriptors_flatten pre hpre hts

theorem splitMicrodescriptors_texts_sample :
    splitMicrodescriptors (ascii "@last-listed 2024-05-01 12:00:00" ++ ([ascii "ntor-onion-key A", ascii "family B"].map (mdMarker ++ ·)).flatten) =
      [ascii "ntor-onion-key A", ascii "family B"].map (mdMarker ++ ·) :=
  splitMicrodescriptors_texts _ (no_mdMarker_of_no_lf (by decide))
    (by simp only [List.mem_cons, List.mem_singleton, List.not_mem_nil, or_false]
        rintro t (rfl | rfl) <;> exact no_mdMarker_of_no_lf (by decide))

/-! ## Filling the relays -/

/-- The map of the first loop, from the relay index `i` on: each non-empty
digest to the index of the last relay that carries it. -/
def digestLoop (m : Bytes → Option Nat) : Nat → List Relay → Bytes → Option Nat
  | _, [] => m
  | i, r :: rs =>
    digestLoop (if r.microdescDigest = [] then m else fun d => if d = r.microdescDigest then some i else m d)
      (i + 1) rs

/-- `digestToIdx`. -/
def digestToIdx (relays : List Relay) : Bytes → Option Nat := digestLoop (fun _ => none) 0 relays

/-- `digests`: the non-empty digests, in the order of the relays. -/
def digests (relays : List Relay) : List Bytes :=
  relays.filterMap fun r => if r.microdescDigest = [] then none else some r.microdescDigest

/-- The batches `digests[i:end]` of the loop `for i := 0; i < len(digests);
i += 92`, `end` being `i + 92` or the length. -/
def batches (ds : List Bytes) : List (List Bytes) :=
  (List.range ((ds.length + 91) / 92)).map fun j => (ds.drop (92 * j)).take 92

/-- The URL of a batch. -/
def batchURL (addr : Bytes) (batch : List Bytes) : Bytes :=
  ascii "http://" ++ addr ++ ascii "/tor/micro/d/" ++ List.intercalate (ascii "-") batch

/-- What a microdescriptor with an ntor key writes into its relay. -/
def setKeys (k : MicrodescKeys) (r : Relay) : Relay :=
  let r := { r with ntorOnionKey := k.ntorKey, hasNtorKey := true }
  if k.hasEd then { r with ed25519ID := k.ed25519Key, hasEd25519 := true } else r

section Update

variable (sha256 : Bytes → Bytes)

/-- One microdescriptor of a body, matched by its SHA-256 in unpadded
base64. -/
def applyEntry (toIdx : Bytes → Option Nat) (relays : List Relay) (entry : Bytes) : List Relay :=
  match toIdx (encodeToString false (sha256 entry)) with
  | none => relays
  | some idx =>
    if (parseMicrodescriptor entry).hasNtor then relays.modify (setKeys (parseMicrodescriptor entry)) idx
    else relays

/-- One batch: its body, if one comes back, cut into microdescriptors. -/
def applyBatch (get : Bytes → Option Bytes) (addr : Bytes) (toIdx : Bytes → Option Nat) (relays : List Relay)
    (batch : List Bytes) : List Relay :=
  match get (batchURL addr batch) with
  | none => relays
  | some body => (splitMicrodescriptors body).foldl (applyEntry sha256 toIdx) relays

/-- `UpdateRelaysWithMicrodescriptors`. -/
def updateRelaysWithMicrodescriptors (get : Bytes → Option Bytes) (addr : Bytes) (relays : List Relay) :
    List Relay :=
  (batches (digests relays)).foldl (applyBatch sha256 get addr (digestToIdx relays)) relays

/-- `r` is `r0` with at most its keys changed, and each key set on it comes
from a microdescriptor whose digest is the consensus digest of `r0`. -/
structure KeysFrom (r0 r : Relay) : Prop where
  same : { r with ntorOnionKey := r0.ntorOnionKey, ed25519ID := r0.ed25519ID,
                  hasNtorKey := r0.hasNtorKey, hasEd25519 := r0.hasEd25519 } = r0
  ntor : (r.ntorOnionKey = r0.ntorOnionKey ∧ r.hasNtorKey = r0.hasNtorKey) ∨
    ∃ md, encodeToString false (sha256 md) = r0.microdescDigest ∧ (parseMicrodescriptor md).hasNtor = true ∧
      r.ntorOnionKey = (parseMicrodescriptor md).ntorKey ∧ r.hasNtorKey = true
  ed : (r.ed25519ID = r0.ed25519ID ∧ r.hasEd25519 = r0.hasEd25519) ∨
    ∃ md, encodeToString false (sha256 md) = r0.microdescDigest ∧ (parseMicrodescriptor md).hasEd = true ∧
      r.ed25519ID = (parseMicrodescriptor md).ed25519Key ∧ r.hasEd25519 = true

theorem KeysFrom.self (r0 : Relay) : KeysFrom sha256 r0 r0 := ⟨by cases r0; rfl, .inl ⟨rfl, rfl⟩, .inl ⟨rfl, rfl⟩⟩

theorem setKeys_digest (k : MicrodescKeys) (r : Relay) : (setKeys k r).microdescDigest = r.microdescDigest := by
  unfold setKeys; split <;> rfl

/-- Keys from a microdescriptor with the relay's digest keep `KeysFrom`. -/
theorem KeysFrom.setKeys {r0 r : Relay} {md : Bytes} (h : KeysFrom sha256 r0 r)
    (hd : encodeToString false (sha256 md) = r0.microdescDigest) (hn : (parseMicrodescriptor md).hasNtor = true) :
    KeysFrom sha256 r0 (setKeys (parseMicrodescriptor md) r) := by
  obtain ⟨hs, -, he⟩ := h
  unfold Directory.setKeys
  split
  · exact ⟨hs, .inr ⟨md, hd, hn, rfl, rfl⟩, .inr ⟨md, hd, ‹_›, rfl, rfl⟩⟩
  · exact ⟨hs, .inr ⟨md, hd, hn, rfl, rfl⟩, he⟩

end Update

/-- Where the map of the first loop points: to where it pointed before,
or to a later relay that carries the digest. -/
theorem digestLoop_cases :
    ∀ (m : Bytes → Option Nat) (i0 : Nat) (rs : List Relay) {d : Bytes} {i : Nat}, digestLoop m i0 rs d = some i →
      m d = some i ∨ d ≠ [] ∧ i0 ≤ i ∧ ∃ h : i - i0 < rs.length, rs[i - i0].microdescDigest = d
  | m, _, [], _, _, h => .inl h
  | m, i0, r :: rs, d, i, h => by
    rcases digestLoop_cases _ (i0 + 1) rs h with h | ⟨hd, hle, hlt, hr⟩
    · by_cases hr : r.microdescDigest = []
      · exact .inl (by simpa [hr] using h)
      · simp only [hr, if_false] at h
        split_ifs at h with hdr
        · cases h
          exact .inr ⟨hdr ▸ hr, le_rfl, by simp, by simp [hdr]⟩
        · exact .inl h
    · refine .inr ⟨hd, by omega, by simp; omega, ?_⟩
      have hi : i - i0 = (i - (i0 + 1)) + 1 := by omega
      simpa only [hi, List.getElem_cons_succ] using hr

/-- The map of the first loop points each digest to a relay that carries
it. -/
theorem digestToIdx_sound {relays : List Relay} {d : Bytes} {i : Nat} (h : digestToIdx relays d = some i) :
    d ≠ [] ∧ ∃ h : i < relays.length, relays[i].microdescDigest = d := by
  rcases digestLoop_cases _ 0 relays h with h | ⟨hd, -, hlt, hr⟩
  · cases h
  · exact ⟨hd, by simpa using hlt, by simpa using hr⟩

theorem digestLoop_append (m : Bytes → Option Nat) (xs ys : List Relay) :
    ∀ i0, digestLoop m i0 (xs ++ ys) = digestLoop (digestLoop m i0 xs) (i0 + xs.length) ys := by
  induction xs generalizing m with
  | nil => intro i0; rfl
  | cons x xs ih =>
    intro i0
    rw [List.cons_append, digestLoop, ih, digestLoop, List.length_cons, Nat.add_right_comm, Nat.add_assoc]

/-- Relays that do not carry a digest leave where the map points it. -/
theorem digestLoop_frame {d : Bytes} :
    ∀ (m : Bytes → Option Nat) (i0 : Nat) (rs : List Relay), (∀ r ∈ rs, r.microdescDigest ≠ d) →
      digestLoop m i0 rs d = m d
  | _, _, [], _ => rfl
  | m, i0, r :: rs, h => by
    rw [digestLoop, digestLoop_frame _ _ rs fun r' hr' => h r' (.tail _ hr')]
    split_ifs with hr
    · rfl
    · exact if_neg fun hd => h r (.head _) hd.symm

/-- The relay `i`, after `i` relays, and the relays after it. -/
theorem split_at {relays : List Relay} {i : Nat} (hi : i < relays.length) :
    relays = relays.take i ++ relays[i] :: relays.drop (i + 1) := by
  rw [List.getElem_cons_drop, List.take_append_drop]

/-- The map points a digest to the last relay that carries it. -/
theorem digestToIdx_last {relays : List Relay} {i : Nat} (hi : i < relays.length) (hd : relays[i].microdescDigest ≠ [])
    (hlast : ∀ j (hj : j < relays.length), i < j → relays[j].microdescDigest ≠ relays[i].microdescDigest) :
    digestToIdx relays relays[i].microdescDigest = some i := by
  have hlen : (relays.take i).length = i := List.length_take_of_le hi.le
  have hrest : ∀ r ∈ relays.drop (i + 1), r.microdescDigest ≠ relays[i].microdescDigest := by
    intro r hr
    obtain ⟨k, hk, rfl⟩ := List.getElem_of_mem hr
    rw [List.getElem_drop]
    exact hlast _ _ (by omega)
  rw [digestToIdx, congrArg (digestLoop (fun _ => none) 0) (split_at hi), digestLoop_append, digestLoop,
    digestLoop_frame _ _ _ hrest, if_neg hd, if_pos rfl, hlen, Nat.zero_add]

/-- The map never points a digest to a relay that a later relay with the
same digest shadows. -/
theorem digestToIdx_shadowed {relays : List Relay} {i j : Nat} (hij : i < j) (hj : j < relays.length)
    (hd : relays[j].microdescDigest ≠ []) : digestToIdx relays relays[j].microdescDigest ≠ some i := by
  have hlen : (relays.take j).length = j := List.length_take_of_le hj.le
  intro h
  rw [digestToIdx, congrArg (digestLoop (fun _ => none) 0) (split_at hj), digestLoop_append, digestLoop, hlen,
    if_neg hd] at h
  rcases digestLoop_cases _ _ _ h with h | ⟨-, hle, -⟩
  · simp only [if_pos, Nat.zero_add, Option.some.injEq] at h
    omega
  · omega

section Update

variable {sha256 : Bytes → Bytes}

/-- Every relay so far is the relay the update started from, with keys as
`KeysFrom` allows. -/
def KeysInv (sha256 : Bytes → Bytes) (relays₀ relays : List Relay) : Prop :=
  relays.length = relays₀.length ∧
    ∀ i (h₀ : i < relays₀.length) (h : i < relays.length), KeysFrom sha256 relays₀[i] relays[i]

theorem applyEntry_keysInv {relays₀ relays : List Relay} (hinv : KeysInv sha256 relays₀ relays) (entry : Bytes) :
    KeysInv sha256 relays₀ (applyEntry sha256 (digestToIdx relays₀) relays entry) := by
  unfold applyEntry
  split
  · exact hinv
  · rename_i idx hidx
    obtain ⟨-, hlt, hd⟩ := digestToIdx_sound hidx
    split
    · refine ⟨by rw [List.length_modify, hinv.1], fun i h₀ h => ?_⟩
      rw [List.getElem_modify]
      split
      · subst idx
        exact (hinv.2 i h₀ (by simpa using h)).setKeys sha256 hd.symm ‹_›
      · exact hinv.2 i h₀ (by simpa using h)
    · exact hinv

theorem applyBatch_keysInv {get : Bytes → Option Bytes} {addr : Bytes} {relays₀ relays : List Relay}
    (hinv : KeysInv sha256 relays₀ relays) (batch : List Bytes) :
    KeysInv sha256 relays₀ (applyBatch sha256 get addr (digestToIdx relays₀) relays batch) := by
  unfold applyBatch
  split
  · exact hinv
  · exact List.foldlRecOn (motive := KeysInv sha256 relays₀) _ _ _ hinv fun relays h entry _ =>
      applyEntry_keysInv h entry

theorem keysInv_updateRelays (get : Bytes → Option Bytes) (addr : Bytes) (relays : List Relay) :
    KeysInv sha256 relays (updateRelaysWithMicrodescriptors sha256 get addr relays) :=
  List.foldlRecOn (motive := KeysInv sha256 relays) _ _ _ ⟨rfl, fun _ _ _ => KeysFrom.self sha256 _⟩
    fun _ h batch _ => applyBatch_keysInv h batch

/-- Whatever the directory answers, the update changes only the keys of
each relay, and every key it sets on a relay comes from a microdescriptor
whose SHA-256, in unpadded base64, is the relay's consensus digest. -/
theorem updateRelays_keysFrom (sha256 : Bytes → Bytes) (get : Bytes → Option Bytes) (addr : Bytes)
    (relays : List Relay) :
    List.Forall₂ (KeysFrom sha256) relays (updateRelaysWithMicrodescriptors sha256 get addr relays) :=
  have h := keysInv_updateRelays get addr relays
  List.forall₂_iff_get.2 ⟨h.1.symm, fun i h₁ h₂ => h.2 i h₁ h₂⟩

/-- A microdescriptor that `toIdx` does not match to relay `i` leaves it
as it is. -/
theorem applyEntry_frame {toIdx : Bytes → Option Nat} {i : Nat} {entry : Bytes}
    (hi : toIdx (encodeToString false (sha256 entry)) ≠ some i) (relays : List Relay) :
    (applyEntry sha256 toIdx relays entry)[i]? = relays[i]? := by
  unfold applyEntry
  split
  · rfl
  · rename_i idx hidx
    have hne : idx ≠ i := fun h => hi (h ▸ hidx)
    split
    · simp [List.getElem?_modify, hne]
    · rfl

theorem applyBatch_frame {get : Bytes → Option Bytes} {addr : Bytes} {toIdx : Bytes → Option Nat} {i : Nat}
    (hi : ∀ d, toIdx d ≠ some i) (relays : List Relay) (batch : List Bytes) :
    (applyBatch sha256 get addr toIdx relays batch)[i]? = relays[i]? := by
  unfold applyBatch
  split
  · rfl
  · exact List.foldlRecOn (motive := fun rs => rs[i]? = relays[i]?) _ _ _ rfl fun rs h _ _ =>
      (applyEntry_frame (hi _) rs).trans h

/-- A relay whose digest a later relay also carries never gets a key: the
map of the first loop points the digest at the later relay. -/
theorem updateRelays_shadowed (sha256 : Bytes → Bytes) (get : Bytes → Option Bytes) (addr : Bytes)
    {relays : List Relay} {i j : Nat} (hij : i < j) (hj : j < relays.length)
    (hd : relays[i].microdescDigest = relays[j].microdescDigest) :
    (updateRelaysWithMicrodescriptors sha256 get addr relays)[i]? = relays[i]? := by
  have hi : ∀ d, digestToIdx relays d ≠ some i := by
    intro d h
    obtain ⟨hne, hlt, hdi⟩ := digestToIdx_sound h
    rw [← hdi, hd] at h hne
    exact digestToIdx_shadowed hij hj hne h
  exact List.foldlRecOn (motive := fun rs => rs[i]? = relays[i]?) _ _ _ rfl fun rs h batch _ =>
    (applyBatch_frame hi rs batch).trans h

/-- A relay of the sample consensus whose microdescriptor digest is that of
32 zero bytes. -/
def sampleRelay : Relay := { sampleEntry.relay with microdescDigest := encodeToString false zeroKey }

theorem updateRelays_shadowed_sample :
    (updateRelaysWithMicrodescriptors (fun _ => zeroKey) (fun _ => none) (ascii "127.0.0.1:7000")
      [sampleRelay, sampleRelay])[0]? = [sampleRelay, sampleRelay][0]? :=
  updateRelays_shadowed _ _ _ (j := 1) (by decide) (by decide) rfl

/-! ## A directory that answers with the right microdescriptors -/

theorem setKeys_setKeys (k : MicrodescKeys) (r : Relay) : setKeys k (setKeys k r) = setKeys k r := by
  unfold setKeys
  cases k.hasEd <;> rfl

/-- The loop over the batches takes the first 92 digests, then the rest. -/
theorem batches_cons {ds : List Bytes} (h : ds ≠ []) : batches ds = ds.take 92 :: batches (ds.drop 92) := by
  have hlen : (ds.length + 91) / 92 = ((ds.drop 92).length + 91) / 92 + 1 := by
    have := List.length_pos.2 h
    rw [List.length_drop]
    omega
  rw [batches, hlen, List.range_succ_eq_map, List.map_cons, List.map_map, batches]
  congr 1
  refine List.map_congr_left fun j _ => ?_
  simp only [Function.comp, List.drop_drop, Nat.mul_succ, Nat.add_comm]

/-- The batches hold every digest, in order. -/
theorem flatten_batches : ∀ ds : List Bytes, (batches ds).flatten = ds
  | [] => rfl
  | d :: ds => by
    rw [batches_cons (List.cons_ne_nil _ _), List.flatten_cons, flatten_batches, List.take_append_drop]
termination_by ds => ds.length
decreasing_by simp only [List.length_drop, List.length_cons]; omega

/-- A step that keeps `P` and `Q` and, at `b₀`, goes from `P` to `Q`, goes
from `P` to `Q` over every list that holds `b₀`. -/
theorem foldl_reaches {α β : Type} {P Q : α → Prop} {f : α → β → α} {l : List β} {b₀ : β}
    (hP : ∀ a, ∀ b ∈ l, P a → P (f a b)) (hQ : ∀ a, ∀ b ∈ l, Q a → Q (f a b)) (hb : ∀ a, P a → Q (f a b₀))
    (hl : b₀ ∈ l) {a : α} (ha : P a) : Q (l.foldl f a) := by
  obtain ⟨s, t, rfl⟩ := List.append_of_mem hl
  rw [List.foldl_append, List.foldl_cons]
  refine List.foldlRecOn (motive := Q) _ _ _ (hb _ ?_) fun a h b hb' => hQ a b (by simp [hb']) h
  exact List.foldlRecOn (motive := P) _ _ _ ha fun a h b hb' => hP a b (by simp [hb']) h

/-- When the directory answers each batch with the microdescriptors of its
digests laid end to end, the update applies the microdescriptor of each
digest in turn. -/
theorem updateRelays_of_answers (sha256 md : Bytes → Bytes) (get : Bytes → Option Bytes) (addr : Bytes)
    {relays : List Relay} (hmd : ∀ d ∈ digests relays, ¬ mdMarker <:+: md d)
    (hget : ∀ batch ∈ batches (digests relays),
      get (batchURL addr batch) = some (batch.map fun d => mdMarker ++ md d).flatten) :
    updateRelaysWithMicrodescriptors sha256 get addr relays =
      (digests relays).foldl (fun rs d => applyEntry sha256 (digestToIdx relays) rs (mdMarker ++ md d)) relays := by
  have hmemb : ∀ b ∈ batches (digests relays), ∀ d ∈ b, d ∈ digests relays := fun b hb d h => by
    rw [← flatten_batches (digests relays)]
    exact List.mem_flatten.2 ⟨b, hb, h⟩
  conv_rhs => rw [← flatten_batches (digests relays), List.foldl_flatten]
  refine List.foldl_ext _ _ _ fun rs b hb => ?_
  rw [applyBatch, hget b hb]
  dsimp only
  rw [show (b.map fun d => mdMarker ++ md d) = (b.map md).map (mdMarker ++ ·) from (List.map_map _ _ _).symm,
    ← List.nil_append ((b.map md).map (mdMarker ++ ·)).flatten,
    splitMicrodescriptors_flatten [] (by rw [List.infix_nil]; decide)
      (fun t ht => by obtain ⟨d, hd, rfl⟩ := List.mem_map.1 ht; exact hmd d (hmemb b hb d hd)),
    List.foldl_map, List.foldl_map]

/-- When the directory answers every batch with the microdescriptors of its
digests, each with that digest, every relay that is the last to carry its
digest gets the keys of its microdescriptor, if it has an ntor key. -/
theorem updateRelays_honest (sha256 md : Bytes → Bytes) (get : Bytes → Option Bytes) (addr : Bytes)
    {relays : List Relay}
    (hmd : ∀ d ∈ digests relays, encodeToString false (sha256 (mdMarker ++ md d)) = d ∧ ¬ mdMarker <:+: md d)
    (hget : ∀ batch ∈ batches (digests relays),
      get (batchURL addr batch) = some (batch.map fun d => mdMarker ++ md d).flatten)
    {i : Nat} (hi : i < relays.length) (hd : relays[i].microdescDigest ≠ [])
    (hlast : ∀ j (hj : j < relays.length), i < j → relays[j].microdescDigest ≠ relays[i].microdescDigest)
    (hn : (parseMicrodescriptor (mdMarker ++ md relays[i].microdescDigest)).hasNtor = true) :
    (updateRelaysWithMicrodescriptors sha256 get addr relays)[i]? =
      some (setKeys (parseMicrodescriptor (mdMarker ++ md relays[i].microdescDigest)) relays[i]) := by
  have hlastIdx := digestToIdx_last hi hd hlast
  have hDmem : relays[i].microdescDigest ∈ digests relays :=
    List.mem_filterMap.2 ⟨relays[i], List.getElem_mem hi, by simp [hd]⟩
  have hidx : ∀ d, digestToIdx relays d = some i → d = relays[i].microdescDigest := fun d h => by
    obtain ⟨-, hlt, hd'⟩ := digestToIdx_sound h
    exact hd'.symm
  rw [updateRelays_of_answers sha256 md get addr (fun d hd => (hmd d hd).2) hget]
  generalize relays[i].microdescDigest = D at hlastIdx hDmem hidx hn ⊢
  generalize hk : parseMicrodescriptor (mdMarker ++ md D) = k at hn ⊢
  -- what the microdescriptor of a digest does to relay `i`
  have hentry : ∀ d ∈ digests relays, ∀ rs : List Relay,
      (applyEntry sha256 (digestToIdx relays) rs (mdMarker ++ md d))[i]? =
        if d = D then (setKeys k) <$> rs[i]? else rs[i]? := by
    intro d hdm rs
    split_ifs with hdD
    · subst hdD
      rw [applyEntry, (hmd _ hdm).1, hlastIdx]
      dsimp only
      rw [hk, if_pos hn, List.getElem?_modify]
      simp
    · exact applyEntry_frame (by rw [(hmd d hdm).1]; exact mt (hidx d) hdD) rs
  refine foldl_reaches (P := fun rs : List Relay => rs[i]? = some relays[i] ∨ rs[i]? = some (setKeys k relays[i]))
    (Q := fun rs : List Relay => rs[i]? = some (setKeys k relays[i]))
    (fun rs d hdm h => ?_) (fun rs d hdm h => ?_) (fun rs h => ?_) hDmem (.inl (List.getElem?_eq_getElem hi))
  · simp only [hentry d hdm]
    split_ifs
    · rcases h with h | h <;> simp [h, setKeys_setKeys]
    · exact h
  · simp only [hentry d hdm]
    split_ifs
    · simp [h, setKeys_setKeys]
    · exact h
  · simp only [hentry D hDmem, if_pos]
    rcases h with h | h <;> simp [h, setKeys_setKeys]

/-- A microdescriptor with the ntor key of 32 zero bytes. -/
def sampleMicrodesc : Bytes := ascii "ntor-onion-key AAAAAAAAAAAAAAAAAAAAAAAAAAAAAAAAAAAAAAAAAAA="

theorem updateRelays_honest_sample :
    (∀ d ∈ digests [sampleRelay, sampleRelay],
      encodeToString false ((fun _ => zeroKey : Bytes → Bytes) (mdMarker ++ sampleMicrodesc)) = d ∧
        ¬ mdMarker <:+: sampleMicrodesc) ∧
    (updateRelaysWithMicrodescriptors (fun _ => zeroKey)
      (fun _ => some (mdMarker ++ sampleMicrodesc ++ (mdMarker ++ sampleMicrodesc)))
      (ascii "127.0.0.1:7000") [sampleRelay, sampleRelay])[1]? =
      some (setKeys (parseMicrodescriptor (mdMarker ++ sampleMicrodesc)) sampleRelay) :=
  have hmd : ∀ d ∈ digests [sampleRelay, sampleRelay],
      encodeToString false ((fun _ => zeroKey : Bytes → Bytes) (mdMarker ++ sampleMicrodesc)) = d ∧
        ¬ mdMarker <:+: sampleMicrodesc := fun d hd =>
    ⟨by
      rw [show digests [sampleRelay, sampleRelay] = [encodeToString false zeroKey, encodeToString false zeroKey]
        by decide] at hd
      rcases List.mem_pair.1 hd with rfl | rfl <;> rfl,
     no_mdMarker_of_no_lf (show 10 ∉ sampleMicrodesc by decide)⟩
  ⟨hmd, updateRelays_honest (fun _ => zeroKey) (fun _ => sampleMicrodesc) _ _ hmd
    (fun b hb => by
      rw [show batches (digests [sampleRelay, sampleRelay]) =
        [[encodeToString false zeroKey, encodeToString false zeroKey]] by decide] at hb
      rw [List.mem_singleton.1 hb]
      rfl)
    (by decide) (by decide) (fun j hj h => absurd hj (by simp; omega)) (by decide)⟩

end Update
end TorGo.L5.Directory
