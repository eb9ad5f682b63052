import TorGo.L1Encoding.Bytes
import Mathlib.Data.List.DropRight
import Mathlib.Data.List.Basic

/-!
# Text as Go's `strings` package sees it

A Go `string` is a byte string, and the text formats of the client (onion
service descriptors and their layers) are read line by line with the
functions of `strings`. This module gives those functions on `Bytes`:

* `hasPrefix`, `trimPrefix`, `contains`, `hasSuffix`, `trimSuffix`, `trimRight`,
  `trimSpace`;
* `index` (`strings.Index`, with its `-1`), `toLower` and `toUpper`;
* `splitLines` (`strings.Split(s, "\n")`), `beforeFirst`
  (`strings.Split(s, sep)[0]`) and `fields` (`strings.Fields`), with
  `joinWords` (`strings.Join(ws, " ")`) the writer `fields` undoes;
* `hexEncode` (`hex.EncodeToString`) and `bytesCompare` (`bytes.Compare`);
* `ascii`, the bytes of an ASCII literal of the source, and `byteText`, the
  text `%s` prints for a byte string.

`strings.TrimSpace` also trims the UTF-8 encodings of the non-ASCII Unicode
spaces (U+0085, U+00A0, U+2000..U+200A and a few more); `trimSpace` trims
the six ASCII ones only, which is all the base64 text of a descriptor holds.
Likewise `strings.ToLower` maps every upper-case rune; `toLower` maps
`A`..`Z`, which is all of it on ASCII text, and `toUpper` maps `a`..`z`.
`strings.Fields` splits at the same spaces as `strings.TrimSpace` trims.

A text made of lines, each ended by a line feed, is `joinLines`; it is how
the directory documents are laid out, and `splitLines` gives its lines back.

Results:
* `index_cases`, `index_neg_iff`: `index` is `-1` exactly when `sep` does not
  occur, and otherwise the length of what stands before an occurrence;
* `index_append`: no occurrence starting in `x` shifts the index in `y` by
  the length of `x`;
* `contains_eq_true_iff`: `contains` is `<:+:`;
* `index_append_of_last`, `index_append_of_head`: `index_append` where the
  last byte of `x`, or the first of `y`, cannot stand inside `sep`;
* `splitLines_joinLines`, `not_infix_joinLines`: the lines of a joined
  text, and that a `sep` with no line feed occurs in it only inside a line;
* `fields_joinWords`: the fields of words joined by spaces are the words.

Go's slice expressions `s[:i]` and `s[i:]` take an `int` and panic when it is
out of range: they are `sliceUpTo` and `sliceFrom`, with `none` for the
panic.
-/
namespace TorGo.L1

/-- The bytes of an ASCII string literal of the source. -/
def ascii (s : String) : Bytes := s.toList.map fun c => c.toNat.toUInt8

/-- `strings.HasPrefix`. -/
def hasPrefix (s pre : Bytes) : Bool := pre.isPrefixOf s

/-- `strings.TrimPrefix`. -/
def trimPrefix (s pre : Bytes) : Bytes := if pre.isPrefixOf s then s.drop pre.length else s

/-- `strings.Contains`. -/
def contains : Bytes → Bytes → Bool
  | [], sub => sub.isEmpty
  | b :: s, sub => sub.isPrefixOf (b :: s) || contains s sub

/-- `strings.TrimSuffix`. -/
def trimSuffix (s suf : Bytes) : Bytes :=
  if suf.isSuffixOf s then s.take (s.length - suf.length) else s

/-- `strings.HasSuffix`. -/
def hasSuffix (s suf : Bytes) : Bool := suf.isSuffixOf s

/-- `strings.TrimRight` with an ASCII cutset. -/
def trimRight (s cutset : Bytes) : Bytes := s.rdropWhile (fun b => cutset.contains b)

/-- The ASCII bytes `unicode.IsSpace` accepts: `\t \n \v \f \r` and space. -/
def isAsciiSpace (b : UInt8) : Bool := b == 32 || (9 ≤ b && b ≤ 13)

/-- `strings.TrimSpace`, on ASCII white space. -/
def trimSpace (s : Bytes) : Bytes := (s.dropWhile isAsciiSpace).rdropWhile isAsciiSpace

/-- `strings.Index`: the position of the first occurrence of `sep` in `s`,
`-1` when there is none. -/
def index (s sep : Bytes) : Int :=
  if sep.isPrefixOf s then 0
  else match s with
    | [] => -1
    | _ :: s => if index s sep < 0 then -1 else index s sep + 1

/-- `strings.ToLower`, on ASCII letters. -/
def toLower (s : Bytes) : Bytes := s.map fun b => if 65 ≤ b ∧ b ≤ 90 then b + 32 else b

/-- The text `%s` prints for a byte string, one character per byte. -/
def byteText (b : Bytes) : String := ⟨b.map fun x => Char.ofNat x.toNat⟩

/-- `strings.ToUpper`, on ASCII letters. -/
def toUpper (s : Bytes) : Bytes := s.map fun b => if 97 ≤ b ∧ b ≤ 122 then b - 32 else b

/-- `hextable` of `encoding/hex`. -/
def hextable : Bytes := ascii "0123456789abcdef"

/-- `hex.EncodeToString`: each byte as two digits of `hextable`. -/
def hexEncode (b : Bytes) : Bytes :=
  b.flatMap fun x => [hextable.getD (x.toNat / 16) 0, hextable.getD (x.toNat % 16) 0]

/-- `bytes.Compare`: `-1`, `0` or `1` as `a` is before, equal to or after
`b` in lexicographic byte order. -/
def bytesCompare : Bytes → Bytes → Int
  | [], [] => 0
  | [], _ :: _ => -1
  | _ :: _, [] => 1
  | a :: as, b :: bs => if a < b then -1 else if b < a then 1 else bytesCompare as bs

/-- `strings.Split(s, "\n")`. -/
def splitLines (s : Bytes) : List Bytes := s.splitOn 10

/-- `strings.Split(s, sep)[0]` for a non-empty `sep`: the bytes before the
first occurrence of `sep`. -/
def beforeFirst : Bytes → Bytes → Bytes
  | [], _ => []
  | b :: s, sep => if sep.isPrefixOf (b :: s) then [] else b :: beforeFirst s sep

/-- `strings.Fields`: the non-empty runs of bytes between white space. -/
def fields (s : Bytes) : List Bytes := (s.splitOnP isAsciiSpace).filter fun w => !w.isEmpty

/-- A field of a line: not empty, and no white space. -/
def IsWord (w : Bytes) : Prop := w ≠ [] ∧ ∀ b ∈ w, isAsciiSpace b = false

instance : DecidablePred IsWord := fun w => inferInstanceAs (Decidable (w ≠ [] ∧ ∀ b ∈ w, isAsciiSpace b = false))

/-- Text of bytes below `0x80`. On such text Go's `strings.Fields`,
`TrimSpace` and `ToUpper`, which act on Unicode runes, act byte by byte as
`fields`, `trimSpace` and `toUpper` do. -/
def IsAscii (s : Bytes) : Prop := ∀ b ∈ s, b < 128

instance : DecidablePred IsAscii := fun s => inferInstanceAs (Decidable (∀ b ∈ s, b < 128))

/-- `strings.Join(w :: ws, " ")`: the words with one space between each two. -/
def joinWords (w : Bytes) (ws : List Bytes) : Bytes := w ++ ws.flatMap (32 :: ·)

/-- The text whose lines are `ls`, each ended by a line feed. -/
def joinLines (ls : List Bytes) : Bytes := (ls.map (· ++ [10])).flatten

/-! ## Go slice expressions -/

/-- `s[:i]`; `none` is Go's "slice bounds out of range" panic. -/
def sliceUpTo (s : Bytes) (i : Int) : Option Bytes :=
  if 0 ≤ i ∧ i ≤ s.length then some (s.take i.toNat) else none

/-- `s[i:]`; `none` is the panic. -/
def sliceFrom (s : Bytes) (i : Int) : Option Bytes :=
  if 0 ≤ i ∧ i ≤ s.length then some (s.drop i.toNat) else none

theorem sliceUpTo_of_le {s : Bytes} {i : Int} (h0 : 0 ≤ i) (h : i ≤ s.length) :
    sliceUpTo s i = some (s.take i.toNat) := by
  simp [sliceUpTo, h0, h]

theorem sliceFrom_of_le {s : Bytes} {i : Int} (h0 : 0 ≤ i) (h : i ≤ s.length) :
    sliceFrom s i = some (s.drop i.toNat) := by
  simp [sliceFrom, h0, h]

theorem sliceUpTo_append {x y : Bytes} {i : Int} (h : i = x.length) : sliceUpTo (x ++ y) i = some x := by
  rw [sliceUpTo_of_le (by omega) (by simp only [List.length_append]; omega)]
  simp [h]

theorem sliceFrom_append {x y : Bytes} {i : Int} (h : i = x.length) : sliceFrom (x ++ y) i = some y := by
  rw [sliceFrom_of_le (by omega) (by simp only [List.length_append]; omega)]
  simp [h]

theorem sliceUpTo_of_neg {s : Bytes} {i : Int} (h : i < 0) : sliceUpTo s i = none := by
  simp only [sliceUpTo, ite_eq_right_iff, reduceCtorEq]
  omega

theorem sliceFrom_length {s r : Bytes} {i : Int} (h : sliceFrom s i = some r) :
    0 ≤ i ∧ r.length + i.toNat = s.length := by
  unfold sliceFrom at h
  split at h
  · cases h
    simp only [List.length_drop]
    omega
  · cases h

/-! ## `strings.Index` and `strings.Contains` -/

theorem isPrefixOf_iff {s sep : Bytes} : sep.isPrefixOf s = true ↔ sep <+: s := List.isPrefixOf_iff_prefix

theorem index_eq_zero_of_isPrefixOf {s sep : Bytes} (h : sep <+: s) : index s sep = 0 := by
  unfold index
  rw [if_pos (isPrefixOf_iff.2 h)]

theorem index_nonneg_of_isPrefixOf {s sep : Bytes} (h : sep <+: s) : 0 ≤ index s sep := by
  have := index_eq_zero_of_isPrefixOf h
  omega

theorem index_cons_of_not_isPrefixOf {b : UInt8} {s sep : Bytes} (h : ¬ sep <+: b :: s) :
    index (b :: s) sep = if index s sep < 0 then -1 else index s sep + 1 := by
  conv_lhs => unfold index
  rw [if_neg (mt isPrefixOf_iff.1 h)]

theorem index_nil_of_ne {sep : Bytes} (h : sep ≠ []) : index [] sep = -1 := by
  unfold index
  rw [if_neg (mt isPrefixOf_iff.1 (mt List.prefix_nil.1 h))]

/-- `index` is `-1`, or the length of the bytes before an occurrence of `sep`. -/
theorem index_cases (s sep : Bytes) :
    index s sep = -1 ∨ ∃ h t, s = h ++ sep ++ t ∧ index s sep = h.length := by
  by_cases hp : sep <+: s
  · obtain ⟨t, rfl⟩ := hp
    exact .inr ⟨[], t, rfl, index_eq_zero_of_isPrefixOf (List.prefix_append _ _)⟩
  induction s with
  | nil => exact .inl (index_nil_of_ne fun h => hp (h ▸ List.nil_prefix))
  | cons b s ih =>
    rw [index_cons_of_not_isPrefixOf hp]
    by_cases hs : sep <+: s
    · obtain ⟨t, rfl⟩ := hs
      rw [index_eq_zero_of_isPrefixOf (List.prefix_append _ _)]
      exact .inr ⟨[b], t, rfl, rfl⟩
    rcases ih hs with hi | ⟨h, t, rfl, hi⟩
    · exact .inl (by rw [hi]; rfl)
    · exact .inr ⟨b :: h, t, rfl, by rw [hi, if_neg (by omega)]; simp⟩

theorem index_neg_iff (s sep : Bytes) : index s sep < 0 ↔ ¬ sep <:+: s := by
  induction s with
  | nil =>
    by_cases h : sep = []
    · subst h
      simp [index_eq_zero_of_isPrefixOf List.nil_prefix]
    · simp [index_nil_of_ne h, List.infix_nil, h]
  | cons b s ih =>
    rw [List.infix_cons_iff]
    by_cases hp : sep <+: b :: s
    · simp [index_eq_zero_of_isPrefixOf hp, hp]
    · rw [index_cons_of_not_isPrefixOf hp, not_or, ← ih]
      simp only [hp, not_false_eq_true, true_and]
      split_ifs <;> constructor <;> intro <;> omega

/-- An occurrence of `sep` in `y` after bytes `x` in which none starts is an
occurrence in `x ++ y`, `x.length` further on. -/
theorem index_append {x y sep : Bytes} (hx : ∀ z, z <:+ x → z ≠ [] → ¬ sep <+: z ++ y)
    (hy : 0 ≤ index y sep) : index (x ++ y) sep = x.length + index y sep := by
  induction x with
  | nil => simp
  | cons b x ih =>
    have hb : ¬ sep <+: b :: (x ++ y) := hx _ (List.suffix_refl _) (List.cons_ne_nil _ _)
    have hrest := ih fun z hz => hx z (hz.trans (List.suffix_cons _ _))
    rw [List.cons_append, index_cons_of_not_isPrefixOf hb, hrest, if_neg (by omega)]
    simp only [List.length_cons]
    omega

theorem contains_eq_true_iff (s sub : Bytes) : contains s sub = true ↔ sub <:+: s := by
  induction s with
  | nil => simp [contains, List.infix_nil]
  | cons b s ih => rw [List.infix_cons_iff, ← ih, ← isPrefixOf_iff]; simp [contains]

/-- `index_append` when no occurrence of `sep` straddles `x` and `y`: no split
of `sep` into a non-empty end of `x` and a non-empty start of `y`. -/
theorem index_append_of_no_straddle {x y sep : Bytes} (hx : ¬ sep <:+: x)
    (hs : ∀ z w, z ≠ [] → w ≠ [] → sep = z ++ w → z <:+ x → ¬ w <+: y)
    (hy : 0 ≤ index y sep) : index (x ++ y) sep = x.length + index y sep := by
  refine index_append (fun z hz hne hp => ?_) hy
  by_cases hl : sep.length ≤ z.length
  · exact hx ((List.prefix_of_prefix_length_le hp (List.prefix_append z y) hl).isInfix.trans hz.isInfix)
  · obtain ⟨w, rfl⟩ := List.prefix_of_prefix_length_le (List.prefix_append z y) hp (by omega)
    have hw : w ≠ [] := by rintro rfl; simp at hl
    exact hs z w hne hw rfl hz ((List.prefix_append_right_inj z).1 hp)

/-- No occurrence straddles `x` and `y` when the last byte of `x` is not in `sep`. -/
theorem index_append_of_last {x y sep : Bytes} {c : UInt8} (hx : ¬ sep <:+: x)
    (hc : x.getLast? = some c) (hcs : c ∉ sep) (hy : 0 ≤ index y sep) :
    index (x ++ y) sep = x.length + index y sep := by
  refine index_append_of_no_straddle hx (fun z w hz _ hsep hzx _ => hcs ?_) hy
  obtain ⟨u, rfl⟩ := hzx
  rw [List.getLast?_append_of_ne_nil _ hz] at hc
  exact hsep ▸ List.mem_append_left w (List.mem_of_mem_getLast? hc)

/-- No occurrence straddles `x` and `y` when the first byte of `y` stands in
`sep` at its head only. -/
theorem index_append_of_head {x y sep : Bytes} {c : UInt8} (hx : ¬ sep <:+: x)
    (hc : y.head? = some c) (hcs : c ∉ sep.tail) (hy : 0 ≤ index y sep) :
    index (x ++ y) sep = x.length + index y sep := by
  refine index_append_of_no_straddle hx (fun z w hz hw hsep _ hwy => hcs ?_) hy
  obtain ⟨t, rfl⟩ := hwy
  obtain ⟨a, z, rfl⟩ := List.exists_cons_of_ne_nil hz
  rw [List.head?_append_of_ne_nil _ hw] at hc
  exact hsep ▸ List.mem_append_right z (List.mem_of_mem_head? hc)

/-- No occurrence straddles `x` and a `y` that starts with `sep`, when no
proper end of `sep` starts `sep`. -/
theorem index_append_of_unbordered {x y sep : Bytes} (hx : ¬ sep <:+: x) (hy : sep <+: y)
    (hb : ∀ k < sep.length, 0 < k → (sep.drop k).isPrefixOf sep = false) :
    index (x ++ y) sep = x.length := by
  rw [index_append_of_no_straddle hx (fun z w hz hw hsep _ hwy => ?_) (index_nonneg_of_isPrefixOf hy),
    index_eq_zero_of_isPrefixOf hy, Int.add_zero]
  have hlen : z.length + w.length = sep.length := by rw [hsep, List.length_append]
  have hz0 : 0 < z.length := List.length_pos.2 hz
  have hw0 : 0 < w.length := List.length_pos.2 hw
  have hdrop : sep.drop z.length = w := by rw [hsep, List.drop_left]
  have hwsep : w <+: sep := List.prefix_of_prefix_length_le hwy hy (by omega)
  exact absurd (isPrefixOf_iff.2 (hdrop ▸ hwsep)) (by rw [hb z.length (by omega) hz0]; decide)

/-- `TrimSpace` keeps a text that starts with a byte that is no space. -/
theorem trimSpace_ne_nil {c : UInt8} {t : Bytes} (hc : isAsciiSpace c = false) : trimSpace (c :: t) ≠ [] := by
  rw [trimSpace, List.dropWhile_cons_of_neg (by simp [hc]), Ne, List.rdropWhile_eq_nil_iff]
  exact fun h => absurd (h c (List.mem_cons_self _ _)) (by simp [hc])

/-- An occurrence of `sep` in `a ++ c :: b`, with `c ∉ sep`, lies in `a` or in `b`. -/
theorem infix_append_cons {a b sep : Bytes} {c : UInt8} (hc : c ∉ sep) (h : sep <:+: a ++ c :: b) :
    sep <:+: a ∨ sep <:+: b := by
  obtain ⟨s, t, hst⟩ := h
  rcases List.append_eq_append_iff.1 hst with ⟨a', rfl, -⟩ | ⟨_ | ⟨d, c'⟩, hs, hb⟩
  · exact .inl (List.infix_append _ _ _)
  · exact .inl ⟨s, [], by simpa using hs⟩
  · obtain ⟨rfl, rfl⟩ := List.cons_eq_cons.1 hb
    rcases List.append_eq_append_iff.1 hs with ⟨a'', -, rfl⟩ | ⟨_ | ⟨e, d'⟩, -, hd⟩
    · exact absurd (List.mem_append_right a'' (List.mem_cons_self c c')) hc
    · exact absurd (hd ▸ List.mem_cons_self c c') (by simpa using hc)
    · obtain ⟨rfl, rfl⟩ := List.cons_eq_cons.1 hd
      exact .inr ⟨d', t, by simp⟩

/-! ## Texts made of lines -/

theorem joinLines_cons (l : Bytes) (ls : List Bytes) : joinLines (l :: ls) = l ++ 10 :: joinLines ls := by
  simp [joinLines]

theorem joinLines_append (ls ls' : List Bytes) : joinLines (ls ++ ls') = joinLines ls ++ joinLines ls' := by
  simp [joinLines]

theorem flatten_map_joinLines {α : Type} (f : α → List Bytes) (xs : List α) :
    (xs.map fun x => joinLines (f x)).flatten = joinLines (xs.flatMap f) := by
  induction xs with
  | nil => rfl
  | cons x xs ih => rw [List.map_cons, List.flatten_cons, ih, List.flatMap_cons, joinLines_append]

theorem splitLines_line {l : Bytes} (hl : 10 ∉ l) (s : Bytes) : splitLines (l ++ 10 :: s) = l :: splitLines s :=
  List.splitOnP_first (· == 10) l (fun _ hb h => hl (beq_iff_eq.1 h ▸ hb)) 10 (beq_self_eq_true _) s

theorem splitLines_joinLines {ls : List Bytes} (h : ∀ l ∈ ls, 10 ∉ l) : splitLines (joinLines ls) = ls ++ [[]] := by
  induction ls with
  | nil => rfl
  | cons l ls ih =>
    rw [joinLines_cons, splitLines_line (h l (.head _)), ih fun l' hl' => h l' (.tail _ hl')]
    rfl

/-- `strings.Index(s, "\n")` on a line and what follows it. -/
theorem splitLines_joinLines_append : ∀ {ls : List Bytes}, (∀ l ∈ ls, 10 ∉ l) → ∀ s,
    splitLines (joinLines ls ++ s) = ls ++ splitLines s
  | [], _, _ => rfl
  | l :: ls, h, s => by
    rw [joinLines_cons, List.append_assoc, List.cons_append, splitLines_line (h l (.head _)),
      splitLines_joinLines_append (fun l' hl => h l' (.tail _ hl)), List.cons_append]

theorem hasPrefix_append (pre s : Bytes) : hasPrefix (pre ++ s) pre = true := by
  simp [hasPrefix, isPrefixOf_iff]

theorem trimPrefix_append (pre s : Bytes) : trimPrefix (pre ++ s) pre = s := by
  simp [trimPrefix, List.isPrefixOf_iff_prefix]

theorem index_line {l : Bytes} (hl : 10 ∉ l) (t : Bytes) : index (l ++ 10 :: t) [10] = l.length := by
  have h0 : index (10 :: t) [10] = 0 := index_eq_zero_of_isPrefixOf (List.prefix_append [10] t)
  rw [index_append_of_head (y := 10 :: t) (c := 10) (fun h => hl (h.subset (List.mem_singleton_self 10))) rfl
    (by decide) (by omega), h0, Int.add_zero]

theorem take_line (l t : Bytes) : (l ++ 10 :: t).take (l.length : Int).toNat = l := by
  rw [Int.toNat_ofNat, List.take_left]

theorem drop_line (l t : Bytes) : (l ++ 10 :: t).drop ((l.length : Int) + 1).toNat = t := by
  rw [Int.toNat_ofNat_add_one, show l ++ 10 :: t = (l ++ [10]) ++ t by simp,
    show l.length + 1 = (l ++ [10]).length by simp, List.drop_left]

/-- A `sep` with no line feed occurs in a joined text only inside a line. -/
theorem not_infix_joinLines {sep : Bytes} {ls : List Bytes} (hsep : sep ≠ []) (h10 : 10 ∉ sep)
    (h : ∀ l ∈ ls, ¬ sep <:+: l) : ¬ sep <:+: joinLines ls := by
  induction ls with
  | nil => exact fun hs => hsep (List.eq_nil_of_infix_nil hs)
  | cons l ls ih =>
    rw [joinLines_cons]
    intro hs
    rcases infix_append_cons h10 hs with hs | hs
    · exact h l (.head _) hs
    · exact ih (fun l' hl' => h l' (.tail _ hl')) hs

/-- `fields` of a word with no white space, then a space. -/
theorem fields_word {w : Bytes} (hw : w ≠ []) (h : ∀ b ∈ w, isAsciiSpace b = false) (s : Bytes) :
    fields (w ++ 32 :: s) = w :: fields s := by
  rw [fields, List.splitOnP_first _ w (fun b hb => by simp [h b hb]) 32 rfl s, List.filter_cons,
    if_pos (by simpa using hw)]
  rfl

theorem fields_of_word {w : Bytes} (hw : w ≠ []) (h : ∀ b ∈ w, isAsciiSpace b = false) : fields w = [w] := by
  rw [fields, List.splitOnP_eq_single _ w (fun b hb => by simp [h b hb])]
  simpa using hw

/-- `fields` splits words joined by single spaces back into the words. -/
theorem fields_joinWords : ∀ {w : Bytes} {ws : List Bytes}, IsWord w → (∀ v ∈ ws, IsWord v) →
    fields (joinWords w ws) = w :: ws
  | w, [], hw, _ => by rw [joinWords, List.flatMap_nil, List.append_nil, fields_of_word hw.1 hw.2]
  | w, v :: vs, hw, hvs => by
    rw [joinWords, List.flatMap_cons, List.cons_append, fields_word hw.1 hw.2]
    exact congrArg (w :: ·) (fields_joinWords (hvs v (.head _)) fun u hu => hvs u (.tail _ hu))

/-- Words joined by spaces hold no line feed and no carriage return. -/
theorem joinWords_no_lf {w : Bytes} {ws : List Bytes} (hw : IsWord w) (hws : ∀ v ∈ ws, IsWord v) :
    10 ∉ joinWords w ws ∧ 13 ∉ joinWords w ws := by
  have hword : ∀ {v : Bytes}, IsWord v → 10 ∉ v ∧ 13 ∉ v := fun hv =>
    ⟨fun h => absurd (hv.2 10 h) (by decide), fun h => absurd (hv.2 13 h) (by decide)⟩
  simp only [joinWords, List.mem_append, List.mem_flatMap, List.mem_cons]
  exact ⟨fun h => h.elim (hword hw).1 fun ⟨v, hv, h⟩ => h.elim (by decide) (hword (hws v hv)).1,
    fun h => h.elim (hword hw).2 fun ⟨v, hv, h⟩ => h.elim (by decide) (hword (hws v hv)).2⟩

theorem hasPrefix_joinWords (w v : Bytes) (vs : List Bytes) : hasPrefix (joinWords w (v :: vs)) (w ++ [32]) = true := by
  simp [hasPrefix, joinWords, isPrefixOf_iff]

theorem joinWords_cons (w v : Bytes) (vs : List Bytes) : joinWords w (v :: vs) = w ++ 32 :: joinWords v vs := by
  simp [joinWords]

theorem joinWords_ne_nil {w : Bytes} (hw : w ≠ []) (ws : List Bytes) : joinWords w ws ≠ [] := by
  simp [joinWords, hw]

/-- The last byte of words joined by spaces is the last byte of the last
word, not white space. -/
theorem getLast?_joinWords : ∀ {w : Bytes} {ws : List Bytes}, IsWord w → (∀ v ∈ ws, IsWord v) →
    ∀ b ∈ (joinWords w ws).getLast?, isAsciiSpace b = false
  | w, [], hw, _, b, hb => hw.2 b (List.mem_of_mem_getLast? (by simpa [joinWords] using hb))
  | w, v :: vs, _, hvs, b, hb => by
    have hv := hvs v (.head _)
    rw [joinWords_cons, List.getLast?_append, List.getLast?_cons,
      List.getLast?_eq_getLast _ (joinWords_ne_nil hv.1 vs)] at hb
    exact getLast?_joinWords hv (fun u hu => hvs u (.tail _ hu)) b
      (by rw [List.getLast?_eq_getLast _ (joinWords_ne_nil hv.1 vs)]; simpa using hb)

/-- `TrimSpace` leaves words joined by single spaces as they are. -/
theorem trimSpace_joinWords {w : Bytes} {ws : List Bytes} (hw : IsWord w) (hws : ∀ v ∈ ws, IsWord v) :
    trimSpace (joinWords w ws) = joinWords w ws := by
  obtain ⟨c, t, rfl⟩ := List.exists_cons_of_ne_nil hw.1
  rw [trimSpace, joinWords, List.cons_append, List.dropWhile_cons_of_neg (by simp [hw.2 c (.head _)]),
    ← List.cons_append, ← joinWords]
  exact List.rdropWhile_eq_self_iff.2 fun hl => by
    simp [getLast?_joinWords hw hws _ (List.getLast?_eq_getLast _ hl)]

/-- Removing the spaces from words joined by spaces leaves the words run
together. -/
theorem filter_joinWords : ∀ {w : Bytes} {ws : List Bytes}, IsWord w → (∀ v ∈ ws, IsWord v) →
    (joinWords w ws).filter (· != 32) = (w :: ws).flatten
  | w, ws, hw, hws => by
    have hword : ∀ {v : Bytes}, IsWord v → v.filter (· != 32) = v := fun hv =>
      List.filter_eq_self.2 fun b hb => by
        have := hv.2 b hb
        simp only [bne_iff_ne, ne_eq]
        rintro rfl
        exact absurd this (by decide)
    induction ws generalizing w with
    | nil => simp [joinWords, hword hw]
    | cons v vs ih =>
      rw [joinWords_cons, List.filter_append, List.filter_cons_of_neg (by decide), hword hw,
        ih _ (hws v (.head _)) (fun u hu => hws u (.tail _ hu))]
      rfl

/-! ## Case and hex digits -/

theorem toUpper_of_forall {s : Bytes} (h : ∀ b ∈ s, ¬ (97 ≤ b ∧ b ≤ 122)) : toUpper s = s :=
  (List.map_congr_left fun b hb => if_neg (h b hb)).trans (List.map_id s)

theorem toUpper_ne_nil {s : Bytes} (h : s ≠ []) : toUpper s ≠ [] := by simpa [toUpper] using h

theorem hexEncode_ne_nil {b : Bytes} (h : b ≠ []) : hexEncode b ≠ [] := by
  obtain ⟨x, b, rfl⟩ := List.exists_cons_of_ne_nil h
  simp [hexEncode]

/-- An upper-cased `hexEncode` is made of the digits `0`..`9` and `A`..`F`. -/
theorem mem_toUpper_hexEncode {b : Bytes} {c : UInt8} (h : c ∈ toUpper (hexEncode b)) :
    c ∈ ascii "0123456789ABCDEF" := by
  have hd : ∀ n < 16, hextable.getD n 0 ∈ hextable := by decide
  have hu : ∀ x ∈ hextable, (if 97 ≤ x ∧ x ≤ 122 then x - 32 else x) ∈ ascii "0123456789ABCDEF" := by
    decide
  obtain ⟨x, hx, rfl⟩ := List.mem_map.1 h
  obtain ⟨y, -, hx⟩ := List.mem_flatMap.1 hx
  have hy : y.toNat < 256 := UInt8.toNat_lt_size y
  refine hu x ?_
  rcases List.mem_pair.1 hx with rfl | rfl
  · exact hd _ (by omega)
  · exact hd _ (Nat.mod_lt _ (by omega))

/-! ## Trimming -/

theorem trimSpace_of_forall {s : Bytes} (h : ∀ b ∈ s, isAsciiSpace b = false) : trimSpace s = s := by
  have hd : s.dropWhile isAsciiSpace = s :=
    List.dropWhile_eq_self_iff.2 fun hl => by simp [h _ (List.getElem_mem hl)]
  rw [trimSpace, hd]
  exact List.rdropWhile_eq_self_iff.2 fun hl => by simp [h _ (List.getLast_mem hl)]

theorem trimRight_of_forall {s cutset : Bytes} (h : ∀ b ∈ s, b ∉ cutset) : trimRight s cutset = s :=
  List.rdropWhile_eq_self_iff.2 fun hl hc => h _ (List.getLast_mem hl) (by simpa using hc)

/-- `TrimRight` cuts a tail of cutset bytes back to a text with none. -/
theorem trimRight_append_of_forall {s t cutset : Bytes} (hs : ∀ b ∈ s, b ∉ cutset) (ht : ∀ b ∈ t, b ∈ cutset) :
    trimRight (s ++ t) cutset = s := by
  rw [trimRight, List.rdropWhile, List.reverse_append,
    List.dropWhile_append_of_pos fun b hb => by simpa using ht b (List.mem_reverse.1 hb), ← List.rdropWhile]
  exact trimRight_of_forall hs

theorem trimPrefix_length_le (s pre : Bytes) : (trimPrefix s pre).length ≤ s.length := by
  unfold trimPrefix
  split <;> simp

/-! ## `bytes.Compare` orders byte strings -/

theorem uint8_lt_iff_toNat (a b : UInt8) : a < b ↔ a.toNat < b.toNat := Iff.rfl

/-- Comparing the other way round gives the opposite sign. -/
theorem bytesCompare_swap : ∀ a b : Bytes, bytesCompare b a = -bytesCompare a b
  | [], [] => rfl
  | [], _ :: _ => rfl
  | _ :: _, [] => rfl
  | x :: as, y :: bs => by
    have ih := bytesCompare_swap as bs
    simp only [bytesCompare, uint8_lt_iff_toNat]
    split_ifs <;> omega

/-- "At or after" is transitive. -/
theorem bytesCompare_nonneg_trans : ∀ a b c : Bytes,
    0 ≤ bytesCompare a b → 0 ≤ bytesCompare b c → 0 ≤ bytesCompare a c
  | [], [], _, _, h => h
  | [], _ :: _, _, h, _ => absurd h (by simp [bytesCompare])
  | _ :: _, [], [], _, _ => by simp [bytesCompare]
  | _ :: _, [], _ :: _, _, h => absurd h (by simp [bytesCompare])
  | _ :: _, _ :: _, [], _, _ => by simp [bytesCompare]
  | x :: as, y :: bs, z :: cs, h1, h2 => by
    have ih := bytesCompare_nonneg_trans as bs cs
    simp only [bytesCompare, uint8_lt_iff_toNat] at h1 h2 ⊢
    split_ifs at h1 h2 ⊢ <;> omega

end TorGo.L1
