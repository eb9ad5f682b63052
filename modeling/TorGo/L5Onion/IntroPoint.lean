import TorGo.L1Encoding.Base64

/-!
# Introduction points (`onion/intropoint.go`)

`parseIntroPoints` reads the innermost layer of a descriptor line by line.
An `introduction-point` line starts a new point with its base64 link
specifiers; the `onion-key ntor`, `enc-key ntor`, `auth-key` and
`enc-key-cert` lines that follow fill in the current point, and lines before
the first point are ignored. The two key lines must decode to 32 bytes. After
`auth-key` and `enc-key-cert`, `extractCert` looks for an
`ED25519 CERT` block on the next line; when one is found and decodes, the
loop resumes after its END line, and otherwise it goes on with the next line
as usual. The auth key is copied out of bytes 7..39 of the certificate,
which is not checked otherwise.

Results:
* `introLine_spec`: one iteration goes on with the lines after its own or
  fewer (a certificate block is consumed whole, `extractCert_length`), which
  is what makes the loop terminate, and keeps every key at its size;
* `introLoop_keys`, `parseIntroPoints_keys`: every point the parser returns
  has 32-byte onion, encryption and auth keys;
* `parseIntroPoints_key_lines`: a key line of another length is an error
  naming the key, and an `auth-key` certificate sets the auth key only when
  it has 39 bytes;
* `Split.parseIntroPoints_eq`: the later revision, split into
  `parseIntroPointHeader`, `parseIntroPointLine` and `decodeKey32`, returns
  the same points or the same error text on every text.
-/
namespace TorGo.L5

open TorGo.L1

/-- `IntroPoint`, its fixed-size keys as byte strings. -/
structure IntroPoint where
  linkSpecifiers : Bytes
  onionKey : Bytes
  authKeyCert : Bytes
  authKey : Bytes
  encKey : Bytes
  encKeyCert : Bytes
deriving DecidableEq, Repr

/-- `&IntroPoint{}`: no link specifiers or certificates, zero keys. -/
def IntroPoint.empty : IntroPoint :=
  ⟨[], List.replicate 32 0, [], List.replicate 32 0, List.replicate 32 0, []⟩

def beginCert : Bytes := ascii "-----BEGIN ED25519 CERT-----"
def endCert : Bytes := ascii "-----END ED25519 CERT-----"

/-- The loop of `extractCert` after the BEGIN line, with the lines `acc` seen
so far: the decoded block and the lines after its END line. A block that
does not decode is `nil`, as one without an END line. -/
def certBlock : List Bytes → List Bytes → Option (Bytes × List Bytes)
  | [], _ => none
  | l :: ls, acc =>
    if l = endCert then
      match stdDecodeString acc.flatten with
      | .ok decoded => some (decoded, ls)
      | .error _ => none
    else certBlock ls (acc ++ [l])

/-- `extractCert(lines, i+1)`, on the lines after line `i`: the certificate
and the lines after its END line, or `none` where the source returns `nil`. -/
def extractCert : List Bytes → Option (Bytes × List Bytes)
  | l :: ls => if l = beginCert then certBlock ls [] else none
  | [] => none

theorem certBlock_length : ∀ {ls acc : List Bytes} {cert : Bytes} {rest : List Bytes},
    certBlock ls acc = some (cert, rest) → rest.length < ls.length
  | [], _, _, _, h => by cases h
  | l :: ls, acc, cert, rest, h => by
    unfold certBlock at h
    split_ifs at h
    · split at h
      · cases h; exact Nat.lt_succ_self _
      · cases h
    · exact Nat.lt_succ_of_lt (certBlock_length h)

/-- A certificate block is consumed whole. -/
theorem extractCert_length : ∀ {ls : List Bytes} {cert : Bytes} {rest : List Bytes},
    extractCert ls = some (cert, rest) → rest.length < ls.length
  | [], _, _, h => by cases h
  | l :: ls, _, _, h => by
    rw [extractCert] at h
    split_ifs at h
    exact Nat.lt_succ_of_lt (certBlock_length h)

/-- A decoding with a second try: the result of `first`, or of `second` when
`first` fails. -/
def decodeEither (first second : Bytes → Except String Bytes) (s : Bytes) : Except String Bytes :=
  match first s with
  | .ok b => .ok b
  | .error _ => second s

/-- Raw base64 first and padded second reads back either encoding of any
bytes: the raw decoder fails on a padded text exactly when it has a `=`. -/
theorem decodeEither_encodeToString (padded : Bool) (bs : Bytes) :
    decodeEither rawStdDecodeString stdDecodeString (encodeToString padded bs) = .ok bs := by
  by_cases hraw : padded = false ∨ bs.length % 3 = 0
  · have henc : encodeToString padded bs = encodeToString false bs := by
      rcases hraw with rfl | h
      · rfl
      · cases padded
        · rfl
        · exact encodeToString_true_of_mod h
    rw [decodeEither, henc, rawStdDecodeString, decodeString_encodeToString]
  · simp only [not_or, Bool.not_eq_false] at hraw
    obtain ⟨n, hn⟩ := @decodeLoop_raw_pad _ 0 [] [] (hraw.1 ▸ pad_mem_encodeToString hraw.2)
    rw [decodeEither, rawStdDecodeString, decodeString, hn]
    exact hraw.1 ▸ decodeString_encodeToString true bs

/-- The `onion-key ntor` and `enc-key ntor` cases: raw base64 first, padded
second, and exactly 32 bytes. -/
def ntorKey (what : String) (keyB64 : Bytes) : Except String Bytes :=
  match decodeEither rawStdDecodeString stdDecodeString keyB64 with
  | .error e => .error ("decode " ++ what ++ ": " ++ e)
  | .ok keyBytes =>
    if keyBytes.length = 32 then .ok keyBytes
    else .error (what ++ " has invalid length: got " ++ toString keyBytes.length ++ ", want 32")

/-- The keys that are `[32]byte` in the source have 32 bytes. -/
structure IntroPoint.KeysOk (p : IntroPoint) : Prop where
  onionKey : p.onionKey.length = 32
  encKey : p.encKey.length = 32
  authKey : p.authKey.length = 32

theorem ntorKey_length {what : String} {s k : Bytes} (h : ntorKey what s = .ok k) : k.length = 32 := by
  unfold ntorKey at h
  split at h
  · cases h
  · split_ifs at h with hl
    cases h
    exact hl

/-- One iteration of `parseIntroPoints`'s loop, on `line` with the lines
`ls` after it and the variables `points` and `current`: the lines to go on
with, past a certificate block when one was read, and the new variables. -/
def introLine (line : Bytes) (ls : List Bytes) (points : List IntroPoint) (current : Option IntroPoint) :
    Except String (List Bytes × List IntroPoint × Option IntroPoint) :=
  if hasPrefix line (ascii "introduction-point ") then
    match decodeEither stdDecodeString rawStdDecodeString (trimPrefix line (ascii "introduction-point ")) with
    | .error e => .error ("decode link specifiers: " ++ e)
    | .ok lsp => .ok (ls, points ++ current.toList, some { IntroPoint.empty with linkSpecifiers := lsp })
  else
    match current with
    | none => .ok (ls, points, none)
    | some cur =>
      if hasPrefix line (ascii "onion-key ntor ") then
        (ntorKey "onion-key" (trimPrefix line (ascii "onion-key ntor "))).map fun k =>
          (ls, points, some { cur with onionKey := k })
      else if hasPrefix line (ascii "enc-key ntor ") then
        (ntorKey "enc-key" (trimPrefix line (ascii "enc-key ntor "))).map fun k =>
          (ls, points, some { cur with encKey := k })
      else if line = ascii "auth-key" then
        match extractCert ls with
        | some (cert, rest) => .ok (rest, points, some { cur with
            authKeyCert := cert
            authKey := if 39 ≤ cert.length then (cert.drop 7).take 32 else cur.authKey })
        | none => .ok (ls, points, some cur)
      else if line = ascii "enc-key-cert" then
        match extractCert ls with
        | some (cert, rest) => .ok (rest, points, some { cur with encKeyCert := cert })
        | none => .ok (ls, points, some cur)
      else .ok (ls, points, some cur)

/-- **One iteration.** It goes on with the lines after its own or fewer,
past a certificate block it read, and keeps the keys of `points` and
`current` at their sizes. -/
theorem introLine_spec {line : Bytes} {ls rest : List Bytes} {points points' : List IntroPoint}
    {current current' : Option IntroPoint} (h : introLine line ls points current = .ok (rest, points', current')) :
    rest.length ≤ ls.length ∧ ((∀ p ∈ points, p.KeysOk) → (∀ c ∈ current, c.KeysOk) →
      (∀ p ∈ points', p.KeysOk) ∧ ∀ c ∈ current', c.KeysOk) := by
  unfold introLine at h
  by_cases hi : hasPrefix line (ascii "introduction-point ") = true
  · rw [if_pos hi] at h
    split at h
    · cases h
    · cases h
      refine ⟨Nat.le_refl _, fun hp hc => ⟨fun p hm => ?_, fun c hm => by cases hm; exact ⟨rfl, rfl, rfl⟩⟩⟩
      exact (List.mem_append.mp hm).elim (hp p) fun hm => hc p (Option.mem_toList.mp hm)
  rw [if_neg hi] at h
  cases current with
  | none => cases h; exact ⟨Nat.le_refl _, fun hp hc => ⟨hp, hc⟩⟩
  | some cur =>
    dsimp only at h
    split_ifs at h
    · rcases hk : ntorKey "onion-key" _ with e | k <;> rw [hk] at h <;> cases h
      refine ⟨Nat.le_refl _, fun hp hc => ⟨hp, fun c hm => ?_⟩⟩
      cases hm
      exact ⟨ntorKey_length hk, (hc cur rfl).encKey, (hc cur rfl).authKey⟩
    · rcases hk : ntorKey "enc-key" _ with e | k <;> rw [hk] at h <;> cases h
      refine ⟨Nat.le_refl _, fun hp hc => ⟨hp, fun c hm => ?_⟩⟩
      cases hm
      exact ⟨(hc cur rfl).onionKey, ntorKey_length hk, (hc cur rfl).authKey⟩
    · split at h
      · rename_i hx
        cases h
        refine ⟨Nat.le_of_lt (extractCert_length hx), fun hp hc => ⟨hp, fun c hm => ?_⟩⟩
        cases hm
        refine ⟨(hc cur rfl).onionKey, (hc cur rfl).encKey, ?_⟩
        dsimp only
        split_ifs with hl
        · simp only [List.length_take, List.length_drop]; omega
        · exact (hc cur rfl).authKey
      · cases h; exact ⟨Nat.le_refl _, fun hp hc => ⟨hp, hc⟩⟩
    · split at h
      · rename_i hx
        cases h
        refine ⟨Nat.le_of_lt (extractCert_length hx), fun hp hc => ⟨hp, fun c hm => ?_⟩⟩
        cases hm
        exact ⟨(hc cur rfl).onionKey, (hc cur rfl).encKey, (hc cur rfl).authKey⟩
      · cases h; exact ⟨Nat.le_refl _, fun hp hc => ⟨hp, hc⟩⟩
    · cases h; exact ⟨Nat.le_refl _, fun hp hc => ⟨hp, hc⟩⟩

/-- The loop of `parseIntroPoints`, from the lines `lines` on. -/
@[semireducible] def introLoop (lines : List Bytes) (points : List IntroPoint) (current : Option IntroPoint) :
    Except String (List IntroPoint) :=
  match lines with
  | [] => .ok (points ++ current.toList)
  | line :: ls =>
    match h : introLine line ls points current with
    | .error e => .error e
    | .ok (rest, points', current') =>
      have := (introLine_spec h).1
      introLoop rest points' current'
termination_by lines.length
decreasing_by simp_wf; omega

/-- `parseIntroPoints`. -/
def parseIntroPoints (text : Bytes) : Except String (List IntroPoint) := introLoop (splitLines text) [] none

theorem introLoop_nil (points : List IntroPoint) (current : Option IntroPoint) :
    introLoop [] points current = .ok (points ++ current.toList) := by
  rw [introLoop]

theorem introLoop_error {line : Bytes} {ls : List Bytes} {points : List IntroPoint}
    {current : Option IntroPoint} {e : String} (he : introLine line ls points current = .error e) :
    introLoop (line :: ls) points current = .error e := by
  rw [introLoop]
  split
  · rename_i heq; rw [he] at heq; cases heq; rfl
  · rename_i heq; rw [he] at heq; cases heq

theorem introLoop_ok {line : Bytes} {ls rest : List Bytes} {points points' : List IntroPoint}
    {current current' : Option IntroPoint} (hl : introLine line ls points current = .ok (rest, points', current')) :
    introLoop (line :: ls) points current = introLoop rest points' current' := by
  rw [introLoop]
  split
  · rename_i heq; rw [hl] at heq; cases heq
  · rename_i heq; rw [hl] at heq; cases heq; rfl

/-- **Parsed keys have their sizes.** Every point `parseIntroPoints`
returns has a 32-byte onion key, encryption key and auth key. -/
theorem introLoop_keys (lines : List Bytes) (points : List IntroPoint) (current : Option IntroPoint)
    (hp : ∀ p ∈ points, p.KeysOk) (hc : ∀ c ∈ current, c.KeysOk) {ps : List IntroPoint}
    (h : introLoop lines points current = .ok ps) : ∀ p ∈ ps, p.KeysOk := by
  induction lines, points, current using introLoop.induct with
  | case1 points current =>
    rw [introLoop_nil] at h
    cases h
    exact fun p hm => (List.mem_append.mp hm).elim (hp p) fun hm => hc p (Option.mem_toList.mp hm)
  | case2 points current line ls e he =>
    rw [introLoop_error he] at h
    cases h
  | case3 points current line ls rest points' current' hl _ ih =>
    rw [introLoop_ok hl] at h
    obtain ⟨hp', hc'⟩ := (introLine_spec hl).2 hp hc
    exact ih hp' hc' h

theorem parseIntroPoints_keys {text : Bytes} {ps : List IntroPoint} (h : parseIntroPoints text = .ok ps) :
    ∀ p ∈ ps, p.KeysOk :=
  introLoop_keys _ [] none (fun _ h => nomatch h) (fun _ h => nomatch h) h

/-- A line that none of the cases of the loop reads. -/
def inertIntroLine (line : Bytes) : Bool :=
  !hasPrefix line (ascii "introduction-point ") && !hasPrefix line (ascii "onion-key ntor ") &&
    !hasPrefix line (ascii "enc-key ntor ") && line != ascii "auth-key" && line != ascii "enc-key-cert"

theorem introLine_inert {line : Bytes} (ls : List Bytes) (points : List IntroPoint) (current : Option IntroPoint)
    (h : inertIntroLine line = true) : introLine line ls points current = .ok (ls, points, current) := by
  simp only [inertIntroLine, Bool.and_eq_true, Bool.not_eq_true', bne_iff_ne, ne_eq] at h
  obtain ⟨⟨⟨⟨h1, h2⟩, h3⟩, h4⟩, h5⟩ := h
  unfold introLine
  cases current <;> simp [h1, h2, h3, h4, h5]

theorem introLoop_inert (points : List IntroPoint) (current : Option IntroPoint) :
    ∀ (mid rest : List Bytes), (∀ l ∈ mid, inertIntroLine l = true) →
      introLoop (mid ++ rest) points current = introLoop rest points current
  | [], _, _ => rfl
  | l :: mid, rest, h => by
    rw [List.cons_append, introLoop_ok (introLine_inert _ _ _ (h l (.head _)))]
    exact introLoop_inert points current mid rest fun l' hl => h l' (.tail _ hl)

/-- The `introduction-point` line of a point with link specifiers `lsp`. -/
theorem introLine_point (lsp : Bytes) (ls : List Bytes) (points : List IntroPoint) (current : Option IntroPoint) :
    introLine (ascii "introduction-point " ++ encodeToString true lsp) ls points current =
      .ok (ls, points ++ current.toList, some { IntroPoint.empty with linkSpecifiers := lsp }) := by
  unfold introLine
  rw [if_pos (hasPrefix_append _ _), trimPrefix_append, decodeEither, stdDecodeString,
    decodeString_encodeToString]

theorem ntorKey_encodeToString (what : String) (padded : Bool) {key : Bytes} (h : key.length ≠ 32) :
    ntorKey what (encodeToString padded key) =
      .error (what ++ " has invalid length: got " ++ toString key.length ++ ", want 32") := by
  simp only [ntorKey, decodeEither_encodeToString, h, if_false]

theorem no_lf_encodeToString (pre : Bytes) (h : 10 ∉ pre) (padded : Bool) (bs : Bytes) :
    10 ∉ pre ++ encodeToString padded bs := by
  have h10 : (10 : UInt8) ∉ encodeStd := by decide
  simp only [List.mem_append, not_or]
  exact ⟨h, fun hm => (mem_encodeToString hm).elim h10 (by decide)⟩

/-- An introduction point, lines the loop does not read, and a line on
which the loop stops with the error `e`: the parse is that error, whatever
follows. -/
theorem parseIntroPoints_point_error {lsp l : Bytes} {mid post : List Bytes} {e : String} (hl : 10 ∉ l)
    (hmid : ∀ l ∈ mid, 10 ∉ l ∧ inertIntroLine l = true)
    (he : ∀ ls, introLine l ls [] (some { IntroPoint.empty with linkSpecifiers := lsp }) = .error e) :
    parseIntroPoints (joinLines ((ascii "introduction-point " ++ encodeToString true lsp) :: mid ++ l :: post)) =
      .error e := by
  rw [parseIntroPoints, List.cons_append, joinLines_cons, splitLines_line (no_lf_encodeToString _ (by decide) _ _),
    joinLines_append, splitLines_joinLines_append (fun l hl => (hmid l hl).1), joinLines_cons, splitLines_line hl,
    introLoop_ok (introLine_point _ _ _ _), introLoop_inert _ _ _ _ fun l hl => (hmid l hl).2]
  exact introLoop_error (he _)

/-- An `onion-key ntor` or `enc-key ntor` line whose base64, padded or not,
holds other than 32 bytes ends the parse with the length error. -/
theorem parseIntroPoints_key_length {lsp key : Bytes} (padded : Bool) {mid post : List Bytes}
    (hmid : ∀ l ∈ mid, 10 ∉ l ∧ inertIntroLine l = true) (hkey : key.length ≠ 32) :
    parseIntroPoints (joinLines ((ascii "introduction-point " ++ encodeToString true lsp) :: mid ++
        (ascii "onion-key ntor " ++ encodeToString padded key) :: post)) =
      .error ("onion-key has invalid length: got " ++ toString key.length ++ ", want 32") ∧
    parseIntroPoints (joinLines ((ascii "introduction-point " ++ encodeToString true lsp) :: mid ++
        (ascii "enc-key ntor " ++ encodeToString padded key) :: post)) =
      .error ("enc-key has invalid length: got " ++ toString key.length ++ ", want 32") := by
  have hi : ∀ kw : Bytes, hasPrefix (kw ++ encodeToString padded key) (ascii "introduction-point ") = false →
      ¬ hasPrefix (kw ++ encodeToString padded key) (ascii "introduction-point ") = true := fun _ h => by
    rw [h]; decide
  refine ⟨parseIntroPoints_point_error (no_lf_encodeToString _ (by decide) _ _) hmid fun _ => ?_,
    parseIntroPoints_point_error (no_lf_encodeToString _ (by decide) _ _) hmid fun _ => ?_⟩
  · unfold introLine
    rw [if_neg (hi (ascii "onion-key ntor ") rfl)]
    dsimp only
    rw [if_pos (hasPrefix_append _ _), trimPrefix_append, ntorKey_encodeToString _ _ hkey]
    rfl
  · unfold introLine
    rw [if_neg (hi (ascii "enc-key ntor ") rfl)]
    dsimp only
    rw [if_neg (by rw [show hasPrefix (ascii "enc-key ntor " ++ encodeToString padded key)
      (ascii "onion-key ntor ") = false from rfl]; decide), if_pos (hasPrefix_append _ _), trimPrefix_append,
      ntorKey_encodeToString _ _ hkey]
    rfl

/-- A certificate block of one padded base64 line: `-` is no base64
symbol, so the line is not the END line. -/
theorem extractCert_block (cert : Bytes) (rest : List Bytes) :
    extractCert (beginCert :: encodeToString true cert :: endCert :: rest) = some (cert, rest) := by
  have hne : encodeToString true cert ≠ endCert := fun h => by
    have h45 : (45 : UInt8) ∈ encodeToString true cert := h ▸ (by decide : (45 : UInt8) ∈ endCert)
    exact (mem_encodeToString h45).elim (by decide) (by decide)
  rw [extractCert, if_pos rfl, certBlock, if_neg hne, certBlock, if_pos rfl]
  simp only [List.nil_append, List.flatten_cons, List.flatten_nil, List.append_nil, stdDecodeString,
    decodeString_encodeToString]

theorem introLine_authKey (cert : Bytes) (rest : List Bytes) (points : List IntroPoint) (cur : IntroPoint) :
    introLine (ascii "auth-key") (beginCert :: encodeToString true cert :: endCert :: rest) points (some cur) =
      .ok (rest, points, some { cur with
        authKeyCert := cert
        authKey := if 39 ≤ cert.length then (cert.drop 7).take 32 else cur.authKey }) := by
  unfold introLine
  rw [extractCert_block]
  rfl

/-- An `auth-key` line and its certificate block: the point keeps the
certificate, and its auth key is bytes 7..39 of it when it has 39 bytes and
stays zero otherwise. -/
theorem parseIntroPoints_auth_key {lsp cert : Bytes} {mid tail : List Bytes}
    (hmid : ∀ l ∈ mid, 10 ∉ l ∧ inertIntroLine l = true) (htail : ∀ l ∈ tail, 10 ∉ l ∧ inertIntroLine l = true) :
    parseIntroPoints (joinLines ((ascii "introduction-point " ++ encodeToString true lsp) :: mid ++
        ascii "auth-key" :: beginCert :: encodeToString true cert :: endCert :: tail)) =
      .ok [{ IntroPoint.empty with
        linkSpecifiers := lsp
        authKeyCert := cert
        authKey := if 39 ≤ cert.length then (cert.drop 7).take 32 else List.replicate 32 0 }] := by
  have hlines : ∀ l ∈ ascii "auth-key" :: beginCert :: encodeToString true cert :: endCert :: tail, 10 ∉ l := by
    simp only [List.mem_cons]
    rintro l (rfl | rfl | rfl | rfl | hl)
    · decide
    · decide
    · simpa using no_lf_encodeToString [] (by decide) true cert
    · decide
    · exact (htail l hl).1
  rw [parseIntroPoints, List.cons_append, joinLines_cons, splitLines_line (no_lf_encodeToString _ (by decide) _ _),
    joinLines_append, splitLines_joinLines_append (fun l hl => (hmid l hl).1), splitLines_joinLines hlines,
    introLoop_ok (introLine_point _ _ _ _), introLoop_inert _ _ _ _ fun l hl => (hmid l hl).2, List.cons_append,
    List.cons_append, List.cons_append, List.cons_append, introLoop_ok (introLine_authKey _ _ _ _), introLoop_inert _ _ _ _ fun l hl => (htail l hl).2,
    introLoop_ok (introLine_inert _ _ _ (by decide : inertIntroLine [] = true)), introLoop_nil]
  rfl

/-- **The key lines.** After an introduction point and any lines the loop
does not read, an `onion-key ntor` or `enc-key ntor` line whose base64,
padded or not, holds other than 32 bytes ends the parse with the length
error, whatever follows; an `auth-key` certificate block gives the point its
certificate, and its auth key only when the certificate has 39 bytes. -/
theorem parseIntroPoints_key_lines {lsp key cert : Bytes} (padded : Bool) {mid post tail : List Bytes}
    (hmid : ∀ l ∈ mid, 10 ∉ l ∧ inertIntroLine l = true) (hkey : key.length ≠ 32)
    (htail : ∀ l ∈ tail, 10 ∉ l ∧ inertIntroLine l = true) :
    parseIntroPoints (joinLines ((ascii "introduction-point " ++ encodeToString true lsp) :: mid ++
        (ascii "onion-key ntor " ++ encodeToString padded key) :: post)) =
      .error ("onion-key has invalid length: got " ++ toString key.length ++ ", want 32") ∧
    parseIntroPoints (joinLines ((ascii "introduction-point " ++ encodeToString true lsp) :: mid ++
        (ascii "enc-key ntor " ++ encodeToString padded key) :: post)) =
      .error ("enc-key has invalid length: got " ++ toString key.length ++ ", want 32") ∧
    parseIntroPoints (joinLines ((ascii "introduction-point " ++ encodeToString true lsp) :: mid ++
        ascii "auth-key" :: beginCert :: encodeToString true cert :: endCert :: tail)) =
      .ok [{ IntroPoint.empty with
        linkSpecifiers := lsp
        authKeyCert := cert
        authKey := if 39 ≤ cert.length then (cert.drop 7).take 32 else List.replicate 32 0 }] :=
  ⟨(parseIntroPoints_key_length padded hmid hkey).1, (parseIntroPoints_key_length padded hmid hkey).2,
    parseIntroPoints_auth_key hmid htail⟩

theorem parseIntroPoints_key_lines_sample :
    (∀ l ∈ [ascii "enc-key-cert-unused"], 10 ∉ l ∧ inertIntroLine l = true) ∧ (List.replicate 31 5 : Bytes).length ≠ 32 ∧
    (∀ l ∈ [ascii "legacy-key"], 10 ∉ l ∧ inertIntroLine l = true) ∧
    parseIntroPoints (joinLines ((ascii "introduction-point " ++ encodeToString true [1, 0, 6, 127, 0, 0, 1, 0, 35]) ::
        [ascii "enc-key-cert-unused"] ++ (ascii "onion-key ntor " ++ encodeToString false (List.replicate 31 5)) :: [])) =
      .error ("onion-key has invalid length: got " ++ toString (List.replicate 31 (5 : UInt8)).length ++ ", want 32") ∧
    parseIntroPoints (joinLines ((ascii "introduction-point " ++ encodeToString true [1, 0, 6, 127, 0, 0, 1, 0, 35]) ::
        [ascii "enc-key-cert-unused"] ++ (ascii "enc-key ntor " ++ encodeToString false (List.replicate 31 5)) :: [])) =
      .error ("enc-key has invalid length: got " ++ toString (List.replicate 31 (5 : UInt8)).length ++ ", want 32") ∧
    parseIntroPoints (joinLines ((ascii "introduction-point " ++ encodeToString true [1, 0, 6, 127, 0, 0, 1, 0, 35]) ::
        [ascii "enc-key-cert-unused"] ++ ascii "auth-key" :: beginCert ::
        encodeToString true ([1, 9, 0, 7, 0, 0, 1] ++ List.replicate 32 7 ++ [0] ++ List.replicate 64 0) :: endCert ::
        [ascii "legacy-key"])) =
      .ok [{ IntroPoint.empty with
        linkSpecifiers := [1, 0, 6, 127, 0, 0, 1, 0, 35]
        authKeyCert := [1, 9, 0, 7, 0, 0, 1] ++ List.replicate 32 7 ++ [0] ++ List.replicate 64 0
        authKey := if 39 ≤ ([1, 9, 0, 7, 0, 0, 1] ++ List.replicate 32 7 ++ [0] ++ List.replicate 64 0 : Bytes).length
          then (([1, 9, 0, 7, 0, 0, 1] ++ List.replicate 32 7 ++ [0] ++ List.replicate 64 0 : Bytes).drop 7).take 32
          else List.replicate 32 0 }] :=
  ⟨by decide, by decide, by decide, parseIntroPoints_key_lines false (by decide) (by decide) (by decide)⟩

/-! ## The split revision

The later revision (`part_010`) splits the loop into `parseIntroPointHeader`,
`parseIntroPointLine` and `decodeKey32`; its `DecryptAndParseDescriptor`
calls it in place of the loop above. `parseIntroPointLine` returns the index
of the last line it read, which is the certificate's END line after a block
and its own line otherwise; here it returns the lines after that one. -/

namespace Split

/-- `decodeKey32`. -/
def decodeKey32 (b64 : Bytes) (name : String) : Except String Bytes :=
  match decodeEither rawStdDecodeString stdDecodeString b64 with
  | .error e => .error ("decode " ++ name ++ ": " ++ e)
  | .ok keyBytes =>
    if keyBytes.length ≠ 32 then
      .error (name ++ " has invalid length: got " ++ toString keyBytes.length ++ ", want 32")
    else .ok keyBytes

/-- `parseIntroPointHeader`. -/
def parseIntroPointHeader (line : Bytes) : Except String IntroPoint :=
  match decodeEither stdDecodeString rawStdDecodeString (trimPrefix line (ascii "introduction-point ")) with
  | .error e => .error ("decode link specifiers: " ++ e)
  | .ok ls => .ok { IntroPoint.empty with linkSpecifiers := ls }

/-- `parseIntroPointLine` on `line`, with the lines `ls` after it. -/
def parseIntroPointLine (ip : IntroPoint) (ls : List Bytes) (line : Bytes) :
    Except String (List Bytes × IntroPoint) :=
  if hasPrefix line (ascii "onion-key ntor ") then
    match decodeKey32 (trimPrefix line (ascii "onion-key ntor ")) "onion-key" with
    | .error e => .error e
    | .ok key => .ok (ls, { ip with onionKey := key })
  else if hasPrefix line (ascii "enc-key ntor ") then
    match decodeKey32 (trimPrefix line (ascii "enc-key ntor ")) "enc-key" with
    | .error e => .error e
    | .ok key => .ok (ls, { ip with encKey := key })
  else if line = ascii "auth-key" then
    match extractCert ls with
    | some (cert, rest) => .ok (rest, { ip with
        authKeyCert := cert
        authKey := if 39 ≤ cert.length then (cert.drop 7).take 32 else ip.authKey })
    | none => .ok (ls, ip)
  else if line = ascii "enc-key-cert" then
    match extractCert ls with
    | some (cert, rest) => .ok (rest, { ip with encKeyCert := cert })
    | none => .ok (ls, ip)
  else .ok (ls, ip)

theorem decodeKey32_eq (b64 : Bytes) (name : String) : decodeKey32 b64 name = ntorKey name b64 := by
  unfold decodeKey32 ntorKey
  split
  · rfl
  · split_ifs <;> first | rfl | contradiction

theorem parseIntroPointLine_eq (cur : IntroPoint) (ls : List Bytes) (line : Bytes) (points : List IntroPoint)
    (h : hasPrefix line (ascii "introduction-point ") = false) :
    introLine line ls points (some cur) =
      (parseIntroPointLine cur ls line).map fun r => (r.1, points, some r.2) := by
  unfold introLine parseIntroPointLine
  rw [if_neg (by rw [h]; decide)]
  dsimp only
  simp only [decodeKey32_eq]
  split_ifs
  · cases ntorKey "onion-key" _ <;> rfl
  · cases ntorKey "enc-key" _ <;> rfl
  · split <;> rfl
  · split <;> rfl
  · rfl

theorem introLine_header {line : Bytes} (ls : List Bytes) (points : List IntroPoint) (current : Option IntroPoint)
    (h : hasPrefix line (ascii "introduction-point ") = true) :
    introLine line ls points current =
      (parseIntroPointHeader line).map fun ip => (ls, points ++ current.toList, some ip) := by
  unfold introLine parseIntroPointHeader
  rw [if_pos h]
  split <;> rfl

/-- One iteration of the split loop: `parseIntroPointHeader` on an
`introduction-point` line, nothing before the first point, and
`parseIntroPointLine` on the lines of a point. -/
def splitLine (line : Bytes) (ls : List Bytes) (points : List IntroPoint) (current : Option IntroPoint) :
    Except String (List Bytes × List IntroPoint × Option IntroPoint) :=
  if hasPrefix line (ascii "introduction-point ") then
    match parseIntroPointHeader line with
    | .error e => .error e
    | .ok ip => .ok (ls, points ++ current.toList, some ip)
  else
    match current with
    | none => .ok (ls, points, none)
    | some cur =>
      match parseIntroPointLine cur ls line with
      | .error e => .error e
      | .ok (rest, ip) => .ok (rest, points, some ip)

/-- An iteration of the split loop is one of the first revision's. -/
theorem splitLine_eq (line : Bytes) (ls : List Bytes) (points : List IntroPoint) (current : Option IntroPoint) :
    splitLine line ls points current = introLine line ls points current := by
  by_cases hi : hasPrefix line (ascii "introduction-point ") = true
  · rw [introLine_header ls points current hi]
    unfold splitLine
    rw [if_pos hi]
    cases parseIntroPointHeader line <;> rfl
  · cases current with
    | none =>
      unfold splitLine introLine
      rw [if_neg hi, if_neg hi]
    | some cur =>
      rw [parseIntroPointLine_eq cur ls line points (by simpa using hi)]
      unfold splitLine
      rw [if_neg hi]
      dsimp only
      rcases parseIntroPointLine cur ls line with e | ⟨rest, ip⟩ <;> rfl

/-- The loop of the split `parseIntroPoints`, from the lines `lines` on. -/
@[semireducible] def introLoop (lines : List Bytes) (points : List IntroPoint) (current : Option IntroPoint) :
    Except String (List IntroPoint) :=
  match lines with
  | [] => .ok (points ++ current.toList)
  | line :: ls =>
    match h : splitLine line ls points current with
    | .error e => .error e
    | .ok (rest, points', current') =>
      have := (introLine_spec (splitLine_eq line ls points current ▸ h)).1
      introLoop rest points' current'
termination_by lines.length
decreasing_by simp_wf; omega

/-- `parseIntroPoints` of the split revision. -/
def parseIntroPoints (text : Bytes) : Except String (List IntroPoint) := introLoop (splitLines text) [] none

theorem introLoop_eq (lines : List Bytes) (points : List IntroPoint) (current : Option IntroPoint) :
    introLoop lines points current = L5.introLoop lines points current := by
  induction lines, points, current using L5.introLoop.induct with
  | case1 points current => rw [introLoop, introLoop_nil]
  | case2 points current line ls e he =>
    rw [introLoop_error he, introLoop]
    split <;> rename_i heq <;> rw [splitLine_eq, he] at heq <;> cases heq
    rfl
  | case3 points current line ls rest points' current' hl _ ih =>
    rw [introLoop_ok hl, ← ih, introLoop]
    split <;> rename_i heq <;> rw [splitLine_eq, hl] at heq <;> cases heq
    rfl

/-- **The two revisions agree.** The split `parseIntroPoints` returns what
the first revision's does on every text: the same points, or the same error
text. -/
theorem parseIntroPoints_eq (text : Bytes) : parseIntroPoints text = L5.parseIntroPoints text :=
  introLoop_eq _ [] none

end Split

end TorGo.L5
