/-
  SIngress.Base.UrlText — URLS AS TEXT: the escaping of `net/url`, and the
  components of a URL reference (RFC 3986).

  Every mode of `url.escape` is a percent encoding with its own set of bytes
  that stand for themselves (`Lib.Percent`); the query mode also writes a space
  as a plus sign.

  * `queryEscape_escaped` — the text of `url.QueryEscape` consists of unreserved
                            bytes, plus signs and triples.
  * `decode_escapedPath`  — an escaped path reads as the path, in the spelling of
                            the request or in that of the library.
  * `readUrl_eq`          — the components of a text that is put together from
                            an authority, a path and a fragment.
-/
import Mathlib.Data.List.TakeWhile
import SIngress.Base.Http
import SIngress.Lib.Percent

namespace SIngress.Base

open SIngress.Lib

def bytePlus : UInt8 := 0x2B

/-! ## §1. `url.QueryEscape`. -/

/-- The unreserved characters of RFC 3986: letters, digits and four marks. -/
def unreserved (b : UInt8) : Bool :=
  (0x61 ≤ b && b ≤ 0x7A) || (0x41 ≤ b && b ≤ 0x5A) || (0x30 ≤ b && b ≤ 0x39)
    || (lit "-_.~").contains b

/-- `url.QueryEscape`. -/
def queryEscape (s : GoString) : GoString :=
  s.flatMap fun b => if b = 0x20 then [bytePlus] else Percent.encodeByte unreserved b

/-- Text of unreserved bytes, plus signs and percent signs with two digits. -/
def isQueryEscaped : GoString → Bool
  | [] => true
  | b :: rest =>
      if b = Percent.mark then
        match rest with
        | hi :: lo :: rest' =>
            (Percent.unhex hi).isSome && (Percent.unhex lo).isSome && isQueryEscaped rest'
        | _ => false
      else (unreserved b || b == bytePlus) && isQueryEscaped rest

theorem isQueryEscaped_cons_plain {b : UInt8} (hb : b ≠ Percent.mark)
    (hplain : unreserved b = true ∨ b = bytePlus) (rest : GoString) :
    isQueryEscaped (b :: rest) = isQueryEscaped rest := by
  rw [isQueryEscaped.eq_def]
  dsimp only
  rw [if_neg hb]
  obtain hplain | rfl := hplain
  · rw [hplain]
    rfl
  · simp

/-- **What `url.QueryEscape` writes is escaped.** -/
theorem queryEscape_escaped (s : GoString) : isQueryEscaped (queryEscape s) = true := by
  induction s with
  | nil => rfl
  | cons b s ih =>
      show isQueryEscaped ((if b = 0x20 then [bytePlus] else Percent.encodeByte unreserved b)
        ++ queryEscape s) = true
      by_cases hspace : b = 0x20
      · rw [if_pos hspace, List.singleton_append,
          isQueryEscaped_cons_plain (by decide) (.inr rfl), ih]
      · rw [if_neg hspace]
        unfold Percent.encodeByte
        by_cases hkeep : unreserved b = true
        · have hb : b ≠ Percent.mark := by
            rintro rfl
            exact absurd hkeep (by decide)
          rw [if_pos hkeep, List.singleton_append,
            isQueryEscaped_cons_plain hb (.inl hkeep), ih]
        · rw [if_neg hkeep]
          show isQueryEscaped (Percent.mark :: Percent.hexDigit (b / 16)
            :: Percent.hexDigit (b % 16) :: queryEscape s) = true
          rw [isQueryEscaped.eq_def]
          dsimp only
          rw [if_pos rfl, (Percent.unhex_of_lt (Percent.high_lt b)).2,
            (Percent.unhex_of_lt (Percent.low_lt b)).2, ih]
          rfl

/-- No byte but the unreserved ones, the plus sign and the percent sign occurs in it. -/
theorem mem_queryEscape {s : GoString} {b : UInt8} (hb : b ∈ queryEscape s) :
    unreserved b = true ∨ b = bytePlus ∨ b = Percent.mark := by
  obtain ⟨c, _, hb⟩ := List.mem_flatMap.mp hb
  by_cases hspace : c = 0x20
  · rw [if_pos hspace] at hb
    exact .inr (.inl (List.mem_singleton.mp hb))
  · rw [if_neg hspace] at hb
    have hmem : b ∈ Percent.encode unreserved [c] := by
      rw [Percent.encode_cons, Percent.encode_nil, List.append_nil]
      exact hb
    obtain ⟨hkeep, _⟩ | hmark | hhex := Percent.mem_encode hmem
    · exact .inl hkeep
    · exact .inr (.inr hmark)
    · have hdigits : Percent.upperHex.all unreserved = true := by decide
      exact .inl (List.all_eq_true.mp hdigits b hhex)

/-! ## §2. `url.URL.String`. -/

def byteQuestion : UInt8 := 0x3F
def byteHash : UInt8 := 0x23
def byteSemicolon : UInt8 := 0x3B
def byteQuote : UInt8 := 0x22

/-- The bytes a host, a path and a fragment keep. -/
def hostKeeps (b : UInt8) : Bool := unreserved b || (lit "!$&'()*+,;=:[]<>\"").contains b
def pathKeeps (b : UInt8) : Bool := unreserved b || (lit "$&+,/:;=@").contains b
def fragmentKeeps (b : UInt8) : Bool := unreserved b || (lit "$&+,/:;=?@!()*").contains b

/-- The path as `url.escape` writes it. -/
def escapePath (path : GoString) : GoString :=
  -- the target of `OPTIONS *` is not escaped
  if path = lit "*" then lit "*" else Percent.encode pathKeeps path

/-- `validEncoded`: the bytes that may stand in an escaped path. -/
def validEncoded (s : GoString) : Bool :=
  s.all fun b => (lit "!$&'()*+,;=:@[]%").contains b || pathKeeps b

/-- `URL.EscapedPath`: the spelling of the request, if it is one of the path. -/
def escapedPath (u : URL) : GoString :=
  if u.rawPath ≠ [] ∧ validEncoded u.rawPath = true ∧ Percent.decode u.rawPath = some u.path then
    u.rawPath
  else escapePath u.path

/-- `URL.String`, of a URL with a scheme and no `RawFragment`. -/
def urlText (u : URL) : GoString :=
  u.scheme ++ byteColon ::
    ((if u.host = [] ∧ u.path = [] then [] else lit "//") ++
      (Percent.encode hostKeeps u.host ++
        ((if escapedPath u ≠ [] ∧ (escapedPath u).head? ≠ some byteSlash ∧ u.host ≠ [] then
            [byteSlash] else []) ++
          (escapedPath u ++
            ((if u.rawQuery = [] then [] else byteQuestion :: u.rawQuery) ++
              if u.fragment = [] then [] else
                byteHash :: Percent.encode fragmentKeeps u.fragment)))))

theorem decode_escapePath (path : GoString) : Percent.decode (escapePath path) = some path := by
  unfold escapePath
  by_cases hstar : path = lit "*"
  · rw [if_pos hstar, hstar]
    decide
  · rw [if_neg hstar]
    exact Percent.decode_encode (by decide) path

/-- **However it is spelled, an escaped path reads as the path.** -/
theorem decode_escapedPath (u : URL) : Percent.decode (escapedPath u) = some u.path := by
  unfold escapedPath
  by_cases hraw : u.rawPath ≠ [] ∧ validEncoded u.rawPath = true
      ∧ Percent.decode u.rawPath = some u.path
  · rw [if_pos hraw]
    exact hraw.2.2
  · rw [if_neg hraw]
    exact decode_escapePath u.path

/-- Without a `RawPath` the library spells the path. -/
theorem escapedPath_of_unspelled {u : URL} (hraw : u.rawPath = []) :
    escapedPath u = escapePath u.path := if_neg fun h => h.1 hraw

/-- Escaping neither adds nor takes a leading slash. -/
theorem escapePath_head {path : GoString} :
    (escapePath path).head? = some byteSlash ↔ path.head? = some byteSlash := by
  constructor
  · intro hhead
    obtain ⟨rest, hescaped⟩ := List.head?_eq_some_iff.mp hhead
    have hdecode := decode_escapePath path
    rw [hescaped, Percent.decode_cons_plain (by decide)] at hdecode
    obtain ⟨s, _, hs⟩ := Option.map_eq_some_iff.mp hdecode
    rw [← hs]
    rfl
  · intro hhead
    obtain ⟨rest, rfl⟩ := List.head?_eq_some_iff.mp hhead
    have hstar : byteSlash :: rest ≠ lit "*" := fun h => absurd (List.cons.inj h).1 (by decide)
    unfold escapePath
    rw [if_neg hstar, Percent.encode_cons]
    rfl

theorem escapePath_eq_nil {path : GoString} : escapePath path = [] ↔ path = [] := by
  constructor
  · intro hnil
    have hdecode := decode_escapePath path
    rw [hnil] at hdecode
    exact (Option.some.inj hdecode).symm
  · rintro rfl
    rfl

/-! ## §3. The components of a reference. -/

/-- Where the path starts, ends, or the authority does. -/
def endsAuthority (b : UInt8) : Bool := b == byteSlash || b == byteQuestion || b == byteHash
def endsPath (b : UInt8) : Bool := b == byteQuestion || b == byteHash

/-- Scheme, authority, path and query, as they are written. -/
structure UrlParts where
  scheme : GoString
  authority : GoString
  path : GoString
  query : GoString
  deriving DecidableEq

/-- The path and the query behind the authority. -/
def readPath (scheme authority s : GoString) : UrlParts where
  scheme := scheme
  authority := authority
  path := s.takeWhile fun b => !endsPath b
  query :=
    match s.dropWhile fun b => !endsPath b with
    | [] => []
    | b :: rest => if b = byteQuestion then rest.takeWhile (· != byteHash) else []

/-- What follows the scheme. -/
def readHierarchy (scheme s : GoString) : UrlParts :=
  if startsWith s (lit "//") then
    let rest := s.drop 2
    readPath scheme (rest.takeWhile fun b => !endsAuthority b)
      (rest.dropWhile fun b => !endsAuthority b)
  else readPath scheme [] s

/-- RFC 3986, appendix B: every text has components. -/
def readUrl (s : GoString) : UrlParts :=
  let scheme := s.takeWhile fun b => !(endsAuthority b || b == byteColon)
  match s.dropWhile fun b => !(endsAuthority b || b == byteColon) with
  | [] => readHierarchy [] s
  | b :: rest =>
      if b = byteColon ∧ scheme ≠ [] then readHierarchy scheme rest else readHierarchy [] s

example : readUrl (lit "https://a.org:8443/x/y?q=1#f")
    = ⟨lit "https", lit "a.org:8443", lit "/x/y", lit "q=1"⟩ := by decide
example : readUrl (lit "/x#f?q") = ⟨[], [], lit "/x", []⟩ := by decide

/-- A stretch that stops before the rest. -/
theorem takeWhile_stop {p : UInt8 → Bool} {a rest : GoString} (ha : ∀ b ∈ a, p b = true)
    (hrest : ∀ b ∈ rest.head?, p b = false) :
    (a ++ rest).takeWhile p = a ∧ (a ++ rest).dropWhile p = rest := by
  rw [List.takeWhile_append_of_pos ha, List.dropWhile_append_of_pos ha]
  cases rest with
  | nil => exact ⟨List.append_nil a, rfl⟩
  | cons b rest =>
      have hb : ¬ p b = true := by
        rw [hrest b rfl]
        exact Bool.noConfusion
      rw [List.takeWhile_cons_of_neg hb, List.dropWhile_cons_of_neg hb, List.append_nil]
      exact ⟨rfl, rfl⟩

/-- Nothing but a fragment behind the path: there is no query. -/
theorem readPath_eq (scheme authority : GoString) {path fragment : GoString}
    (hpath : ∀ b ∈ path, endsPath b = false) (hfragment : ∀ b ∈ fragment.head?, b = byteHash) :
    readPath scheme authority (path ++ fragment) = ⟨scheme, authority, path, []⟩ := by
  have hstop := @takeWhile_stop (fun b => !endsPath b) path fragment
    (fun b hb => by rw [hpath b hb]; rfl) (fun b hb => by rw [hfragment b hb]; rfl)
  unfold readPath
  rw [hstop.1, hstop.2]
  cases fragment with
  | nil => rfl
  | cons b rest =>
      rw [hfragment b rfl]
      rfl

/-- **The components of an assembled text**: an authority without terminators, a path that is
empty or starts with a slash, and a fragment. -/
theorem readUrl_eq {authority path fragment : GoString}
    (hauthority : ∀ b ∈ authority, endsAuthority b = false)
    (hpath : ∀ b ∈ path, endsPath b = false) (hrooted : ∀ b ∈ path.head?, b = byteSlash)
    (hfragment : ∀ b ∈ fragment.head?, b = byteHash) :
    readUrl (lit "https:" ++ (lit "//" ++ (authority ++ (path ++ fragment))))
      = ⟨lit "https", authority, path, []⟩ := by
  have hrest : ∀ b ∈ (path ++ fragment).head?, endsAuthority b = true := by
    intro b hb
    cases path with
    | nil =>
        rw [hfragment b hb]
        rfl
    | cons c path =>
        rw [hrooted b hb]
        rfl
  have hstop := @takeWhile_stop (fun b => !endsAuthority b) authority (path ++ fragment)
    (fun b hb => by rw [hauthority b hb]; rfl) (fun b hb => by rw [hrest b hb]; rfl)
  show readHierarchy (lit "https") (lit "//" ++ (authority ++ (path ++ fragment))) = _
  show readPath (lit "https")
    ((authority ++ (path ++ fragment)).takeWhile fun b => !endsAuthority b)
    ((authority ++ (path ++ fragment)).dropWhile fun b => !endsAuthority b) = _
  rw [hstop.1, hstop.2, readPath_eq _ _ hpath hfragment]

/-- A path that leaves no authority in front of it is empty or starts with a slash. -/
theorem rooted_of_no_authority {path rest : GoString} (hpath : ∀ b ∈ path, endsPath b = false)
    (hnone : ((path ++ rest).takeWhile fun b => !endsAuthority b) = []) :
    ∀ b ∈ path.head?, b = byteSlash := by
  intro b hb
  obtain ⟨tail, rfl⟩ := List.head?_eq_some_iff.mp hb
  have hends : endsAuthority b = true := by
    by_contra hends
    rw [List.cons_append, List.takeWhile_cons_of_pos (by simpa using hends)] at hnone
    cases hnone
  unfold endsAuthority at hends
  rw [Bool.or_assoc] at hends
  change (b == byteSlash || endsPath b) = true at hends
  rw [hpath b List.mem_cons_self, Bool.or_false] at hends
  exact beq_iff_eq.mp hends

end SIngress.Base
