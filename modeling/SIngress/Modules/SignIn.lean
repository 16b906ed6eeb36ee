/-
  SIngress.Modules.SignIn — THE SIGN-IN REDIRECT: substitution into the
  configured URL (`getRedirectUrl` of `modules/auth/forward.go`).

  The two placeholders are replaced one after the other, so the second
  replacement runs over text that already contains what the client sent.

  ## Why nothing is replaced inside the inserted text

  A placeholder starts with `$` and contains no other one, and `$` is not
  among the bytes `url.QueryEscape` writes.  An occurrence of `$host` could
  still begin before the inserted text and end inside it; the text begins with
  the escaped slash `%2F`, and no placeholder contains a percent sign.

  * `prefix_of_replaceFirst`          — no placeholder straddles the inserted text.
  * `redirect_pieces`              — the replacements in sequence are the
                                     simultaneous one.
  * `getRedirectUrl_simultaneous`  — the result for the code, over all
                                     templates and requests.
-/
import Mathlib.Data.List.Infix
import SIngress.Base.UrlText
import SIngress.Modules.Auth

namespace SIngress.Modules.Auth

open SIngress.Base SIngress.Lib SIngress.Platform SIngress.Proxy

/-! ## §1. Templates and the simultaneous replacement. -/

def escapedUriPlaceholder : GoString := lit "$escaped_uri"
def hostPlaceholder : GoString := lit "$host"

/-- The byte that starts a placeholder. -/
def byteDollar : UInt8 := 0x24

/-- How often a text occurs in another. -/
def occurrences (text s : GoString) : Nat := s.tails.countP fun t => text.isPrefixOf t

/-- A piece of a sign-in template. -/
inductive Piece where
  | byte (b : UInt8)
  | escapedUri
  | host
  deriving DecidableEq

/-- The pieces of a template, from left to right; `skip` bytes belong to the placeholder
that has just been read. -/
def pieces : Nat → GoString → List Piece
  | _, [] => []
  | skip + 1, _ :: rest => pieces skip rest
  | 0, b :: rest =>
      if escapedUriPlaceholder.isPrefixOf (b :: rest) then
        .escapedUri :: pieces (escapedUriPlaceholder.length - 1) rest
      else if hostPlaceholder.isPrefixOf (b :: rest) then
        .host :: pieces (hostPlaceholder.length - 1) rest
      else .byte b :: pieces 0 rest

/-- The text of a piece, for the two texts to insert. -/
def Piece.fill (uri host : GoString) : Piece → GoString
  | .byte b => [b]
  | .escapedUri => uri
  | .host => host

/-- Both placeholders replaced at once. -/
def substitute (uri host template : GoString) : GoString :=
  (pieces 0 template).flatMap (Piece.fill uri host)

/-- Two texts made of the same pieces, equal at every byte that belongs to the template. -/
def AgreeOutside (ps : List Piece) (a b : GoString) : Prop :=
  ∃ texts texts' : List GoString, texts.flatten = a ∧ texts'.flatten = b
    ∧ texts.length = ps.length ∧ texts'.length = ps.length
    ∧ ∀ (i : Nat) (c : UInt8), ps[i]? = some (.byte c) → texts[i]? = some [c] ∧ texts'[i]? = some [c]

/-! ## §2. Occurrences and single replacements. -/

section

variable {old new s : GoString}

theorem occurrences_cons (old : GoString) (b : UInt8) (s : GoString) :
    occurrences old (b :: s)
      = occurrences old s + if old.isPrefixOf (b :: s) = true then 1 else 0 := by
  unfold occurrences
  rw [List.tails_cons, List.countP_cons]

/-- A suffix has no more occurrences. -/
theorem occurrences_append_le (old a s : GoString) :
    occurrences old s ≤ occurrences old (a ++ s) := by
  induction a with
  | nil => exact Nat.le_refl _
  | cons b a ih =>
      rw [List.cons_append, occurrences_cons]
      omega

/-- Behind an occurrence there is one less. -/
theorem occurrences_behind (old : GoString) (hold : old ≠ []) (s : GoString) :
    occurrences old s + 1 ≤ occurrences old (old ++ s) := by
  obtain ⟨b, name, rfl⟩ := List.exists_cons_of_ne_nil hold
  have hle := occurrences_append_le (b :: name) name s
  have hfirst : (b :: name).isPrefixOf (b :: (name ++ s)) = true :=
    List.isPrefixOf_iff_prefix.mpr (List.prefix_append (b :: name) s)
  rw [List.cons_append, occurrences_cons, if_pos hfirst]
  omega

theorem not_isPrefixOf_of_ne {d b : UInt8} (name s : GoString) (h : d ≠ b) :
    ¬ (d :: name).isPrefixOf (b :: s) = true := by
  simp [List.isPrefixOf, h]

/-- Text without the first byte of a placeholder has no occurrence that starts in it. -/
theorem occurrences_skip {d : UInt8} {name a : GoString} (ha : d ∉ a) (s : GoString) :
    occurrences (d :: name) (a ++ s) = occurrences (d :: name) s := by
  induction a with
  | nil => rfl
  | cons b a ih =>
      have hb := List.ne_of_not_mem_cons ha
      have ha := List.not_mem_of_not_mem_cons ha
      have hno := not_isPrefixOf_of_ne name (a ++ s) hb
      rw [List.cons_append, occurrences_cons, if_neg hno, ih ha]
      rfl

theorem replaceFirst_cons_of_not (new : GoString) {b : UInt8}
    (h : ¬ old.isPrefixOf (b :: s) = true) :
    replaceFirst old new (b :: s) = b :: replaceFirst old new s := by
  rw [replaceFirst, if_neg h]

/-- The first occurrence is the one at the start. -/
theorem replaceFirst_append (hold : old ≠ []) (new s : GoString) :
    replaceFirst old new (old ++ s) = new ++ s := by
  obtain ⟨b, name, rfl⟩ := List.exists_cons_of_ne_nil hold
  have hfirst : (b :: name).isPrefixOf (b :: (name ++ s)) = true :=
    List.isPrefixOf_iff_prefix.mpr (List.prefix_append (b :: name) s)
  rw [List.cons_append, replaceFirst, if_pos hfirst, ← List.cons_append, List.drop_left]

theorem replaceFirst_skip {d : UInt8} {name a : GoString} (ha : d ∉ a) (new s : GoString) :
    replaceFirst (d :: name) new (a ++ s) = a ++ replaceFirst (d :: name) new s := by
  induction a with
  | nil => rfl
  | cons b a ih =>
      have hb := List.ne_of_not_mem_cons ha
      have ha := List.not_mem_of_not_mem_cons ha
      have hno := not_isPrefixOf_of_ne name (a ++ s) hb
      rw [List.cons_append, replaceFirst_cons_of_not new hno, ih ha, List.cons_append]

/-- Text in which the placeholder does not occur is left alone. -/
theorem replaceFirst_of_absent (hs : occurrences old s = 0) : replaceFirst old new s = s := by
  induction s with
  | nil => rfl
  | cons b s ih =>
      rw [occurrences_cons] at hs
      have hno : ¬ old.isPrefixOf (b :: s) = true := by
        intro h
        rw [if_pos h] at hs
        omega
      rw [replaceFirst_cons_of_not new hno, ih (by omega)]

/-- **Nothing straddles the inserted text**: where the inserted text starts with a byte that
`w` does not contain, `w` stands at the start after the replacement only if it stood there
before. -/
theorem prefix_of_replaceFirst {c : UInt8} {u w : GoString} (hw : c ∉ w)
    (h : w <+: replaceFirst old (c :: u) s) : w <+: s := by
  induction s generalizing w with
  | nil => exact h
  | cons b s ih =>
      cases w with
      | nil => exact List.nil_prefix
      | cons x w =>
          have hx := List.ne_of_not_mem_cons hw
          have hw := List.not_mem_of_not_mem_cons hw
          by_cases hold : old.isPrefixOf (b :: s) = true
          · rw [replaceFirst, if_pos hold, List.cons_append] at h
            exact absurd (List.cons_prefix_cons.mp h).1.symm hx
          · rw [replaceFirst_cons_of_not _ hold] at h
            obtain ⟨hxb, hrest⟩ := List.cons_prefix_cons.mp h
            exact List.cons_prefix_cons.mpr ⟨hxb, ih hw hrest⟩

/-- The replacement creates no occurrence of another placeholder. -/
theorem occurrences_replaceFirst_le {c d : UInt8} {name u : GoString} (old : GoString)
    (hold : old ≠ []) (hc : c ∉ d :: name) (hd : d ∉ c :: u) (s : GoString) :
    occurrences (d :: name) (replaceFirst old (c :: u) s) ≤ occurrences (d :: name) s := by
  induction s with
  | nil => exact Nat.le_refl _
  | cons b s ih =>
      by_cases hfirst : old.isPrefixOf (b :: s) = true
      · obtain ⟨s', hs'⟩ := List.isPrefixOf_iff_prefix.mp hfirst
        rw [← hs', replaceFirst_append hold, occurrences_skip hd]
        exact occurrences_append_le _ old s'
      · -- an occurrence at the start of the result was there before
        have hstart : (d :: name).isPrefixOf (b :: replaceFirst old (c :: u) s) = true →
            (d :: name).isPrefixOf (b :: s) = true := by
          intro h
          rw [← replaceFirst_cons_of_not _ hfirst] at h
          exact List.isPrefixOf_iff_prefix.mpr
            (prefix_of_replaceFirst hc (List.isPrefixOf_iff_prefix.mp h))
        rw [replaceFirst_cons_of_not _ hfirst, occurrences_cons, occurrences_cons]
        by_cases hat : (d :: name).isPrefixOf (b :: replaceFirst old (c :: u) s) = true
        · rw [if_pos hat, if_pos (hstart hat)]
          omega
        · rw [if_neg hat]
          omega

end

/-! ## §3. The pieces of a template. -/

theorem pieces_skip (a rest : GoString) : pieces a.length (a ++ rest) = pieces 0 rest := by
  induction a with
  | nil => rfl
  | cons b a ih => exact ih

theorem pieces_escapedUri (rest : GoString) :
    pieces 0 (escapedUriPlaceholder ++ rest) = .escapedUri :: pieces 0 rest := by
  have hskip := pieces_skip (lit "escaped_uri") rest
  have hfirst : escapedUriPlaceholder.isPrefixOf (byteDollar :: (lit "escaped_uri" ++ rest)) = true :=
    List.isPrefixOf_iff_prefix.mpr (List.prefix_append escapedUriPlaceholder rest)
  show pieces 0 (byteDollar :: (lit "escaped_uri" ++ rest)) = _
  rw [pieces, if_pos hfirst, ← hskip]
  rfl

/-- No text starts with both placeholders. -/
theorem placeholders_apart (rest : GoString) :
    ¬ escapedUriPlaceholder.isPrefixOf (byteDollar :: (lit "host" ++ rest)) = true := by
  -- they differ at the second byte
  have h : escapedUriPlaceholder.isPrefixOf (byteDollar :: (lit "host" ++ rest)) = false := rfl
  rw [h]
  exact Bool.noConfusion

theorem pieces_host (rest : GoString) :
    pieces 0 (hostPlaceholder ++ rest) = .host :: pieces 0 rest := by
  have hskip := pieces_skip (lit "host") rest
  have hfirst : hostPlaceholder.isPrefixOf (byteDollar :: (lit "host" ++ rest)) = true :=
    List.isPrefixOf_iff_prefix.mpr (List.prefix_append hostPlaceholder rest)
  show pieces 0 (byteDollar :: (lit "host" ++ rest)) = _
  rw [pieces, if_neg (placeholders_apart rest), if_pos hfirst, ← hskip]
  rfl

theorem pieces_byte {b : UInt8} {rest : GoString}
    (huri : ¬ escapedUriPlaceholder.isPrefixOf (b :: rest) = true)
    (hhost : ¬ hostPlaceholder.isPrefixOf (b :: rest) = true) :
    pieces 0 (b :: rest) = .byte b :: pieces 0 rest := by
  rw [pieces, if_neg huri, if_neg hhost]

/-- **Induction on a template**: it is empty, starts with one of the placeholders, or starts
with a byte of its own. -/
@[elab_as_elim]
theorem template_induction {motive : GoString → Prop} (nil : motive [])
    (escapedUri : ∀ rest, motive rest → motive (escapedUriPlaceholder ++ rest))
    (host : ∀ rest, motive rest → motive (hostPlaceholder ++ rest))
    (byte : ∀ b rest, ¬ escapedUriPlaceholder.isPrefixOf (b :: rest) = true →
      ¬ hostPlaceholder.isPrefixOf (b :: rest) = true → motive rest → motive (b :: rest))
    (template : GoString) : motive template := by
  induction hn : template.length using Nat.strong_induction_on generalizing template with
  | _ n ih =>
      subst hn
      cases template with
      | nil => exact nil
      | cons b rest =>
          by_cases huri : escapedUriPlaceholder.isPrefixOf (b :: rest) = true
          · obtain ⟨t, ht⟩ := List.isPrefixOf_iff_prefix.mp huri
            rw [← ht] at ih ⊢
            refine escapedUri t (ih t.length ?_ t rfl)
            rw [List.length_append]
            exact Nat.lt_add_of_pos_left (by decide)
          · by_cases hhost : hostPlaceholder.isPrefixOf (b :: rest) = true
            · obtain ⟨t, ht⟩ := List.isPrefixOf_iff_prefix.mp hhost
              rw [← ht] at ih ⊢
              refine host t (ih t.length ?_ t rfl)
              rw [List.length_append]
              exact Nat.lt_add_of_pos_left (by decide)
            · exact byte b rest huri hhost (ih rest.length (Nat.lt_succ_self _) rest rfl)

/-- With the placeholders themselves inserted, the template comes back. -/
theorem substitute_placeholders (template : GoString) :
    substitute escapedUriPlaceholder hostPlaceholder template = template := by
  unfold substitute
  induction template using template_induction with
  | nil => rfl
  | escapedUri rest ih => rw [pieces_escapedUri, List.flatMap_cons, ih, Piece.fill]
  | host rest ih => rw [pieces_host, List.flatMap_cons, ih, Piece.fill]
  | byte b rest huri hhost ih =>
      rw [pieces_byte huri hhost, List.flatMap_cons, ih, Piece.fill, List.singleton_append]

/-- Whatever is inserted, the bytes of the template stay. -/
theorem substitute_agree (uri host uri' host' template : GoString) :
    AgreeOutside (pieces 0 template) (substitute uri host template)
      (substitute uri' host' template) := by
  refine ⟨(pieces 0 template).map (Piece.fill uri host),
    (pieces 0 template).map (Piece.fill uri' host'), ?_, ?_, List.length_map _,
    List.length_map _, ?_⟩
  · exact List.flatMap_def.symm
  · exact List.flatMap_def.symm
  · intro i c hi
    rw [List.getElem?_map, List.getElem?_map, hi]
    exact ⟨rfl, rfl⟩

/-! ## §4. One replacement after the other. -/

/-- The first replacement passes over a `$host`. -/
theorem replaceFirst_over_host (u rest : GoString) :
    replaceFirst escapedUriPlaceholder u (hostPlaceholder ++ rest)
      = hostPlaceholder ++ replaceFirst escapedUriPlaceholder u rest := by
  have hname : byteDollar ∉ lit "host" := by decide
  show replaceFirst escapedUriPlaceholder u (byteDollar :: (lit "host" ++ rest)) = _
  rw [replaceFirst_cons_of_not u (placeholders_apart rest)]
  exact congrArg (byteDollar :: ·) (replaceFirst_skip hname u rest)

/-- **The replacements in sequence are the simultaneous one**, where the first inserted text
starts with a percent sign and contains no `$`. -/
theorem redirect_pieces {u : GoString} (hu : byteDollar ∉ Percent.mark :: u) (h template : GoString)
    (huri : occurrences escapedUriPlaceholder template ≤ 1)
    (hhost : occurrences hostPlaceholder template ≤ 1) :
    replaceFirst hostPlaceholder h
        (replaceFirst escapedUriPlaceholder (Percent.mark :: u) template)
      = substitute (Percent.mark :: u) h template := by
  have hmark : Percent.mark ∉ hostPlaceholder := by decide
  unfold substitute
  induction template using template_induction with
  | nil => rfl
  | escapedUri rest ih =>
      -- behind the first placeholder there is no other one of its kind
      have hbehind := occurrences_behind escapedUriPlaceholder (by decide) rest
      have hle := occurrences_append_le hostPlaceholder escapedUriPlaceholder rest
      have habsent : occurrences escapedUriPlaceholder rest = 0 := by omega
      have hrest := ih (by omega) (by omega)
      rw [replaceFirst_of_absent habsent] at hrest
      rw [replaceFirst_append (by decide), pieces_escapedUri, List.flatMap_cons, ← hrest]
      exact replaceFirst_skip hu h rest
  | host rest ih =>
      have hbehind := occurrences_behind hostPlaceholder (by decide) rest
      have hle := occurrences_append_le escapedUriPlaceholder hostPlaceholder rest
      have hrest := ih (by omega) (by omega)
      -- behind it the first replacement creates no other one
      have hcreated : occurrences hostPlaceholder
          (replaceFirst escapedUriPlaceholder (Percent.mark :: u) rest)
            ≤ occurrences hostPlaceholder rest :=
        occurrences_replaceFirst_le escapedUriPlaceholder (by decide) hmark hu rest
      have habsent : occurrences hostPlaceholder
          (replaceFirst escapedUriPlaceholder (Percent.mark :: u) rest) = 0 := by omega
      rw [replaceFirst_of_absent habsent] at hrest
      rw [replaceFirst_over_host, replaceFirst_append (by decide), pieces_host,
        List.flatMap_cons, ← hrest]
      rfl
  | byte b rest hnotUri hnotHost ih =>
      rw [occurrences_cons, if_neg hnotUri] at huri
      rw [occurrences_cons, if_neg hnotHost] at hhost
      have hrest := ih huri hhost
      -- no placeholder begins here and ends in the inserted text
      have hnot : ¬ hostPlaceholder.isPrefixOf
          (b :: replaceFirst escapedUriPlaceholder (Percent.mark :: u) rest) = true := by
        intro hstart
        rw [← replaceFirst_cons_of_not _ hnotUri] at hstart
        exact hnotHost (List.isPrefixOf_iff_prefix.mpr
          (prefix_of_replaceFirst hmark (List.isPrefixOf_iff_prefix.mp hstart)))
      rw [replaceFirst_cons_of_not _ hnotUri, replaceFirst_cons_of_not _ hnot, hrest,
        pieces_byte hnotUri hnotHost, List.flatMap_cons]
      rfl

/-- **Sign-in redirects are injection free.**  The template is cut into pieces that depend on
no request; for every request whose URL is printed from a slash on, the redirect is the
template with both placeholders replaced at once by the escaped URL and the escaped host,
which consist of escaped text only; and the redirects of two requests agree at every byte
of the template. -/
theorem getRedirectUrl_simultaneous {ext : Ext} (hext : ext.queryEscape = queryEscape)
    {signinUrl : GoString} (huri : occurrences escapedUriPlaceholder signinUrl ≤ 1)
    (hhost : occurrences hostPlaceholder signinUrl ≤ 1) :
    substitute escapedUriPlaceholder hostPlaceholder signinUrl = signinUrl
      ∧ (∀ r : Request, startsWith (ext.urlString r.url) (lit "/") = true →
          getRedirectUrl ext r signinUrl
              = substitute (queryEscape (ext.urlString r.url)) (queryEscape r.host) signinUrl
            ∧ isQueryEscaped (queryEscape (ext.urlString r.url)) = true
            ∧ isQueryEscaped (queryEscape r.host) = true)
      ∧ ∀ r r' : Request, startsWith (ext.urlString r.url) (lit "/") = true →
          startsWith (ext.urlString r'.url) (lit "/") = true →
          AgreeOutside (pieces 0 signinUrl) (getRedirectUrl ext r signinUrl)
            (getRedirectUrl ext r' signinUrl) := by
  have hsub : ∀ r : Request, startsWith (ext.urlString r.url) (lit "/") = true →
      getRedirectUrl ext r signinUrl
        = substitute (queryEscape (ext.urlString r.url)) (queryEscape r.host) signinUrl := by
    intro r hr
    obtain ⟨rest, hrest⟩ := List.isPrefixOf_iff_prefix.mp hr
    -- the escaped slash comes first
    have hescaped : queryEscape (ext.urlString r.url)
        = Percent.mark :: (lit "2F" ++ queryEscape rest) := by
      rw [← hrest]
      rfl
    have hdollar : byteDollar ∉ queryEscape (ext.urlString r.url) := by
      intro hmem
      obtain h | h | h := mem_queryEscape hmem
      · exact absurd h (by decide)
      · exact absurd h (by decide)
      · exact absurd h (by decide)
    unfold getRedirectUrl
    rw [hext]
    rw [hescaped] at hdollar ⊢
    exact redirect_pieces hdollar (queryEscape r.host) signinUrl huri hhost
  refine ⟨substitute_placeholders signinUrl, ?_, ?_⟩
  · intro r hr
    exact ⟨hsub r hr, queryEscape_escaped _, queryEscape_escaped _⟩
  · intro r r' hr hr'
    rw [hsub r hr, hsub r' hr']
    exact substitute_agree _ _ _ _ signinUrl

/-- Library functions that escape as `net/url` does and print a URL from its path on. -/
def Ext.escaping : Ext :=
  { Ext.small with
    urlString := fun u => u.path
    queryEscape := queryEscape }

/-- The template of the documentation. -/
def signInTemplate : GoString :=
  lit "https://auth.my.domain/login?rd=https%3A%2F%2F$host$escaped_uri"

/-- A request whose path spells a placeholder. -/
def placeholderRequest : Request where
  method := lit "GET"
  host := lit "a.org"
  url := ⟨[], [], lit "/$host", [], [], []⟩
  header := ∅
  tls := true
  remoteAddr := lit "10.0.0.9:80"
  contentLength := 0

/-- The placeholder in the path is escaped, and only the one of the template is replaced. -/
theorem getRedirectUrl_placeholder_in_path :
    startsWith (Ext.escaping.urlString placeholderRequest.url) (lit "/") = true
      ∧ getRedirectUrl Ext.escaping placeholderRequest signInTemplate
          = lit "https://auth.my.domain/login?rd=https%3A%2F%2Fa.org%2F%24host" := by
  have hslash : startsWith (Ext.escaping.urlString placeholderRequest.url) (lit "/") = true := rfl
  have hall := @getRedirectUrl_simultaneous Ext.escaping rfl signInTemplate (by decide) (by decide)
  refine ⟨hslash, ?_⟩
  rw [(hall.2.1 placeholderRequest hslash).1]
  decide

end SIngress.Modules.Auth
