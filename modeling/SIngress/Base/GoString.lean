/-
  SIngress.Base.GoString — GO STRINGS AS BYTE SEQUENCES.

  A Go string is a sequence of bytes: `len` counts bytes, slicing cuts bytes
  and request paths need not be valid UTF-8.  So a string is a `List UInt8`
  throughout, and a literal of the source is written `lit "…"`, its UTF-8
  encoding.  The functions below are the ones of the `strings` package that
  the repository calls, with the separators it calls them with.
-/
import Mathlib.Data.List.Basic

namespace SIngress.Base

/-- A Go string. -/
abbrev GoString := List UInt8

/-- A string literal of the source. -/
def lit (s : String) : GoString := s.toUTF8.data.toList

/-- A number as `%d` prints it. -/
def itoa (n : Int) : GoString := lit (toString n)

/-! ## §1. Single bytes the source names. -/

def byteSlash : UInt8 := 0x2F
def byteDot : UInt8 := 0x2E
def byteComma : UInt8 := 0x2C
def byteColon : UInt8 := 0x3A
def byteNewline : UInt8 := 0x0A
def byteAsterisk : UInt8 := 0x2A

/-! ## §2. Splitting and prefixes. -/

/-- `strings.Split(s, sep)` for a one-byte separator. -/
def split (s : GoString) (sep : UInt8) : List GoString := s.splitOn sep

/-- `strings.SplitN(s, sep, 2)` for a one-byte separator: the whole string when
the separator does not occur, else the parts around its first occurrence. -/
def splitN2 (s : GoString) (sep : UInt8) : List GoString :=
  match s.dropWhile (· != sep) with
  | [] => [s]
  | _ :: rest => [s.takeWhile (· != sep), rest]

/-- `strings.HasPrefix(s, p)`. -/
def startsWith (s p : GoString) : Bool := p.isPrefixOf s

/-- `strings.Replace(s, old, new, 1)` for a nonempty `old`. -/
def replaceFirst (old new : GoString) : GoString → GoString
  | [] => []
  | b :: rest =>
      if old.isPrefixOf (b :: rest) then new ++ (b :: rest).drop old.length
      else b :: replaceFirst old new rest

/-! ## §3. Trimming white space. -/

/-- The encodings of the characters `unicode.IsSpace` accepts. -/
def spaceEncodings : List GoString :=
  [[0x09], [0x0A], [0x0B], [0x0C], [0x0D], [0x20], [0xC2, 0x85], [0xC2, 0xA0],
   [0xE1, 0x9A, 0x80], [0xE2, 0x80, 0x80], [0xE2, 0x80, 0x81], [0xE2, 0x80, 0x82],
   [0xE2, 0x80, 0x83], [0xE2, 0x80, 0x84], [0xE2, 0x80, 0x85], [0xE2, 0x80, 0x86],
   [0xE2, 0x80, 0x87], [0xE2, 0x80, 0x88], [0xE2, 0x80, 0x89], [0xE2, 0x80, 0x8A],
   [0xE2, 0x80, 0xA8], [0xE2, 0x80, 0xA9], [0xE2, 0x80, 0xAF], [0xE2, 0x81, 0x9F],
   [0xE3, 0x80, 0x80]]

/-- Cut one encoding of `encs` off the front, as often as possible; at most
`fuel` times, and every cut takes at least one byte. -/
def trimEncodings (encs : List GoString) : Nat → GoString → GoString
  | 0, s => s
  | fuel + 1, s =>
      match encs.find? (fun e => e.isPrefixOf s) with
      | some e => trimEncodings encs fuel (s.drop e.length)
      | none => s

/-- `strings.TrimSpace(s)`: cut leading, then trailing space characters. -/
def trimSpace (s : GoString) : GoString :=
  let left := trimEncodings spaceEncodings s.length s
  (trimEncodings (spaceEncodings.map List.reverse) left.length left.reverse).reverse

/-- `strings.ToLower` on an ASCII string. -/
def toLowerAscii (s : GoString) : GoString :=
  s.map fun b => if 0x41 ≤ b ∧ b ≤ 0x5A then b + 0x20 else b

/-! ## §4. Splitting at the first separator loses nothing. -/

/-- A name without the separator is recovered from the joined string. -/
theorem append_sep_inj {sep : UInt8} :
    ∀ {a a' b b' : GoString}, sep ∉ a → sep ∉ a' →
      a ++ sep :: b = a' ++ sep :: b' → a = a' ∧ b = b'
  | [], [], b, b', _, _, h => by
      simp only [List.nil_append, List.cons.injEq, true_and] at h
      exact ⟨rfl, h⟩
  | [], x :: a', b, b', _, ha', h => by
      simp only [List.nil_append, List.cons_append, List.cons.injEq] at h
      exact absurd (by rw [h.1]; exact List.mem_cons_self) ha'
  | x :: a, [], b, b', ha, _, h => by
      simp only [List.nil_append, List.cons_append, List.cons.injEq] at h
      exact absurd (by rw [h.1]; exact List.mem_cons_self) ha
  | x :: a, y :: a', b, b', ha, ha', h => by
      simp only [List.cons_append, List.cons.injEq] at h
      have hrec := append_sep_inj (fun hm => ha (List.mem_cons_of_mem _ hm))
        (fun hm => ha' (List.mem_cons_of_mem _ hm)) h.2
      exact ⟨by rw [h.1, hrec.1], hrec.2⟩

/-! ## §5. What splitting and trimming keep. -/

theorem split_ne_nil (s : GoString) (sep : UInt8) : split s sep ≠ [] :=
  List.splitOnP_ne_nil _ s

@[simp] theorem split_nil (sep : UInt8) : split [] sep = [[]] := rfl

theorem split_cons_sep (s : GoString) (sep : UInt8) : split (sep :: s) sep = [] :: split s sep := by
  unfold split List.splitOn
  rw [List.splitOnP_cons_eq_if_modifyHead, if_pos (by simp)]

theorem split_cons_ne {b sep : UInt8} (hb : b ≠ sep) (s : GoString) :
    split (b :: s) sep = (split s sep).modifyHead (b :: ·) := by
  unfold split List.splitOn
  rw [List.splitOnP_cons_eq_if_modifyHead, if_neg (by simpa using hb)]

/-- A string that starts with another byte extends the first part of what follows. -/
theorem exists_split_cons_ne {b sep : UInt8} (hb : b ≠ sep) (s : GoString) :
    ∃ part parts, split s sep = part :: parts ∧ split (b :: s) sep = (b :: part) :: parts := by
  obtain ⟨part, parts, hparts⟩ := List.exists_cons_of_ne_nil (split_ne_nil s sep)
  exact ⟨part, parts, hparts, by rw [split_cons_ne hb, hparts]; rfl⟩

/-- The first part of a split is what stands before the first separator. -/
theorem headD_split (s : GoString) (sep : UInt8) :
    (split s sep).headD [] = s.takeWhile (· != sep) := by
  induction s with
  | nil => rfl
  | cons b s ih =>
      by_cases hb : b = sep
      · rw [hb, split_cons_sep]
        simp
      · obtain ⟨part, parts, hparts, hcons⟩ := exists_split_cons_ne hb s
        rw [hparts, List.headD_cons] at ih
        rw [hcons, List.headD_cons, ih, List.takeWhile_cons_of_pos (by simpa using hb)]

/-- A separator splits its string in two. -/
theorem split_append_sep (a b : GoString) (sep : UInt8) :
    split (a ++ sep :: b) sep = split a sep ++ split b sep := by
  induction a with
  | nil => rw [List.nil_append, split_cons_sep, split_nil]; rfl
  | cons x a ih =>
      rw [List.cons_append]
      by_cases hx : x = sep
      · rw [hx, split_cons_sep, split_cons_sep, ih]
        rfl
      · obtain ⟨part, parts, hparts, hcons⟩ := exists_split_cons_ne hx a
        rw [split_cons_ne hx, ih, hcons, hparts]
        rfl

theorem split_of_not_mem {s : GoString} {sep : UInt8} (h : sep ∉ s) : split s sep = [s] := by
  induction s with
  | nil => rfl
  | cons b s ih =>
      rw [List.mem_cons, not_or] at h
      rw [split_cons_ne (Ne.symm h.1), ih h.2]
      rfl

/-- The first parts agree byte by byte. -/
theorem split_cons_prefix_cons {x y sep : UInt8} {a b : GoString} :
    split (x :: a) sep <+: split (y :: b) sep ↔ x = y ∧ split a sep <+: split b sep := by
  by_cases hx : x = sep
  · by_cases hy : y = sep
    · rw [hx, hy, split_cons_sep, split_cons_sep, List.cons_prefix_cons]
      simp
    · obtain ⟨part, parts, _, hcons⟩ := exists_split_cons_ne hy b
      rw [hx, split_cons_sep, hcons, List.cons_prefix_cons]
      simp [Ne.symm hy]
  · obtain ⟨part, parts, hparts, hcons⟩ := exists_split_cons_ne hx a
    by_cases hy : y = sep
    · rw [hy, split_cons_sep, hcons, List.cons_prefix_cons]
      simp [hx]
    · obtain ⟨part', parts', hparts', hcons'⟩ := exists_split_cons_ne hy b
      rw [hcons, hcons', hparts, hparts', List.cons_prefix_cons, List.cons_prefix_cons,
        List.cons.injEq, and_assoc]

/-- The empty string has one part, and a string starts with it if it is empty or starts with
the separator. -/
theorem split_nil_prefix {b : GoString} {sep : UInt8} :
    split [] sep <+: split b sep ↔ b = [] ∨ [sep] <+: b := by
  cases b with
  | nil => simp
  | cons y b =>
      rw [split_nil]
      by_cases hy : y = sep
      · rw [hy, split_cons_sep]
        simp
      · obtain ⟨part, parts, _, hcons⟩ := exists_split_cons_ne hy b
        rw [hcons]
        simp [Ne.symm hy]

/-- **Initial parts are initial strings cut at a separator.** -/
theorem split_prefix_iff {a b : GoString} {sep : UInt8} :
    split a sep <+: split b sep ↔ b = a ∨ a ++ [sep] <+: b := by
  induction a generalizing b with
  | nil => exact split_nil_prefix
  | cons x a ih =>
      cases b with
      | nil =>
          -- a single part, and it is empty
          by_cases hx : x = sep
          · rw [hx, split_cons_sep]
            simp [split_ne_nil]
          · obtain ⟨part, parts, _, hcons⟩ := exists_split_cons_ne hx a
            rw [hcons]
            simp
      | cons y b =>
          rw [split_cons_prefix_cons, ih, List.cons_append, List.cons_prefix_cons,
            List.cons.injEq, and_or_left, eq_comm]

/-- Trimming cuts a part off the front. -/
theorem trimEncodings_suffix (encs : List GoString) (fuel : Nat) (s : GoString) :
    trimEncodings encs fuel s <:+ s := by
  induction fuel generalizing s with
  | zero => exact List.suffix_refl s
  | succ fuel ih =>
      unfold trimEncodings
      split
      · exact (ih _).trans (List.drop_suffix _ _)
      · exact List.suffix_refl s

/-- Trimming stops at a byte that no encoding holds. -/
theorem mem_trimEncodings {encs : List GoString} {b : UInt8} (hb : ∀ e ∈ encs, b ∉ e) (fuel : Nat)
    {s : GoString} (hs : b ∈ s) : b ∈ trimEncodings encs fuel s := by
  induction fuel generalizing s with
  | zero => exact hs
  | succ fuel ih =>
      unfold trimEncodings
      split
      · rename_i e he
        -- the cut part is an encoding, so the byte stands behind it
        have hpre : e.isPrefixOf s = true := by simpa using List.find?_some he
        obtain ⟨rest, rfl⟩ := List.isPrefixOf_iff_prefix.mp hpre
        rw [List.drop_left]
        refine ih ((List.mem_append.mp hs).resolve_left ?_)
        exact hb e (List.mem_of_find?_eq_some he)
      · exact hs

/-- Trimming changes nothing when the first byte is part of no encoding. -/
theorem trimEncodings_of_head {encs : List GoString} (hne : [] ∉ encs) {s : GoString}
    (hs : ∀ b ∈ s.head?, ∀ e ∈ encs, b ∉ e) (fuel : Nat) : trimEncodings encs fuel s = s := by
  have hnone : encs.find? (fun e => e.isPrefixOf s) = none := by
    refine List.find?_eq_none.mpr ?_
    intro e he hpre
    cases e with
    | nil => exact hne he
    | cons x e =>
        obtain ⟨rest, rfl⟩ := List.isPrefixOf_iff_prefix.mp hpre
        exact hs x rfl _ he List.mem_cons_self
  cases fuel with
  | zero => rfl
  | succ fuel =>
      unfold trimEncodings
      rw [hnone]

/-- A byte that is part of no space character. -/
def Solid (b : UInt8) : Prop := ∀ e ∈ spaceEncodings, b ∉ e

instance (b : UInt8) : Decidable (Solid b) :=
  inferInstanceAs (Decidable (∀ e ∈ spaceEncodings, b ∉ e))

theorem solid_reverse {b : UInt8} (hb : Solid b) :
    ∀ e ∈ spaceEncodings.map List.reverse, b ∉ e := by
  intro e he hmem
  obtain ⟨e', he', rfl⟩ := List.mem_map.mp he
  exact hb e' he' (List.mem_reverse.mp hmem)

/-- In front of a solid byte nothing is cut, so only the end is trimmed. -/
theorem trimSpace_of_head {s : GoString} (hs : ∀ b ∈ s.head?, Solid b) :
    trimSpace s
      = (trimEncodings (spaceEncodings.map List.reverse) s.length s.reverse).reverse := by
  unfold trimSpace
  rw [trimEncodings_of_head (by decide) hs]

/-- A string of solid bytes is not trimmed. -/
theorem trimSpace_eq_self {s : GoString} (hs : ∀ b ∈ s, Solid b) : trimSpace s = s := by
  rw [trimSpace_of_head (fun b hb => hs b (List.mem_of_head? hb)),
    trimEncodings_of_head (by decide), List.reverse_reverse]
  intro b hb
  exact solid_reverse (hs b (List.mem_reverse.mp (List.mem_of_head? hb)))

/-- A string that starts with a solid byte still does when it is trimmed. -/
theorem trimSpace_cons {b : UInt8} (hb : Solid b) (s : GoString) :
    ∃ s', trimSpace (b :: s) = b :: s' := by
  rw [trimSpace_of_head (by intro c hc; cases hc; exact hb)]
  -- what is left after the cut at the end is a prefix that holds the first byte
  have hmem := mem_trimEncodings (solid_reverse hb) (b :: s).length
    (s := (b :: s).reverse) (by simp)
  have hpre := List.reverse_prefix.mpr
    (trimEncodings_suffix (spaceEncodings.map List.reverse) (b :: s).length (b :: s).reverse)
  rw [List.reverse_reverse] at hpre
  generalize trimEncodings (spaceEncodings.map List.reverse) (b :: s).length
    (b :: s).reverse = cut at hmem hpre ⊢
  cases hrev : cut.reverse with
  | nil =>
      rw [List.reverse_eq_nil_iff.mp hrev] at hmem
      exact absurd hmem List.not_mem_nil
  | cons x s' =>
      rw [hrev] at hpre
      exact ⟨s', by rw [(List.cons_prefix_cons.mp hpre).1]⟩

/-! ## §6. The bytes of a number. -/

/-- A decimal digit. -/
def isDecimal (b : UInt8) : Bool := 0x30 ≤ b && b ≤ 0x39

/-- An ASCII character is encoded as one byte. -/
theorem mem_lit_ofList {cs : List Char} (hcs : ∀ c ∈ cs, c.val.toNat ≤ 127) {b : UInt8}
    (hb : b ∈ lit (String.ofList cs)) : ∃ c ∈ cs, b = UInt8.ofNat c.val.toNat := by
  have hbytes : b ∈ cs.flatMap String.utf8EncodeChar := by
    simpa [lit, List.utf8Encode] using hb
  obtain ⟨c, hc, hmem⟩ := List.mem_flatMap.mp hbytes
  unfold String.utf8EncodeChar at hmem
  rw [if_pos (hcs c hc)] at hmem
  exact ⟨c, hc, List.mem_singleton.mp hmem⟩

/-- A natural number is printed with digits only. -/
theorem isDecimal_of_mem_itoa {n : Nat} {b : UInt8} (hb : b ∈ itoa n) : isDecimal b = true := by
  have hdigit : ∀ c ∈ Nat.toDigits 10 n, 48 ≤ c.val.toNat ∧ c.val.toNat ≤ 57 := by
    intro c hc
    have h := Nat.isDigit_of_mem_toDigits (by omega) (by omega) hc
    simp only [Char.isDigit, Bool.and_eq_true, decide_eq_true_eq, ge_iff_le,
      UInt32.le_iff_toNat_le] at h
    exact h
  obtain ⟨c, hc, rfl⟩ := mem_lit_ofList (fun c hc => by have := hdigit c hc; omega) hb
  have hc := hdigit c hc
  generalize c.val.toNat = code at hc
  have hcode : (UInt8.ofNat code).toNat = code := by
    rw [UInt8.toNat_ofNat']
    omega
  simp only [isDecimal, Bool.and_eq_true, decide_eq_true_eq, UInt8.le_iff_toNat_le, hcode]
  exact hc

/-! ## §7. UTF-8. -/

/-- The bytes that may follow a first byte, as ranges: the tables `first` and `acceptRanges` of
`unicode/utf8`. -/
def utf8Follow (b : UInt8) : Option (List (UInt8 × UInt8)) :=
  if b < 0x80 then some []
  else if b < 0xC2 then none
  else if b < 0xE0 then some [(0x80, 0xBF)]
  else if b = 0xE0 then some [(0xA0, 0xBF), (0x80, 0xBF)]
  -- no surrogate halves
  else if b = 0xED then some [(0x80, 0x9F), (0x80, 0xBF)]
  else if b < 0xF0 then some [(0x80, 0xBF), (0x80, 0xBF)]
  else if b = 0xF0 then some [(0x90, 0xBF), (0x80, 0xBF), (0x80, 0xBF)]
  else if b < 0xF4 then some [(0x80, 0xBF), (0x80, 0xBF), (0x80, 0xBF)]
  else if b = 0xF4 then some [(0x80, 0x8F), (0x80, 0xBF), (0x80, 0xBF)]
  else none

/-- The loop of `utf8.ValidString`, with the ranges of the bytes it still expects. -/
def validUtf8From : List (UInt8 × UInt8) → GoString → Bool
  | [], [] => true
  | _ :: _, [] => false
  | [], b :: rest =>
      match utf8Follow b with
      | none => false
      | some ranges => validUtf8From ranges rest
  | range :: ranges, b :: rest => range.1 ≤ b && b ≤ range.2 && validUtf8From ranges rest

/-- `utf8.ValidString`. -/
def validUtf8 (s : GoString) : Bool := validUtf8From [] s

/-- ASCII is UTF-8. -/
theorem validUtf8_of_ascii {s : GoString} (h : ∀ b ∈ s, b < 0x80) : validUtf8 s = true := by
  induction s with
  | nil => rfl
  | cons b rest ih =>
      have hfollow : utf8Follow b = some [] := if_pos (h b List.mem_cons_self)
      unfold validUtf8 validUtf8From
      rw [hfollow]
      exact ih fun c hc => h c (List.mem_cons_of_mem b hc)

example : validUtf8 (lit "ä.org") = true := by decide
example : validUtf8 [0xFF, 0x2E, 0x6F, 0x72, 0x67] = false := by decide

end SIngress.Base
