/-
  SIngress.Base.CookieText — COOKIE VALUES AS TEXT (`net/http/cookie.go`).

  `http.SetCookie` drops the bytes that may not stand in a cookie value and
  puts quotes around a value with a blank or a comma in it; reading a cookie
  takes the quotes off again.  `parse_sanitize`: what comes back is the value
  without the bytes that were dropped.
-/
import SIngress.Base.GoString

namespace SIngress.Base

/-- `validCookieValueByte`. -/
def validCookieValueByte (b : UInt8) : Bool :=
  0x20 ≤ b && b < 0x7F && b != 0x22 && b != 0x3B && b != 0x5C

/-- `sanitizeCookieValue`, of a cookie without `Quoted`. -/
def sanitizeCookieValue (v : GoString) : GoString :=
  let v := v.filter validCookieValueByte
  if v.any fun b => b == 0x20 || b == 0x2C then 0x22 :: (v ++ [0x22]) else v

/-- The value without the quotes around it. -/
def stripQuotes (raw : GoString) : GoString :=
  if 1 < raw.length ∧ raw.head? = some 0x22 ∧ raw.getLast? = some 0x22 then
    (raw.drop 1).dropLast
  else raw

/-- `parseCookieValue`, with quotes allowed. -/
def parseCookieValue (raw : GoString) : Option GoString :=
  let value := stripQuotes raw
  if value.all validCookieValueByte then some value else none

/-- **A cookie comes back without the bytes that may not stand in it.** -/
theorem parse_sanitize (v : GoString) :
    parseCookieValue (sanitizeCookieValue v) = some (v.filter validCookieValueByte) := by
  have hall : (v.filter validCookieValueByte).all validCookieValueByte = true :=
    List.all_eq_true.mpr fun b hb => (List.mem_filter.mp hb).2
  have hstrip : stripQuotes (sanitizeCookieValue v) = v.filter validCookieValueByte := by
    unfold sanitizeCookieValue stripQuotes
    dsimp only
    by_cases hquoted : (v.filter validCookieValueByte).any (fun b => b == 0x20 || b == 0x2C) = true
    · have hlast : (0x22 :: (v.filter validCookieValueByte ++ [0x22])).getLast? = some 0x22 := by
        rw [← List.cons_append, List.getLast?_append]
        rfl
      rw [if_pos hquoted, if_pos ⟨by simp, rfl, hlast⟩]
      simp
    · -- a value that is not quoted contains no quote to take off
      rw [if_neg hquoted]
      refine if_neg ?_
      rintro ⟨_, hhead, _⟩
      exact absurd (List.all_eq_true.mp hall _ (List.mem_of_head? hhead)) (by decide)
  unfold parseCookieValue
  dsimp only
  rw [hstrip, if_pos hall]

end SIngress.Base
