/-
  SIngress.Base.Http — THE DATA OF `net/http`: headers, URLs, cookies, requests.

  A header is a map from canonical keys to value lists; `get`, `set`, `add`,
  `del` and `values` canonicalize the key they are given, as `http.Header`
  does.  A request is what the server hands to `ServeHTTP`.
-/
import SIngress.Base.GoString
import SIngress.Lib.GoMap

namespace SIngress.Base

open SIngress.Lib

/-! ## §1. Header keys. -/

/-- A byte that may stand in a header field name. -/
def validHeaderFieldByte (b : UInt8) : Bool :=
  (0x30 ≤ b && b ≤ 0x39) || (0x41 ≤ b && b ≤ 0x5A) || (0x61 ≤ b && b ≤ 0x7A)
    || (lit "!#$%&'*+-.^_`|~").contains b

/-- Upper case at the start and after a hyphen, lower case elsewhere. -/
def canonicalBytes : Bool → GoString → GoString
  | _, [] => []
  | upper, b :: rest =>
      let c :=
        if upper && 0x61 ≤ b && b ≤ 0x7A then b - 0x20
        else if !upper && 0x41 ≤ b && b ≤ 0x5A then b + 0x20
        else b
      c :: canonicalBytes (c == 0x2D) rest

/-- `http.CanonicalHeaderKey`: a name with an invalid byte is left alone. -/
def canonicalHeaderKey (key : GoString) : GoString :=
  if key.all validHeaderFieldByte then canonicalBytes true key else key

/-! ## §2. Headers. -/

/-- `http.Header`. -/
abbrev Header := GoMap GoString (List GoString)

/-- `h.Values(key)`. -/
def Header.values (h : Header) (key : GoString) : List GoString :=
  (h.lookup (canonicalHeaderKey key)).getD []

/-- `h.Get(key)`: the first value, or the empty string. -/
def Header.get (h : Header) (key : GoString) : GoString :=
  (h.values key).headD []

/-- `h.Set(key, value)`. -/
def Header.set (h : Header) (key value : GoString) : Header :=
  h.insert (canonicalHeaderKey key) [value]

/-- `h.Add(key, value)`. -/
def Header.add (h : Header) (key value : GoString) : Header :=
  h.insert (canonicalHeaderKey key) (h.values key ++ [value])

/-- `h.Del(key)`. -/
def Header.del (h : Header) (key : GoString) : Header :=
  h.erase (canonicalHeaderKey key)

/-- Setting a header replaces its values and keeps the others. -/
theorem Header.values_set (h : Header) (key key' value : GoString) :
    (h.set key value).values key'
      = if canonicalHeaderKey key' = canonicalHeaderKey key then [value] else h.values key' := by
  unfold Header.values Header.set
  rw [GoMap.lookup_insert_eq]
  split <;> rfl

/-- Adding to a header keeps what it had, and the others. -/
theorem Header.values_add (h : Header) (key key' value : GoString) :
    (h.add key value).values key'
      = if canonicalHeaderKey key' = canonicalHeaderKey key then h.values key ++ [value]
        else h.values key' := by
  unfold Header.values Header.add
  rw [GoMap.lookup_insert_eq]
  split <;> rfl

/-! The cells of a header: what is stored under a key as it is spelled. -/


/-- The values stored under a key, with no canonical form applied. -/
def Header.cell (h : Header) (k : GoString) : List GoString := (h.lookup k).getD []

theorem Header.values_eq_cell (h : Header) (key : GoString) :
    h.values key = h.cell (canonicalHeaderKey key) := rfl

theorem Header.cell_set (h : Header) (key value k : GoString) :
    (h.set key value).cell k = if k = canonicalHeaderKey key then [value] else h.cell k := by
  unfold Header.cell Header.set
  rw [GoMap.lookup_insert_eq]
  split <;> rfl

theorem Header.cell_add (h : Header) (key value k : GoString) :
    (h.add key value).cell k
      = if k = canonicalHeaderKey key then h.cell k ++ [value] else h.cell k := by
  unfold Header.add
  rw [Header.values_eq_cell]
  unfold Header.cell
  rw [GoMap.lookup_insert_eq]
  by_cases hk : k = canonicalHeaderKey key
  · subst hk
    rw [if_pos rfl, if_pos rfl]
    rfl
  · rw [if_neg hk, if_neg hk]

theorem Header.cell_del (h : Header) (key k : GoString) :
    (h.del key).cell k = if k = canonicalHeaderKey key then [] else h.cell k := by
  unfold Header.cell Header.del
  rw [GoMap.lookup_erase_eq]
  split <;> rfl

/-- Adding values one by one appends them in order. -/
theorem Header.cell_foldl_add (key k : GoString) (values : List GoString) (h : Header) :
    Header.cell (values.foldl (fun h value => h.add key value) h) k
      = if k = canonicalHeaderKey key then h.cell k ++ values else h.cell k := by
  induction values generalizing h with
  | nil => simp
  | cons value values ih =>
      rw [List.foldl_cons, ih, Header.cell_add]
      by_cases hk : k = canonicalHeaderKey key
      · rw [if_pos hk, if_pos hk, if_pos hk, List.append_assoc, List.singleton_append]
      · rw [if_neg hk, if_neg hk, if_neg hk]

/-! ## §3. URLs, cookies, requests. -/

/-- The fields of `url.URL` the repository reads or writes. -/
structure URL where
  scheme : GoString
  host : GoString
  path : GoString
  rawPath : GoString
  rawQuery : GoString
  fragment : GoString
  deriving DecidableEq

/-- `http.Cookie`, with the fields the repository sets; `Path` is always `/`,
`HttpOnly` always set and `SameSite` always lax. -/
structure Cookie where
  name : GoString
  value : GoString
  maxAge : Int
  secure : Bool
  domain : GoString
  deriving DecidableEq

/-- `http.Request` on the server side; `tls` says whether `R.TLS` is set. -/
structure Request where
  method : GoString
  host : GoString
  url : URL
  header : Header
  tls : Bool
  remoteAddr : GoString
  contentLength : Int
  deriving DecidableEq

end SIngress.Base
