/-
  SIngress.Proxy.HostNames — ONE NAME IN SEVERAL SPELLINGS.

  A `Host` header may write a name in either case, with a port behind it and
  with the root's dot at its end; all of these name the same host.  The keys of
  the routing table are required in one basic form, and `handleHttp` brings the
  name of the request to ASCII but not to that form; the callback middleware
  compares the header as it came.

  * `handleHttp_eq`          — the routing decision is taken on the name alone.
  * `lookupHost_with_port`   — a long enough port hides every key.
  * `spellings_agree_iff`    — all spellings are treated alike exactly where no
                               name is treated apart from the others.
-/
import SIngress.Modules.OidcCallback
import SIngress.Proxy.HostTable
import SIngress.Proxy.Serve

namespace SIngress.Proxy

open SIngress.Base SIngress.Lib SIngress.Platform SIngress.Modules.Oidc

/-! ## §1. Spellings. -/

/-- Nothing, or a colon and digits. -/
def isPortSuffix : GoString → Bool
  | [] => true
  | b :: digits => b == byteColon && digits.all isDecimal

/-- Nothing, or the dot of the root. -/
def isRootSuffix (s : GoString) : Bool := s == [] || s == [byteDot]

/-- Two `Host` values that differ in the case of letters, in a port and in one trailing dot
only. -/
def SameName (host host' : GoString) : Prop :=
  ∃ name name' root root' port port', toLowerAscii name = toLowerAscii name'
    ∧ isRootSuffix root = true ∧ isRootSuffix root' = true
    ∧ isPortSuffix port = true ∧ isPortSuffix port' = true
    ∧ host = name ++ root ++ port ∧ host' = name' ++ root' ++ port'

/-- A name and the same name with a port. -/
theorem sameName_port (name : GoString) {port : GoString} (hport : isPortSuffix port = true) :
    SameName name (name ++ port) :=
  ⟨name, name, [], [], [], port, rfl, rfl, rfl, rfl, hport, by simp, by simp⟩

/-! ## §2. The decisions. -/

/-- What `handleHttp` makes of a name. -/
inductive HostDecision where
  /-- `invalid hostname`. -/
  | refused
  /-- `host not found`. -/
  | notFound
  | selected (host : HostConfig)

def hostDecision (ext : Ext) (rc : RoutingConfig) (host : GoString) : HostDecision :=
  match ext.idnaToASCII host with
  | .error _ => .refused
  | .ok escapedHost =>
      match rc.lookupHost escapedHost with
      | some hostConfig => .selected hostConfig
      | none => .notFound

/-- Only a name that cannot be brought to ASCII is refused. -/
theorem hostDecision_refused_iff {ext : Ext} {rc : RoutingConfig} {host : GoString} :
    hostDecision ext rc host = .refused ↔ ¬ (ext.idnaToASCII host).isOk = true := by
  unfold hostDecision
  cases ext.idnaToASCII host with
  | error err => exact ⟨fun _ h => Bool.noConfusion h, fun _ => rfl⟩
  | ok escapedHost =>
      dsimp only
      constructor
      · intro h
        split at h <;> cases h
      · intro h
        exact absurd rfl h

/-- **`handleHttp` decides by the name.** -/
theorem handleHttp_eq (ext : Ext) (out : Outcomes) (c : RequestContext) :
    handleHttp ext out c
      = match hostDecision ext c.routingConfig c.r.host with
        | .refused => badRequest ext out (lit "invalid hostname") c
        | .notFound => notFound ext out (lit "host not found") c
        | .selected host => handleHost ext out host c := by
  simp only [handleHttp, get_bind_run]
  unfold hostDecision
  cases ext.idnaToASCII c.r.host with
  | error err => rfl
  | ok escapedHost =>
      dsimp only
      cases c.routingConfig.lookupHost escapedHost with
      | none => rfl
      | some host => rfl

/-- Every two spellings of a name get the same routing decision and the same callback
decision. -/
def SpellingsAgree (ext : Ext) (rc : RoutingConfig) (callbackDomains : GoMap GoString ClientConfig) :
    Prop :=
  ∀ host host', SameName host host' →
    hostDecision ext rc host = hostDecision ext rc host'
      ∧ ∀ r : Request, callbackClient callbackDomains { r with host := host }
          = callbackClient callbackDomains { r with host := host' }

/-! ## §3. Names with a port. -/

def isAscii (s : GoString) : Bool := s.all fun b => b < 0x80

/-- `idna.Punycode.ToASCII` leaves ASCII names alone and answers in ASCII. -/
structure StandardIdna (ext : Ext) : Prop where
  unchanged : ∀ s, isAscii s = true → ext.idnaToASCII s = .ok s
  ascii : ∀ s t, ext.idnaToASCII s = .ok t → isAscii t = true

/-- The port `:0…0` with `n` digits. -/
def zeroPort (n : Nat) : GoString := byteColon :: List.replicate n 0x30

theorem zeroPort_isPortSuffix (n : Nat) : isPortSuffix (zeroPort n) = true := by
  show (byteColon == byteColon && (List.replicate n 0x30).all isDecimal) = true
  rw [List.all_replicate]
  split <;> rfl

theorem zeroPort_ascii (n : Nat) : isAscii (zeroPort n) = true := by
  unfold zeroPort isAscii
  rw [List.all_cons, List.all_replicate]
  split <;> rfl

theorem isAscii_append {a b : GoString} (ha : isAscii a = true) (hb : isAscii b = true) :
    isAscii (a ++ b) = true := by
  unfold isAscii at *
  rw [List.all_append, ha, hb]
  rfl

theorem dot_not_mem_zeroPort (n : Nat) : byteDot ∉ zeroPort n := by
  intro hmem
  obtain h | h := List.mem_cons.mp hmem
  · exact absurd h (by decide)
  · exact absurd (List.eq_of_mem_replicate h) (by decide)

/-- **Behind a port longer than every key only the default host is found.** -/
theorem lookupHost_with_port {rc : RoutingConfig} {n : Nat}
    (hn : ∀ k hc, rc.hosts.lookup k = some hc → k.length < n) (name : GoString) :
    rc.lookupHost (name ++ zeroPort n) = rc.hosts.lookup [] := by
  have hlong : ∀ a : GoString, rc.hosts.lookup (a ++ zeroPort n) = none := by
    intro a
    by_contra hne
    obtain ⟨hc, hlook⟩ := Option.ne_none_iff_exists'.mp hne
    have hlen := hn _ hc hlook
    rw [List.length_append, zeroPort, List.length_cons, List.length_replicate] at hlen
    omega
  rcases first_dot name with hdot | ⟨l, r, hl, rfl⟩
  · have hdot' : byteDot ∉ name ++ zeroPort n := fun hmem =>
      (List.mem_append.mp hmem).elim hdot (dot_not_mem_zeroPort n)
    rw [lookupHost_dotless rc hdot', hlong]
    rfl
  · have hwhole := hlong (l ++ byteDot :: r)
    have hcut := hlong (byteDot :: r)
    rw [List.append_assoc, List.cons_append] at hwhole ⊢
    rw [List.cons_append] at hcut
    rw [lookupHost_append rc hl, hwhole, hcut]
    rfl

/-! ## §4. All spellings alike. -/

section

variable {ext : Ext} {rc : RoutingConfig} {callbackDomains : GoMap GoString ClientConfig}

/-- Every name a request can reach has the configuration of the default host. -/
def OneHost (rc : RoutingConfig) : Prop :=
  ∀ k hc, isAscii k = true → rc.hosts.lookup k = some hc → rc.hosts.lookup [] = some hc

/-- Then every lookup gives that configuration. -/
theorem OneHost.lookupHost (h : OneHost rc) {name : GoString} (hname : isAscii name = true) :
    rc.lookupHost name = rc.hosts.lookup [] := by
  have hor : ∀ k, isAscii k = true →
      (rc.hosts.lookup k).or (rc.hosts.lookup []) = rc.hosts.lookup [] := by
    intro k hk
    cases hlook : rc.hosts.lookup k with
    | none => rfl
    | some hc => exact (h k hc hk hlook).symm
  rcases first_dot name with hdot | ⟨l, r, hl, rfl⟩
  · rw [lookupHost_dotless rc hdot, hor _ hname]
  · have hcut : isAscii (byteDot :: r) = true := by
      unfold isAscii at hname ⊢
      rw [List.all_append, Bool.and_eq_true] at hname
      exact hname.2
    rw [lookupHost_append rc hl, Option.or_assoc, hor _ hcut, hor _ hname]

/-- And every name that is not refused the same decision. -/
theorem OneHost.hostDecision (h : OneHost rc) (hidna : StandardIdna ext) (host : GoString) :
    hostDecision ext rc host
      = if (ext.idnaToASCII host).isOk = true then
          match rc.hosts.lookup [] with
          | some hostConfig => .selected hostConfig
          | none => .notFound
        else .refused := by
  unfold Proxy.hostDecision
  cases hhost : ext.idnaToASCII host with
  | error err => rfl
  | ok escapedHost =>
      dsimp only
      rw [h.lookupHost (hidna.ascii host escapedHost hhost)]
      rfl

/-- A key that is treated apart from the default host is lost behind a port. -/
theorem SpellingsAgree.oneHost (hidna : StandardIdna ext)
    (h : SpellingsAgree ext rc callbackDomains) : OneHost rc := by
  intro k hc hk hlook
  obtain ⟨n, hn⟩ := GoMap.exists_bound rc.hosts List.length
  have hagree := (h k _ (sameName_port k (zeroPort_isPortSuffix n))).1
  have hexact : rc.lookupHost k = some hc := by
    unfold RoutingConfig.lookupHost
    rw [hlook]
  unfold hostDecision at hagree
  rw [hidna.unchanged k hk, hidna.unchanged _ (isAscii_append hk (zeroPort_ascii n))] at hagree
  dsimp only at hagree
  rw [hexact, lookupHost_with_port hn] at hagree
  cases hdefault : rc.hosts.lookup [] with
  | none =>
      rw [hdefault] at hagree
      cases hagree
  | some hc' =>
      rw [hdefault] at hagree
      cases hagree
      rfl

/-- A request to the redirect URL of a client is not taken for one once it carries a port. -/
theorem SpellingsAgree.noCallbacks (h : SpellingsAgree ext rc callbackDomains) :
    callbackDomains = ∅ := by
  apply Finmap.ext_lookup
  intro domain
  rw [Finmap.lookup_empty]
  obtain ⟨n, hn⟩ := GoMap.exists_bound callbackDomains List.length
  have hagree := (h domain _ (sameName_port domain (zeroPort_isPortSuffix n))).2
    (callbackRequest domain)
  unfold callbackClient at hagree
  rw [if_pos ⟨rfl, rfl⟩, if_pos ⟨rfl, rfl⟩] at hagree
  dsimp only at hagree
  rw [hagree]
  by_contra hne
  obtain ⟨client, hlook⟩ := Option.ne_none_iff_exists'.mp hne
  have hlen := hn _ client hlook
  rw [List.length_append, zeroPort, List.length_cons, List.length_replicate] at hlen
  omega

/-- **All spellings of a name are treated alike exactly where names make no difference**: every
name has the default host's configuration, no client has a callback domain, and
`idna.Punycode.ToASCII` refuses all spellings of a name or none. -/
theorem spellings_agree_iff (hidna : StandardIdna ext) :
    SpellingsAgree ext rc callbackDomains ↔
      OneHost rc ∧ callbackDomains = ∅
        ∧ ∀ host host', SameName host host' →
            (ext.idnaToASCII host).isOk = (ext.idnaToASCII host').isOk := by
  constructor
  · intro h
    refine ⟨h.oneHost hidna, h.noCallbacks, ?_⟩
    intro host host' hsame
    have hrefused : hostDecision ext rc host = .refused ↔ hostDecision ext rc host' = .refused := by
      rw [(h host host' hsame).1]
    rw [hostDecision_refused_iff, hostDecision_refused_iff] at hrefused
    exact Bool.eq_iff_iff.mpr (not_iff_not.mp hrefused)
  · rintro ⟨hone, rfl, hrefuse⟩ host host' hsame
    constructor
    · rw [hone.hostDecision hidna, hone.hostDecision hidna, hrefuse host host' hsame]
    · intro r
      unfold callbackClient
      rw [Finmap.lookup_empty, Finmap.lookup_empty]

end

/-- Names as `idna.Punycode.ToASCII` treats them on ASCII; of a name with other bytes only the
basic ones are written out. -/
def Ext.punycode : Ext :=
  { Ext.small with
    idnaToASCII := fun s =>
      .ok (if isAscii s = true then s else lit "xn--" ++ s.filter fun b => b < 0x80) }

theorem punycode_standard : StandardIdna Ext.punycode where
  unchanged s hs := congrArg Except.ok (if_pos hs)
  ascii s t hst := by
    cases hst
    by_cases hs : isAscii s = true
    · rw [if_pos hs]
      exact hs
    · rw [if_neg hs]
      refine isAscii_append (by decide) (List.all_eq_true.mpr ?_)
      intro b hb
      exact (List.mem_filter.mp hb).2

/-- A table with one host. -/
def singleHost (key : GoString) : RoutingConfig :=
  { emptyTable with hosts := (∅ : GoMap GoString HostConfig).insert key ⟨[]⟩ }

/-- A proxy with a default host only treats all spellings alike. -/
theorem spellings_agree_default : SpellingsAgree Ext.punycode (singleHost []) ∅ := by
  refine (spellings_agree_iff punycode_standard).mpr ⟨?_, rfl, ?_⟩
  · intro k hc _ hlook
    unfold singleHost at hlook ⊢
    rw [GoMap.lookup_insert_eq] at hlook
    by_cases hk : k = []
    · rw [if_pos hk] at hlook
      exact hlook
    · rw [if_neg hk, Finmap.lookup_empty] at hlook
      cases hlook
  · intro host host' _
    rfl

/-- The one spelling of a name is served, the other one is not found; and of two callbacks that
differ in the same way only one is completed. -/
def ToldApart (host host' : GoString) : Prop :=
  SameName host host'
    ∧ hostDecision Ext.punycode (singleHost host) host = .selected ⟨[]⟩
    ∧ hostDecision Ext.punycode (singleHost host) host' = .notFound
    ∧ callbackClient ((∅ : GoMap GoString ClientConfig).insert host
          (describedClient host (lit "a") (lit "a-secret"))) (callbackRequest host) ≠ none
    ∧ callbackClient ((∅ : GoMap GoString ClientConfig).insert host
          (describedClient host (lit "a") (lit "a-secret"))) (callbackRequest host') = none

/-- **`a.org` is served, `A.ORG`, `a.org:443` and `a.org.` are not.** -/
theorem spellings_told_apart : ToldApart (lit "a.org") (lit "A.ORG")
    ∧ ToldApart (lit "a.org") (lit "a.org:443") ∧ ToldApart (lit "a.org") (lit "a.org.") := by
  refine ⟨⟨?_, rfl, rfl, nofun, rfl⟩, ⟨?_, rfl, rfl, nofun, rfl⟩, ⟨?_, rfl, rfl, nofun, rfl⟩⟩
  · exact ⟨lit "a.org", lit "A.ORG", [], [], [], [], rfl, rfl, rfl, rfl, rfl, rfl, rfl⟩
  · exact sameName_port (lit "a.org") rfl
  · exact ⟨lit "a.org", lit "a.org", [], [byteDot], [], [], rfl, rfl, rfl, rfl, rfl, rfl, rfl⟩

end SIngress.Proxy
