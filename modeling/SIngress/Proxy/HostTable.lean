/-
  SIngress.Proxy.HostTable — WHICH HOST SERVES A NAME.

  Exact, wildcard and default hosts share one map.  `normalizeHost` keeps
  their keys apart: a wildcard host loses its asterisk and starts with a dot,
  and no other accepted host starts with one (`key_of_normalizeHost`).  So the
  map holds, for every host, what the last successful `addHost` for it wrote,
  and a lookup can be read off the calls:

    • `normalizeHost_injective`  — different hosts have different keys,
    • `lookupHost_addHosts`      — the exact host, else the wildcard of what
      follows the first dot, else the default host,
    • `lookupHost_addHosts_spec` — the same name by name; and a wildcard
      reaches neither its apex nor a deeper subdomain.
-/
import Mathlib.Data.List.TakeWhile
import SIngress.Lib.GoMap
import SIngress.Lib.Latest
import SIngress.Proxy.RouteLookup

namespace SIngress.Proxy

open SIngress.Base SIngress.Lib

/-! ## §1. Hosts and their keys. -/

/-- A host of fewer than two parts holds no dot. -/
theorem length_split_lt_two {host : GoString} (hlen : (split host byteDot).length < 2) :
    byteDot ∉ host := by
  intro hmem
  obtain ⟨a, b, rfl⟩ := List.append_of_mem hmem
  rw [split_append_sep, List.length_append] at hlen
  have ha := List.length_pos_iff.mpr (split_ne_nil a byteDot)
  have hb := List.length_pos_iff.mpr (split_ne_nil b byteDot)
  omega

/-- A first part `*` with more behind it is the start of a wildcard host. -/
theorem wildcard_of_head {host : GoString} (hlen : ¬ (split host byteDot).length < 2)
    (hhead : (split host byteDot).head? = some [byteAsterisk]) :
    ∃ d, host = byteAsterisk :: byteDot :: d := by
  have htake : host.takeWhile (· != byteDot) = [byteAsterisk] := by
    rw [← headD_split, List.headD_eq_head?_getD, hhead]
    rfl
  cases hdrop : host.dropWhile (· != byteDot) with
  | nil =>
      -- then the whole host would be `*`
      have hhost : host = [byteAsterisk] := by
        rw [← @List.takeWhile_append_dropWhile _ (· != byteDot) host, htake, hdrop]
        rfl
      rw [hhost] at hlen
      exact absurd (by decide) hlen
  | cons b d =>
      have hb : b = byteDot := by
        have := List.head?_dropWhile_not (· != byteDot) host
        rw [hdrop] at this
        simpa using this
      refine ⟨d, ?_⟩
      rw [← @List.takeWhile_append_dropWhile _ (· != byteDot) host, htake, hdrop, hb]
      rfl

/-- **The two kinds of keys.**  An accepted host is a wildcard `*.d` with the key `.d`, or its
own key; and then it is no wildcard and does not start with a dot. -/
theorem key_of_normalizeHost {host key : GoString} (h : normalizeHost host = .ok key) :
    (∃ d, host = byteAsterisk :: byteDot :: d ∧ key = byteDot :: d)
      ∨ key = host ∧ host.head? ≠ some byteDot ∧ ∀ d, host ≠ byteAsterisk :: byteDot :: d := by
  unfold normalizeHost at h
  dsimp only at h
  by_cases hlen : (split host byteDot).length < 2
  · rw [if_pos hlen] at h
    have hdot := length_split_lt_two hlen
    refine Or.inr ⟨(Except.ok.inj h).symm, ?_, ?_⟩
    · intro hhead
      exact hdot (List.mem_of_head? hhead)
    · intro d hd
      rw [hd] at hdot
      simp at hdot
  · rw [if_neg hlen] at h
    by_cases hempty : (split host byteDot).any (fun part => part.length < 1) = true
    · rw [if_pos hempty] at h
      cases h
    · rw [if_neg hempty] at h
      by_cases hhead : (split host byteDot).head? = some [byteAsterisk]
      · rw [if_pos hhead] at h
        obtain ⟨d, rfl⟩ := wildcard_of_head hlen hhead
        exact Or.inl ⟨d, rfl, (Except.ok.inj h).symm⟩
      · rw [if_neg hhead] at h
        refine Or.inr ⟨(Except.ok.inj h).symm, ?_, ?_⟩
        · -- a leading dot has an empty part in front of it
          intro hdot
          cases host with
          | nil => cases hdot
          | cons b host =>
              rw [List.head?_cons, Option.some.injEq] at hdot
              rw [hdot, split_cons_sep] at hempty
              simp at hempty
        · intro d hd
          rw [hd, split_cons_ne (by decide), split_cons_sep] at hhead
          exact hhead rfl

/-- **Different hosts have different keys.** -/
theorem normalizeHost_injective {a b key : GoString} (ha : normalizeHost a = .ok key)
    (hb : normalizeHost b = .ok key) : a = b := by
  rcases key_of_normalizeHost ha with ⟨d, rfl, rfl⟩ | ⟨rfl, hdot, _⟩
  · rcases key_of_normalizeHost hb with ⟨d', rfl, hkey⟩ | ⟨rfl, hdot, _⟩
    · rw [(List.cons.inj hkey).2]
    · exact absurd rfl hdot
  · rcases key_of_normalizeHost hb with ⟨d', rfl, rfl⟩ | ⟨hkey, _, _⟩
    · exact absurd rfl hdot
    · exact hkey

/-! ## §2. The map of a sequence of calls. -/

/-- One `AddHost` call whose error is not looked at. -/
def RoutingConfig.addHostCall (rc : RoutingConfig) (call : GoString × HostConfig) :
    RoutingConfig :=
  match rc.addHost call.1 call.2 with
  | .ok rc' => rc'
  | .error _ => rc

/-- The table a sequence of `AddHost` calls builds from an empty one. -/
def RoutingConfig.addHosts (rc : RoutingConfig) (calls : List (GoString × HostConfig)) :
    RoutingConfig :=
  calls.foldl RoutingConfig.addHostCall { rc with hosts := ∅ }

/-- A table with nothing in it. -/
def emptyTable : RoutingConfig where
  hosts := ∅
  tlsCertificates := ∅
  defaultTlsCertificate := none
  tcpProxy := []
  requestMiddlewares := []
  trustedProxies := []
  errorPage := none

/-- The configuration of the last successful `AddHost` for the host. -/
def lastAdded (calls : List (GoString × HostConfig)) (host : GoString) : Option HostConfig :=
  (latest (fun call => decide (call.1 = host) && (normalizeHost call.1).isOk) calls).map Prod.snd

/-- A call writes its key, or fails and writes nothing. -/
theorem lookup_addHostCall (rc : RoutingConfig) (call : GoString × HostConfig) (key : GoString) :
    (rc.addHostCall call).hosts.lookup key
      = if (normalizeHost call.1).toOption = some key then some call.2 else rc.hosts.lookup key := by
  unfold RoutingConfig.addHostCall RoutingConfig.addHost
  cases hn : normalizeHost call.1 with
  | error e =>
      show rc.hosts.lookup key = _
      rw [if_neg (by simp [Except.toOption])]
  | ok written =>
      show (rc.hosts.insert written call.2).lookup key = _
      rw [GoMap.lookup_insert_eq]
      simp only [Except.toOption, Option.some.injEq, eq_comm]

/-- **The map holds what was written last under each key.** -/
theorem lookup_addHosts (rc : RoutingConfig) (calls : List (GoString × HostConfig))
    (key : GoString) :
    (rc.addHosts calls).hosts.lookup key
      = (latest (fun call => decide ((normalizeHost call.1).toOption = some key)) calls).map
          Prod.snd := by
  induction calls using List.reverseRecOn with
  | nil => exact Finmap.lookup_empty key
  | append_singleton calls call ih =>
      unfold RoutingConfig.addHosts at ih ⊢
      rw [List.foldl_append, List.foldl_cons, List.foldl_nil, lookup_addHostCall, ih, latest_concat]
      simp only [decide_eq_true_eq]
      split_ifs
      · rfl
      · rfl

/-- The entry under the key of a host is the last one added for the host. -/
theorem lookup_addHosts_of_key (rc : RoutingConfig) (calls : List (GoString × HostConfig))
    {host key : GoString}
    (hkey : ∀ x, normalizeHost x = .ok key ↔ x = host ∧ (normalizeHost x).isOk = true) :
    (rc.addHosts calls).hosts.lookup key = lastAdded calls host := by
  rw [lookup_addHosts, lastAdded, latest_congr]
  intro call _
  have hok : (normalizeHost call.1).toOption = some key ↔ normalizeHost call.1 = .ok key := by
    cases normalizeHost call.1 with
    | error e => simp [Except.toOption]
    | ok k => simp [Except.toOption]
  rw [decide_eq_true_eq, hok, hkey, Bool.and_eq_true, decide_eq_true_eq]

theorem exists_key {host : GoString} (h : (normalizeHost host).isOk = true) :
    ∃ key, normalizeHost host = .ok key := by
  cases hn : normalizeHost host with
  | ok key => exact ⟨key, rfl⟩
  | error e =>
      rw [hn] at h
      cases h

/-- Under a dotted key stands the wildcard host. -/
theorem lookup_addHosts_wildcard (rc : RoutingConfig) (calls : List (GoString × HostConfig))
    (d : GoString) :
    (rc.addHosts calls).hosts.lookup (byteDot :: d) = lastAdded calls (lit "*." ++ d) := by
  refine lookup_addHosts_of_key rc calls fun x => ?_
  show _ ↔ x = byteAsterisk :: byteDot :: d ∧ _
  constructor
  · intro hx
    refine ⟨?_, by rw [hx]; rfl⟩
    rcases key_of_normalizeHost hx with ⟨d', rfl, hd⟩ | ⟨rfl, hdot, _⟩
    · rw [(List.cons.inj hd).2]
    · exact absurd rfl hdot
  · rintro ⟨rfl, hok⟩
    obtain ⟨key, hkey⟩ := exists_key hok
    rcases key_of_normalizeHost hkey with ⟨d', hd, rfl⟩ | ⟨_, _, hwild⟩
    · rw [hkey, (List.cons.inj (List.cons.inj hd).2).2]
    · exact absurd rfl (hwild d)

/-- Under any other key stands the host that is spelled like it. -/
theorem lookup_addHosts_exact (rc : RoutingConfig) (calls : List (GoString × HostConfig))
    {h : GoString} (hdot : h.head? ≠ some byteDot) (hwild : ∀ d, h ≠ byteAsterisk :: byteDot :: d) :
    (rc.addHosts calls).hosts.lookup h = lastAdded calls h := by
  refine lookup_addHosts_of_key rc calls fun x => ?_
  constructor
  · intro hx
    refine ⟨?_, by rw [hx]; rfl⟩
    rcases key_of_normalizeHost hx with ⟨d, rfl, rfl⟩ | ⟨hkey, _⟩
    · exact absurd rfl hdot
    · exact hkey.symm
  · rintro ⟨rfl, hok⟩
    obtain ⟨key, hkey⟩ := exists_key hok
    rcases key_of_normalizeHost hkey with ⟨d, hd, _⟩ | ⟨rfl, _⟩
    · exact absurd hd (hwild d)
    · exact hkey

/-- No key keeps its asterisk. -/
theorem lookup_addHosts_asterisk (rc : RoutingConfig) (calls : List (GoString × HostConfig))
    (d : GoString) :
    (rc.addHosts calls).hosts.lookup (byteAsterisk :: byteDot :: d) = none := by
  rw [lookup_addHosts, Option.map_eq_none_iff, latest_eq_none_iff]
  intro call _ hkey
  rw [decide_eq_true_eq] at hkey
  cases hn : normalizeHost call.1 with
  | error e =>
      rw [hn] at hkey
      cases hkey
  | ok key =>
      rw [hn] at hkey
      obtain rfl : key = byteAsterisk :: byteDot :: d := Option.some.inj hkey
      rcases key_of_normalizeHost hn with ⟨d', _, hd⟩ | ⟨hhost, _, hwild⟩
      · exact absurd (List.cons.inj hd).1 (by decide)
      · exact hwild d hhost.symm

/-- A host that starts with a dot is never added. -/
theorem lastAdded_dot (calls : List (GoString × HostConfig)) (d : GoString) :
    lastAdded calls (byteDot :: d) = none := by
  unfold lastAdded
  rw [Option.map_eq_none_iff, latest_eq_none_iff]
  intro call _ hcall
  rw [Bool.and_eq_true, decide_eq_true_eq] at hcall
  obtain ⟨key, hkey⟩ := exists_key hcall.2
  rw [hcall.1] at hkey
  rcases key_of_normalizeHost hkey with ⟨d', hd, _⟩ | ⟨_, hdot, _⟩
  · exact absurd (List.cons.inj hd).1 (by decide)
  · exact hdot rfl

/-! ## §3. Lookups. -/

/-- What follows the first dot of a name. -/
def afterFirstDot (h : GoString) : Option GoString :=
  match h.dropWhile (· != byteDot) with
  | [] => none
  | _ :: rest => some rest

theorem dropWhile_dotless {h : GoString} (hdot : byteDot ∉ h) :
    h.dropWhile (· != byteDot) = [] := by
  rw [List.dropWhile_eq_nil_iff]
  intro b hb
  exact bne_iff_ne.mpr fun heq => hdot (heq ▸ hb)

theorem afterFirstDot_of_not_mem {h : GoString} (hdot : byteDot ∉ h) : afterFirstDot h = none := by
  unfold afterFirstDot
  rw [dropWhile_dotless hdot]

theorem dropWhile_append_dot {l : GoString} (hl : byteDot ∉ l) (r : GoString) :
    (l ++ byteDot :: r).dropWhile (· != byteDot) = byteDot :: r := by
  rw [List.dropWhile_append_of_pos]
  · rfl
  · intro b hb
    exact bne_iff_ne.mpr fun heq => hl (heq ▸ hb)

theorem afterFirstDot_append {l : GoString} (hl : byteDot ∉ l) (r : GoString) :
    afterFirstDot (l ++ byteDot :: r) = some r := by
  unfold afterFirstDot
  rw [dropWhile_append_dot hl]

/-- A name is dotless, or splits at its first dot. -/
theorem first_dot (h : GoString) :
    byteDot ∉ h ∨ ∃ l r, byteDot ∉ l ∧ h = l ++ byteDot :: r := by
  by_cases hdot : byteDot ∈ h
  · obtain ⟨l, r, hsplit, hl⟩ := List.eq_append_cons_of_mem hdot
    exact Or.inr ⟨l, r, hl, hsplit⟩
  · exact Or.inl hdot

/-- `lookupHost` on a name with a dot. -/
theorem lookupHost_append (rc : RoutingConfig) {l : GoString} (hl : byteDot ∉ l) (r : GoString) :
    rc.lookupHost (l ++ byteDot :: r)
      = ((rc.hosts.lookup (l ++ byteDot :: r)).or (rc.hosts.lookup (byteDot :: r))).or
          (rc.hosts.lookup []) := by
  unfold RoutingConfig.lookupHost
  rw [dropWhile_append_dot hl]
  cases rc.hosts.lookup (l ++ byteDot :: r) with
  | some host => rfl
  | none =>
      dsimp only
      cases rc.hosts.lookup (byteDot :: r) with
      | some host => rfl
      | none => rfl

/-- `lookupHost` on a name without one. -/
theorem lookupHost_dotless (rc : RoutingConfig) {h : GoString} (hdot : byteDot ∉ h) :
    rc.lookupHost h = (rc.hosts.lookup h).or (rc.hosts.lookup []) := by
  unfold RoutingConfig.lookupHost
  rw [dropWhile_dotless hdot]
  cases rc.hosts.lookup h with
  | some host => rfl
  | none => rfl

theorem lookupHost_addHosts_append (rc : RoutingConfig) (calls : List (GoString × HostConfig))
    {l : GoString} (hl : byteDot ∉ l) (r : GoString) :
    (rc.addHosts calls).lookupHost (l ++ byteDot :: r)
      = ((lastAdded calls (l ++ byteDot :: r)).or (lastAdded calls (lit "*." ++ r))).or
          (lastAdded calls []) := by
  rw [lookupHost_append _ hl, lookup_addHosts_wildcard,
    lookup_addHosts_exact rc calls (h := []) (by simp) (by simp)]
  by_cases hnil : l = []
  · -- the key of the wildcard itself
    rw [hnil, List.nil_append, lookup_addHosts_wildcard, lastAdded_dot]
    simp
  · by_cases hwild : l = [byteAsterisk]
    · -- the wildcard as it is declared
      rw [hwild, List.singleton_append, lookup_addHosts_asterisk]
      show _ = ((lastAdded calls (lit "*." ++ r)).or _).or _
      simp
    · rw [lookup_addHosts_exact rc calls]
      · intro hhead
        rw [List.head?_append_of_ne_nil _ hnil] at hhead
        exact hl (List.mem_of_head? hhead)
      · intro d hd
        have hasterisk : byteDot ∉ [byteAsterisk] := by decide
        exact hwild (append_sep_inj hl hasterisk hd).1

theorem lookupHost_addHosts_dotless (rc : RoutingConfig) (calls : List (GoString × HostConfig))
    {h : GoString} (hdot : byteDot ∉ h) :
    (rc.addHosts calls).lookupHost h = (lastAdded calls h).or (lastAdded calls []) := by
  rw [lookupHost_dotless _ hdot, lookup_addHosts_exact rc calls (h := []) (by simp) (by simp),
    lookup_addHosts_exact rc calls]
  · intro hhead
    exact hdot (List.mem_of_head? hhead)
  · intro d hd
    rw [hd] at hdot
    simp at hdot

/-- **A lookup, read off the calls**: the exact host, else the wildcard of what follows the
first dot, else the default. -/
theorem lookupHost_addHosts (rc : RoutingConfig) (calls : List (GoString × HostConfig))
    (h : GoString) :
    (rc.addHosts calls).lookupHost h
      = ((lastAdded calls h).or
          ((afterFirstDot h).bind fun r => lastAdded calls (lit "*." ++ r))).or
            (lastAdded calls []) := by
  rcases first_dot h with hdot | ⟨l, r, hl, rfl⟩
  · rw [lookupHost_addHosts_dotless rc calls hdot, afterFirstDot_of_not_mem hdot]
    simp
  · rw [lookupHost_addHosts_append rc calls hl, afterFirstDot_append hl]
    rfl

/-- A call for another host changes nothing about a host. -/
theorem lastAdded_concat_of_ne {calls : List (GoString × HostConfig)} {host h : GoString}
    (hne : host ≠ h) (config : HostConfig) :
    lastAdded (calls ++ [(host, config)]) h = lastAdded calls h := by
  unfold lastAdded
  rw [latest_concat, if_neg]
  simp [hne]

/-- What follows the first dot is shorter than the name. -/
theorem length_afterFirstDot {h r : GoString} (hr : afterFirstDot h = some r) :
    r.length < h.length := by
  rcases first_dot h with hdot | ⟨l, r', hl, rfl⟩
  · rw [afterFirstDot_of_not_mem hdot] at hr
    cases hr
  · rw [afterFirstDot_append hl] at hr
    cases hr
    rw [List.length_append, List.length_cons]
    omega

/-- **A wildcard serves only the names with one label in front of it**: a name that is not
spelled like it, and does not go on with its domain behind the first dot, is looked up as if
the wildcard had not been added. -/
theorem lookupHost_concat_wildcard (rc : RoutingConfig) (calls : List (GoString × HostConfig))
    (config : HostConfig) {d h : GoString} (hne : h ≠ lit "*." ++ d)
    (hafter : afterFirstDot h ≠ some d) :
    (rc.addHosts (calls ++ [(lit "*." ++ d, config)])).lookupHost h
      = (rc.addHosts calls).lookupHost h := by
  rw [lookupHost_addHosts, lookupHost_addHosts, lastAdded_concat_of_ne (Ne.symm hne),
    lastAdded_concat_of_ne (by simp [show lit "*." ++ d = byteAsterisk :: byteDot :: d from rfl])]
  congr 2
  cases hr : afterFirstDot h with
  | none => rfl
  | some r =>
      show lastAdded _ (lit "*." ++ r) = lastAdded _ (lit "*." ++ r)
      refine lastAdded_concat_of_ne ?_ config
      intro heq
      rw [hr] at hafter
      exact hafter (congrArg some (List.append_cancel_left heq).symm)

/-- A wildcard does not serve its apex. -/
theorem lookupHost_wildcard_apex (rc : RoutingConfig) (calls : List (GoString × HostConfig))
    (d : GoString) (config : HostConfig) :
    (rc.addHosts (calls ++ [(lit "*." ++ d, config)])).lookupHost d
      = (rc.addHosts calls).lookupHost d := by
  refine lookupHost_concat_wildcard rc calls config ?_ ?_
  · -- the apex is shorter than the wildcard
    intro heq
    have hlen := congrArg List.length heq
    simp only [show lit "*." ++ d = byteAsterisk :: byteDot :: d from rfl, List.length_cons] at hlen
    omega
  · intro hafter
    exact absurd (length_afterFirstDot hafter) (lt_irrefl _)

/-- A wildcard does not serve names with two labels or more before its apex. -/
theorem lookupHost_wildcard_deeper (rc : RoutingConfig) (calls : List (GoString × HostConfig))
    (l m d : GoString) (config : HostConfig) :
    (rc.addHosts (calls ++ [(lit "*." ++ d, config)])).lookupHost
        (l ++ byteDot :: (m ++ byteDot :: d))
      = (rc.addHosts calls).lookupHost (l ++ byteDot :: (m ++ byteDot :: d)) := by
  refine lookupHost_concat_wildcard rc calls config ?_ ?_
  · intro heq
    cases l with
    | nil => exact absurd (List.cons.inj heq).1 (by decide)
    | cons b l =>
        have hlen := congrArg List.length heq
        simp [show lit "*." ++ d = byteAsterisk :: byteDot :: d from rfl] at hlen
        omega
  · -- behind the first dot there is still one more
    intro hafter
    rcases first_dot l with hl | ⟨l₁, l₂, hl₁, rfl⟩
    · rw [afterFirstDot_append hl] at hafter
      have hlen := congrArg List.length (Option.some.inj hafter)
      rw [List.length_append, List.length_cons] at hlen
      omega
    · rw [List.append_assoc, List.cons_append, afterFirstDot_append hl₁] at hafter
      have hlen := congrArg List.length (Option.some.inj hafter)
      simp at hlen
      omega

/-- **Which host serves a name**, after any sequence of `AddHost` calls. -/
theorem lookupHost_addHosts_spec (rc : RoutingConfig) (calls : List (GoString × HostConfig)) :
    (∀ l r, byteDot ∉ l → (rc.addHosts calls).lookupHost (l ++ byteDot :: r)
        = ((lastAdded calls (l ++ byteDot :: r)).or (lastAdded calls (lit "*." ++ r))).or
            (lastAdded calls []))
      ∧ (∀ h, byteDot ∉ h →
          (rc.addHosts calls).lookupHost h = (lastAdded calls h).or (lastAdded calls []))
      ∧ (∀ a b key, normalizeHost a = .ok key → normalizeHost b = .ok key → a = b)
      ∧ ∀ d config,
          (rc.addHosts (calls ++ [(lit "*." ++ d, config)])).lookupHost d
              = (rc.addHosts calls).lookupHost d
            ∧ ∀ l m, (rc.addHosts (calls ++ [(lit "*." ++ d, config)])).lookupHost
                (l ++ byteDot :: (m ++ byteDot :: d))
              = (rc.addHosts calls).lookupHost (l ++ byteDot :: (m ++ byteDot :: d)) := by
  refine ⟨fun l r hl => lookupHost_addHosts_append rc calls hl r,
    fun h hdot => lookupHost_addHosts_dotless rc calls hdot,
    fun a b key => normalizeHost_injective, fun d config => ⟨?_, fun l m => ?_⟩⟩
  · exact lookupHost_wildcard_apex rc calls d config
  · exact lookupHost_wildcard_deeper rc calls l m d config

/-- Two calls for one host, one for its wildcard and a rejected one: the later of the two, the
wildcard for a subdomain, nothing for the apex. -/
theorem lookupHost_addHosts_sample :
    ∃ calls : List (GoString × HostConfig), ∃ first second third : HostConfig,
      calls = [(lit "x.a.org", first), (lit "*.a.org", second), (lit "x.a.org", third),
        (lit ".a.org", first)]
      ∧ (emptyTable.addHosts calls).lookupHost (lit "x.a.org") = some third
      ∧ (emptyTable.addHosts calls).lookupHost (lit "y.a.org") = some second
      ∧ (emptyTable.addHosts calls).lookupHost (lit "a.org") = none := by
  have spec := fun calls => (lookupHost_addHosts_spec emptyTable calls).1
  refine ⟨_, ⟨[]⟩, ⟨[sampleRoute .pathTypePrefix (lit "/") 1]⟩,
    ⟨[sampleRoute .pathTypePrefix (lit "/") 2]⟩, rfl, ?_, ?_, ?_⟩
  · exact (spec _ (lit "x") (lit "a.org") (by decide)).trans (by decide)
  · exact (spec _ (lit "y") (lit "a.org") (by decide)).trans (by decide)
  · exact (spec _ (lit "a") (lit "org") (by decide)).trans (by decide)

end SIngress.Proxy
