import ControlPlane.Proofs.Failure
import ControlPlane.Proofs.Url.Naming
import ControlPlane.Settings
import Mathlib.Data.List.DropRight

/-!
The address of the control plane. It may be written with blanks around it, a scheme before it and
slashes after it, which are taken off once and in this order. What is left is the place to call only
if nothing that an earlier step takes off comes to light in a later one. The text that is written
has to be given, but nothing has to be left of it.
-/
namespace ControlPlane

namespace Text
variable {p : Char → Bool} {cs ds : List Char}

theorem exists_eq_dropEndWhile_append (p : Char → Bool) (cs : List Char) :
    ∃ ds, cs = dropEndWhile p cs ++ ds ∧ ∀ c ∈ ds, p c :=
  ⟨cs.rtakeWhile p, List.rdropWhile_append_rtakeWhile.symm,
    fun _ => List.mem_rtakeWhile_imp⟩

theorem dropEndWhile_append_of_forall (h : ∀ c ∈ ds, p c) :
    dropEndWhile p (cs ++ ds) = dropEndWhile p cs := by
  have hds : ∀ c ∈ ds.reverse, p c := by
    intro c hc
    exact h c (List.mem_reverse.mp hc)
  rw [dropEndWhile, List.reverse_append, List.dropWhile_append_of_pos hds]
  rfl

theorem exists_eq_append_trimWhile_append (p : Char → Bool) (cs : List Char) :
    ∃ before after, cs = before ++ trimWhile p cs ++ after ∧ ∀ c ∈ before ++ after, p c := by
  obtain ⟨after, hafter, hp⟩ := exists_eq_dropEndWhile_append p (cs.dropWhile p)
  refine ⟨cs.takeWhile p, after, ?_, ?_⟩
  · rw [List.append_assoc, trimWhile, ← hafter, List.takeWhile_append_dropWhile]
  · intro c hc
    rcases List.mem_append.mp hc with hc | hc
    · exact List.mem_takeWhile_imp hc
    · exact hp c hc

theorem trimWhile_append_append {before after : List Char} (hends : ∀ c ∈ before ++ after, p c)
    (hne : cs ≠ []) (hhead : ∀ c ∈ cs.head?, ¬ p c) (hlast : ∀ c ∈ cs.getLast?, ¬ p c) :
    trimWhile p (before ++ cs ++ after) = cs := by
  rw [List.forall_mem_append] at hends
  have hdrop : (before ++ cs ++ after).dropWhile p = cs ++ after := by
    rw [List.append_assoc, List.dropWhile_append_of_pos hends.1]
    cases cs with
    | nil => exact absurd rfl hne
    | cons c cs => exact List.dropWhile_cons_of_neg (hhead c rfl)
  rw [trimWhile, hdrop, dropEndWhile_append_of_forall hends.2, dropEndWhile_eq_self hlast]

end Text

namespace Settings
variable {cs host : List Char}

/-- The schemes that are taken off. -/
def schemes : List (List Char) := ["https://".toList, "http://".toList]

def HasScheme (cs : List Char) : Prop := ∃ scheme ∈ schemes, scheme <+: cs

instance : DecidablePred HasScheme := fun _ => inferInstanceAs (Decidable (∃ _ ∈ schemes, _))

theorem stripScheme_of_not_hasScheme (h : ¬ HasScheme cs) : stripScheme cs = cs := by
  have hhttps : ¬ "https://".toList.isPrefixOf cs := by
    rw [List.isPrefixOf_iff_prefix]
    exact fun hprefix => h ⟨_, by decide, hprefix⟩
  have hhttp : ¬ "http://".toList.isPrefixOf cs := by
    rw [List.isPrefixOf_iff_prefix]
    exact fun hprefix => h ⟨_, by decide, hprefix⟩
  rw [stripScheme, if_neg hhttps, if_neg hhttp]

theorem stripScheme_append {scheme : List Char} (h : scheme ∈ schemes) (cs : List Char) :
    stripScheme (scheme ++ cs) = cs := by
  simp only [schemes, List.mem_cons, List.not_mem_nil, or_false] at h
  rcases h with rfl | rfl <;> rfl

/-- The scheme that is taken off, or nothing if there is none. -/
theorem exists_eq_append_stripScheme (cs : List Char) :
    ∃ scheme, cs = scheme ++ stripScheme cs ∧
      (scheme ∈ schemes ∨ scheme = [] ∧ ¬ HasScheme cs) := by
  by_cases h : HasScheme cs
  · obtain ⟨scheme, hscheme, rest, rfl⟩ := h
    exact ⟨scheme, by rw [stripScheme_append hscheme], .inl hscheme⟩
  · exact ⟨[], by rw [stripScheme_of_not_hasScheme h, List.nil_append], .inr ⟨rfl, h⟩⟩

/-- A place to call, without any of what may be written around it. -/
structure IsHost (cs : List Char) : Prop where
  nonempty : cs ≠ []
  begins : ∀ c ∈ cs.head?, ¬ Text.isBlank c
  ends : ∀ c ∈ cs.getLast?, ¬ Text.isBlank c ∧ c ≠ '/'
  noScheme : ¬ HasScheme cs

theorem isHost_iff : IsHost cs ↔ cs ≠ [] ∧ (cs.head?.all fun c => !Text.isBlank c) ∧
    (cs.getLast?.all fun c => !Text.isBlank c && c ≠ '/') ∧ ¬ HasScheme cs := by
  simp only [Option.all_eq_true, Bool.and_eq_true, Bool.not_eq_true', decide_eq_true_eq,
    ← Bool.not_eq_true]
  constructor
  · rintro ⟨hne, hbegins, hends, hscheme⟩
    exact ⟨hne, hbegins, hends, hscheme⟩
  · rintro ⟨hne, hbegins, hends, hscheme⟩
    exact ⟨hne, hbegins, hends, hscheme⟩

instance : DecidablePred IsHost := fun _ => decidable_of_iff _ isHost_iff.symm

/--
An address that writes a host in one of the accepted ways. Without a scheme before it, host and
slashes do not make one up, as `https:` and two slashes do.
-/
def Decorates (host address : List Char) : Prop :=
  ∃ before scheme slashes after, address = before ++ (scheme ++ (host ++ slashes)) ++ after ∧
    (∀ c ∈ before ++ after, Text.isBlank c) ∧ (∀ c ∈ slashes, c = '/') ∧
    (scheme ∈ schemes ∨ scheme = [] ∧ ¬ HasScheme (host ++ slashes))

theorem toList_normalizeAddress (address : String) : (normalizeAddress address).toList =
    Text.dropEndWhile (· = '/') (stripScheme (Text.trimWhile Text.isBlank address.toList)) :=
  String.toList_ofList

theorem decorates_normalizeAddress (address : String) :
    Decorates (normalizeAddress address).toList address.toList := by
  have hhost := toList_normalizeAddress address
  obtain ⟨before, after, haddress, hblank⟩ :=
    Text.exists_eq_append_trimWhile_append Text.isBlank address.toList
  generalize Text.trimWhile Text.isBlank address.toList = trimmed at haddress hhost
  obtain ⟨scheme, htrimmed, hscheme⟩ := exists_eq_append_stripScheme trimmed
  obtain ⟨slashes, hstripped, hslashes⟩ :=
    Text.exists_eq_dropEndWhile_append (· = '/') (stripScheme trimmed)
  rw [← hhost] at hstripped
  rw [hstripped] at htrimmed
  refine ⟨before, scheme, slashes, after, ?_, hblank, ?_, ?_⟩
  · rw [← htrimmed]
    exact haddress
  · intro c hc
    exact of_decide_eq_true (hslashes c hc)
  · rcases hscheme with hscheme | ⟨rfl, hnone⟩
    · exact .inl hscheme
    · rw [htrimmed, List.nil_append] at hnone
      exact .inr ⟨rfl, hnone⟩

/-- Nothing blank comes before a host but the blanks around it all. -/
theorem IsHost.not_isBlank_of_mem_head? (hhost : IsHost host) {scheme rest : List Char}
    (hscheme : scheme ∈ schemes ∨ scheme = []) :
    ∀ c ∈ (scheme ++ (host ++ rest)).head?, ¬ Text.isBlank c := by
  intro c hc
  rcases hscheme with hscheme | rfl
  · simp only [schemes, List.mem_cons, List.not_mem_nil, or_false] at hscheme
    obtain rfl : 'h' = c := by
      rcases hscheme with rfl | rfl <;> exact Option.some.inj hc
    decide
  · cases host with
    | nil => exact absurd rfl hhost.nonempty
    | cons d host => exact hhost.begins c hc

theorem IsHost.not_isBlank_of_mem_getLast? (hhost : IsHost host) {slashes : List Char}
    (hslashes : ∀ c ∈ slashes, c = '/') (scheme : List Char) :
    ∀ c ∈ (scheme ++ (host ++ slashes)).getLast?, ¬ Text.isBlank c := by
  intro c hc
  have hne : host.getLast? ≠ none := by
    rw [ne_eq, List.getLast?_eq_none_iff]
    exact hhost.nonempty
  simp only [List.getLast?_append, Option.mem_def, Option.or_eq_some_iff,
    Option.or_eq_none_iff] at hc
  rcases hc with (hc | ⟨-, hc⟩) | ⟨⟨-, hnone⟩, -⟩
  · rw [hslashes c (List.mem_of_getLast? hc)]
    decide
  · exact (hhost.ends c hc).1
  · exact absurd hnone hne

/-- The blanks around it all are taken off, and nothing else of a host with its scheme and
slashes. -/
theorem IsHost.trimWhile_isBlank (hhost : IsHost host) {before scheme slashes after : List Char}
    (hblank : ∀ c ∈ before ++ after, Text.isBlank c) (hslashes : ∀ c ∈ slashes, c = '/')
    (hscheme : scheme ∈ schemes ∨ scheme = []) :
    Text.trimWhile Text.isBlank (before ++ (scheme ++ (host ++ slashes)) ++ after) =
      scheme ++ (host ++ slashes) := by
  apply Text.trimWhile_append_append hblank
  · simp [hhost.nonempty]
  · exact hhost.not_isBlank_of_mem_head? hscheme
  · exact hhost.not_isBlank_of_mem_getLast? hslashes scheme

theorem normalizeAddress_of_decorates {address : String} (hhost : IsHost host)
    (h : Decorates host address.toList) : (normalizeAddress address).toList = host := by
  obtain ⟨before, scheme, slashes, after, haddress, hblank, hslashes, hscheme⟩ := h
  have htrim : Text.trimWhile Text.isBlank address.toList = scheme ++ (host ++ slashes) := by
    rw [haddress]
    exact hhost.trimWhile_isBlank hblank hslashes (hscheme.imp_right And.left)
  have hstrip : stripScheme (scheme ++ (host ++ slashes)) = host ++ slashes := by
    rcases hscheme with hscheme | ⟨rfl, hnone⟩
    · exact stripScheme_append hscheme _
    · exact stripScheme_of_not_hasScheme hnone
  have hends : ∀ c ∈ host.getLast?, ¬ decide (c = '/') := by
    intro c hc
    simpa using (hhost.ends c hc).2
  rw [toList_normalizeAddress, htrim, hstrip,
    Text.dropEndWhile_append_of_forall fun c hc => decide_eq_true (hslashes c hc),
    Text.dropEndWhile_eq_self hends]

theorem IsHost.decorates_self (hhost : IsHost host) : Decorates host host := by
  have hself : host = [] ++ ([] ++ (host ++ [])) ++ [] := by simp
  have hnone : ¬ HasScheme (host ++ []) := by
    rw [List.append_nil]
    exact hhost.noScheme
  exact ⟨[], [], [], [], hself, by simp, by simp, .inr ⟨rfl, hnone⟩⟩

theorem ne_slash_of_mem_getLast?_normalizeAddress (address : String) :
    ∀ c ∈ (normalizeAddress address).toList.getLast?, c ≠ '/' := by
  intro c hc
  rw [toList_normalizeAddress] at hc
  simpa using Text.not_of_mem_getLast?_dropEndWhile hc

/-- The slash of the scheme is all that a client can take off the end. -/
theorem baseUrl_client_eq_iff {s : Settings}
    (hs : ∀ c ∈ s.controlPlane.toList.getLast?, c ≠ '/') :
    s.client.baseUrl = "https://" ++ s.controlPlane ↔ s.controlPlane ≠ "" := by
  have hbase : s.client.baseUrl.toList =
      Text.dropEndWhile (· = '/') ("https://" ++ s.controlPlane).toList := String.toList_ofList
  rw [← String.toList_inj, hbase]
  constructor
  · rintro h hempty
    rw [hempty] at h
    exact absurd h (by decide)
  · intro hne
    apply Text.dropEndWhile_eq_self
    intro c hc
    rw [String.toList_append, List.getLast?_append, Option.mem_def, Option.or_eq_some_iff] at hc
    rcases hc with hc | ⟨hnone, -⟩
    · simpa using hs c hc
    · rw [List.getLast?_eq_none_iff, String.toList_eq_nil_iff] at hnone
      exact absurd hnone hne

/-- Settings whose control plane is a place to call, and is the place that their client calls. -/
structure Clean (s : Settings) : Prop where
  host : IsHost s.controlPlane.toList
  normal : normalizeAddress s.controlPlane = s.controlPlane
  base : s.client.baseUrl = "https://" ++ s.controlPlane

theorem clean_iff_isHost {s : Settings} : s.Clean ↔ IsHost s.controlPlane.toList := by
  constructor
  · exact Clean.host
  · intro hhost
    refine ⟨hhost, ?_, ?_⟩
    · rw [← String.toList_inj]
      exact normalizeAddress_of_decorates hhost hhost.decorates_self
    · rw [baseUrl_client_eq_iff fun c hc => (hhost.ends c hc).2]
      intro hempty
      exact hhost.nonempty (String.toList_eq_nil_iff.mpr hempty)

end Settings

namespace ProviderBlock
variable {b : ProviderBlock} {env : Environment}

theorem exists_pick_of_resolve {s : Settings} (h : b.resolve env = .ok s) :
    ∃ address, b.pick env .controlPlane = .ok address ∧
      s.controlPlane = Settings.normalizeAddress address := by
  unfold resolve at h
  obtain ⟨clientId, -, h⟩ := bind_eq_ok_iff.mp h
  obtain ⟨clientSecret, -, h⟩ := bind_eq_ok_iff.mp h
  obtain ⟨address, haddress, h⟩ := bind_eq_ok_iff.mp h
  cases h
  exact ⟨address, haddress, rfl⟩

/--
The settings that are resolved are clean if the address is a host that is written in one of the
accepted ways, and only then. No slash is left at the end of any address, so that every client calls
the control plane of its settings over HTTPS, unless nothing is left of the address.
-/
theorem clean_iff_decorates (b : ProviderBlock) (env : Environment) (s : Settings)
    (h : b.resolve env = .ok s) :
    ∃ address, b.pick env .controlPlane = .ok address ∧
      (s.Clean ↔ ∃ host, Settings.IsHost host ∧ Settings.Decorates host address.toList) ∧
      (∀ c ∈ s.controlPlane.toList.getLast?, c ≠ '/') ∧
      (s.client.baseUrl = "https://" ++ s.controlPlane ↔ s.controlPlane ≠ "") := by
  obtain ⟨address, haddress, hplane⟩ := exists_pick_of_resolve h
  have hslash : ∀ c ∈ s.controlPlane.toList.getLast?, c ≠ '/' := by
    rw [hplane]
    exact Settings.ne_slash_of_mem_getLast?_normalizeAddress address
  refine ⟨address, haddress, ?_, hslash, Settings.baseUrl_client_eq_iff hslash⟩
  rw [Settings.clean_iff_isHost, hplane]
  constructor
  · intro hhost
    exact ⟨_, hhost, Settings.decorates_normalizeAddress address⟩
  · rintro ⟨host, hhost, hdecorates⟩
    rw [Settings.normalizeAddress_of_decorates hhost hdecorates]
    exact hhost

/-- An address of the environment, with blanks, a scheme and slashes around it. -/
theorem clean_of_decorated :
    let b : ProviderBlock := ⟨.known "id", .known "s", .null, .null⟩
    let env : Environment := fun name =>
      if name = "CYRAL_TF_CONTROL_PLANE" then some " https://cp.example.com:8443// " else none
    ∃ s, b.resolve env = .ok s ∧ s.Clean ∧
      s.client.baseUrl = "https://cp.example.com:8443" := by
  intro b env
  have hresolve : b.resolve env = .ok ⟨"id", "s", "cp.example.com:8443", false⟩ := by rfl
  obtain ⟨address, haddress, hclean, -, hbase⟩ := clean_iff_decorates b env _ hresolve
  obtain rfl : " https://cp.example.com:8443// " = address := Except.ok.inj haddress
  have hwritten : Settings.Decorates "cp.example.com:8443".toList
      " https://cp.example.com:8443// ".toList :=
    ⟨[' '], "https://".toList, ['/', '/'], [' '], rfl, List.all_eq_true.mp rfl, by simp,
      .inl List.mem_cons_self⟩
  have hhost : Settings.IsHost "cp.example.com:8443".toList := by decide +kernel
  exact ⟨_, hresolve, hclean.mpr ⟨_, hhost, hwritten⟩, hbase.mpr (by decide)⟩

/-- An address that is only a scheme is given, but nothing is left of it. A blank or a second scheme
after the scheme is left in the address. -/
theorem unclean_of_scheme :
    let resolved (address : String) : Except Failure Settings :=
      resolve ⟨.known "id", .known "s", .known address, .null⟩ fun _ => none
    let settings (controlPlane : String) : Settings := ⟨"id", "s", controlPlane, false⟩
    (resolved "https://" = .ok (settings "") ∧ ¬ (settings "").Clean ∧
      (settings "").client.baseUrl = "https:") ∧
    (resolved "https:// cp" = .ok (settings " cp") ∧ ¬ (settings " cp").Clean) ∧
    (resolved "https://http://cp" = .ok (settings "http://cp") ∧
      ¬ (settings "http://cp").Clean) := by
  intro resolved settings
  have hclean (s : Settings) (h : ¬ Settings.IsHost s.controlPlane.toList) : ¬ s.Clean :=
    fun hclean => h hclean.host
  have hresolve : resolved "https://" = .ok (settings "") ∧
      resolved "https:// cp" = .ok (settings " cp") ∧
      resolved "https://http://cp" = .ok (settings "http://cp") := by
    decide +kernel
  obtain ⟨hscheme, hblank, hsecond⟩ := hresolve
  exact ⟨⟨hscheme, hclean _ (by decide +kernel), by decide +kernel⟩,
    ⟨hblank, hclean _ (by decide +kernel)⟩, hsecond, hclean _ (by decide +kernel)⟩

end ProviderBlock
end ControlPlane
