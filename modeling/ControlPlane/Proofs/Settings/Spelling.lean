import ControlPlane.Proofs.Settings.Address

/-!
The ways to write a host, with blanks around it, a scheme before it and slashes after it, lead to
one client. Only the name of a scheme is not told apart from the scheme when two slashes come after
it and no other scheme before it.
-/
namespace ControlPlane.Settings

section
variable {host rest : List Char}

theorem dropEndWhile_slashes (hrest : ∀ c ∈ rest, c = '/') :
    Text.dropEndWhile (· = '/') rest = [] := by
  have hdrop : Text.dropEndWhile (· = '/') ([] ++ rest) = Text.dropEndWhile (· = '/') [] :=
    Text.dropEndWhile_append_of_forall fun c hc => decide_eq_true (hrest c hc)
  exact hdrop

theorem IsHost.dropEndWhile_append (hhost : IsHost host) (hrest : ∀ c ∈ rest, c = '/') :
    Text.dropEndWhile (· = '/') (host ++ rest) = host := by
  have hends : ∀ c ∈ host.getLast?, ¬ decide (c = '/') := by
    intro c hc
    simpa using (hhost.ends c hc).2
  rw [Text.dropEndWhile_append_of_forall fun c hc => decide_eq_true (hrest c hc),
    Text.dropEndWhile_eq_self hends]

/-- A scheme in front of a host and slashes takes up the whole host, and slashes after it. -/
theorem IsHost.exists_of_begins (hhost : IsHost host) {scheme : List Char}
    (hscheme : scheme ∈ schemes) (hbegins : scheme <+: host ++ rest) :
    ∃ taken left, scheme = host ++ taken ∧ rest = taken ++ left := by
  rcases List.prefix_or_prefix_of_prefix hbegins (List.prefix_append host rest) with h | h
  · exact absurd ⟨scheme, hscheme, h⟩ hhost.noScheme
  · obtain ⟨taken, rfl⟩ := h
    obtain ⟨left, hleft⟩ := (List.prefix_append_right_inj host).mp hbegins
    exact ⟨taken, left, rfl, hleft.symm⟩

/-- Slashes make a scheme of its name and of no other host. -/
theorem IsHost.hasScheme_append_iff (hhost : IsHost host) (hrest : ∀ c ∈ rest, c = '/') :
    HasScheme (host ++ rest) ↔
      (host = "https:".toList ∨ host = "http:".toList) ∧ 2 ≤ rest.length := by
  constructor
  · rintro ⟨scheme, hscheme, hbegins⟩
    obtain ⟨taken, left, htaken, rfl⟩ := hhost.exists_of_begins hscheme hbegins
    have hslashes : ∀ c ∈ taken, c = '/' := fun c hc => hrest c (List.mem_append_left left hc)
    have hname := hhost.dropEndWhile_append hslashes
    rw [← htaken] at hname
    have hlength := congrArg List.length htaken
    rw [List.length_append] at hlength ⊢
    simp only [schemes, List.mem_cons, List.not_mem_nil, or_false] at hscheme
    rcases hscheme with rfl | rfl
    · obtain rfl : "https:".toList = host := hname
      have htwo : 8 = 6 + taken.length := hlength
      exact ⟨.inl rfl, by omega⟩
    · obtain rfl : "http:".toList = host := hname
      have htwo : 7 = 5 + taken.length := hlength
      exact ⟨.inr rfl, by omega⟩
  · rintro ⟨hname, htwo⟩
    obtain ⟨left, rfl⟩ : ∃ left, rest = '/' :: '/' :: left := by
      rcases rest with _ | ⟨a, _ | ⟨b, left⟩⟩
      · simp at htwo
      · simp at htwo
      · obtain rfl := hrest a List.mem_cons_self
        obtain rfl := hrest b (List.mem_cons_of_mem _ List.mem_cons_self)
        exact ⟨left, rfl⟩
    rcases hname with rfl | rfl
    · exact ⟨"https://".toList, by decide, left, rfl⟩
    · exact ⟨"http://".toList, by decide, left, rfl⟩

/-- Of a host that is taken for a scheme, slashes are left, which go with all others. -/
theorem IsHost.dropEndWhile_stripScheme (hhost : IsHost host) (hrest : ∀ c ∈ rest, c = '/')
    (h : HasScheme (host ++ rest)) :
    Text.dropEndWhile (· = '/') (stripScheme (host ++ rest)) = [] := by
  obtain ⟨scheme, hscheme, hbegins⟩ := h
  obtain ⟨taken, left, rfl, rfl⟩ := hhost.exists_of_begins hscheme hbegins
  rw [← List.append_assoc, stripScheme_append hscheme]
  exact dropEndWhile_slashes fun c hc => hrest c (List.mem_append_right taken hc)

end

/-- A host as it may be written. -/
def spell (before scheme host : String) (slashes : Nat) (after : String) : String :=
  before ++ (scheme ++ (host ++ String.ofList (List.replicate slashes '/'))) ++ after

/-- A host is not told apart from a scheme when it is written with these slashes. -/
def ReadsAsScheme (scheme host : String) (slashes : Nat) : Prop :=
  scheme = "" ∧ (host = "https:" ∨ host = "http:") ∧ 2 ≤ slashes

variable {before scheme host after : String}

theorem toList_spell (slashes : Nat) : (spell before scheme host slashes after).toList =
    before.toList ++ (scheme.toList ++ (host.toList ++ List.replicate slashes '/')) ++
      after.toList := by
  simp [spell]

theorem normalizeAddress_spell_eq_iff (slashes : Nat) (hhost : IsHost host.toList)
    (hblank : ∀ c ∈ before.toList ++ after.toList, Text.isBlank c)
    (hscheme : scheme ∈ ["", "https://", "http://"]) :
    normalizeAddress (spell before scheme host slashes after) = host ↔
      ¬ ReadsAsScheme scheme host slashes := by
  have hslashes : ∀ c ∈ List.replicate slashes '/', c = '/' := fun _ => List.eq_of_mem_replicate
  have hnone := hhost.hasScheme_append_iff hslashes
  rw [List.length_replicate, String.toList_inj, String.toList_inj] at hnone
  have hwritten : scheme = "" ∨ scheme.toList ∈ schemes := by
    simp only [List.mem_cons, List.not_mem_nil, or_false] at hscheme
    rcases hscheme with rfl | rfl | rfl
    · exact .inl rfl
    · exact .inr (by decide)
    · exact .inr (by decide)
  rw [← String.toList_inj, toList_normalizeAddress, toList_spell,
    hhost.trimWhile_isBlank hblank hslashes (hwritten.symm.imp_right fun h => by rw [h]; rfl)]
  rcases hwritten with rfl | hwritten
  · by_cases hread : HasScheme (host.toList ++ List.replicate slashes '/')
    · have hempty := hhost.dropEndWhile_stripScheme hslashes hread
      have hreads : ReadsAsScheme "" host slashes := ⟨rfl, hnone.mp hread⟩
      simp only [String.toList_empty, List.nil_append, hempty, hreads, not_true_eq_false, iff_false]
      exact hhost.nonempty.symm
    · have hreads : ¬ ReadsAsScheme "" host slashes := fun h => hread (hnone.mpr h.2)
      simp only [String.toList_empty, List.nil_append, stripScheme_of_not_hasScheme hread,
        hhost.dropEndWhile_append hslashes, hreads, not_false_eq_true]
  · have hreads : ¬ ReadsAsScheme scheme host slashes := by
      rintro ⟨rfl, -⟩
      exact absurd hwritten (by decide)
    simp only [stripScheme_append hwritten, hhost.dropEndWhile_append hslashes, hreads,
      not_false_eq_true]

theorem client_of_isHost {s : Settings} (h : IsHost s.controlPlane.toList) :
    s.client = ⟨"https://" ++ s.controlPlane,
      ⟨"https://" ++ s.controlPlane ++ "/v1/users/oidc/token", s.clientId, s.clientSecret⟩⟩ := by
  have hbase := (clean_iff_isHost.mpr h).base
  have hparts : s.client = ⟨s.client.baseUrl,
      ⟨s.client.baseUrl ++ TokenSource.path, s.clientId, s.clientSecret⟩⟩ := rfl
  rw [hparts, hbase]
  rfl

/--
All ways to write a host resolve to the host and to one client. They are with or without a scheme,
with any slashes after the host and with any blanks around it all. The name of a scheme is the
exception: it stands for nothing when slashes make the scheme of it.
-/
theorem resolve_spelling (slashes : Nat) (hhost : IsHost host.toList)
    (hblank : ∀ c ∈ before.toList ++ after.toList, Text.isBlank c)
    (hscheme : scheme ∈ ["", "https://", "http://"]) :
    (normalizeAddress (spell before scheme host slashes after) = host ↔
      ¬ ReadsAsScheme scheme host slashes) ∧
    (¬ ReadsAsScheme scheme host slashes →
      ∀ (b : ProviderBlock) (env : Environment) (clientId clientSecret : String),
        b.pick env .clientId = .ok clientId → b.pick env .clientSecret = .ok clientSecret →
        b.pick env .controlPlane = .ok (spell before scheme host slashes after) →
        ∃ s, b.resolve env = .ok s ∧ s.controlPlane = host ∧
          s.client = ⟨"https://" ++ host,
            ⟨"https://" ++ host ++ "/v1/users/oidc/token", clientId, clientSecret⟩⟩) := by
  have hnormal := normalizeAddress_spell_eq_iff slashes hhost hblank hscheme
  refine ⟨hnormal, ?_⟩
  intro hreads b env clientId clientSecret hid hsecret haddress
  let s : Settings := ⟨clientId, clientSecret, host, b.tlsSkipVerify.getD false⟩
  have hresolve : b.resolve env = .ok s := by
    simp only [ProviderBlock.resolve, hid, hsecret, haddress, bind, Except.bind,
      hnormal.mpr hreads]
    rfl
  exact ⟨s, hresolve, rfl, client_of_isHost (s := s) hhost⟩

/-- A host with a port, with blanks around it of which one is beyond ASCII. -/
theorem resolve_spelling_spaced :
    spell "\u2003 " "http://" "cp:8443" 2 "\n" = "\u2003 http://cp:8443//\n" ∧
    ∃ s, ProviderBlock.resolve
        ⟨.known "id", .known "s", .known "\u2003 http://cp:8443//\n", .null⟩
        (fun _ => none) = .ok s ∧
      s.controlPlane = "cp:8443" ∧ s.client =
        ⟨"https://cp:8443", ⟨"https://cp:8443/v1/users/oidc/token", "id", "s"⟩⟩ := by
  have hhost : IsHost "cp:8443".toList := by decide +kernel
  have hblank : ∀ c ∈ "\u2003 ".toList ++ "\n".toList, Text.isBlank c :=
    List.all_eq_true.mp (by decide +kernel)
  have hreads : ¬ ReadsAsScheme "http://" "cp:8443" 2 := fun h => absurd h.1 (by decide)
  have hspell : spell "\u2003 " "http://" "cp:8443" 2 "\n" = "\u2003 http://cp:8443//\n" := by
    decide +kernel
  obtain ⟨-, hresolve⟩ := resolve_spelling 2 hhost hblank
    (show "http://" ∈ ["", "https://", "http://"] by decide)
  rw [hspell] at hresolve
  exact ⟨hspell, hresolve hreads _ _ "id" "s" rfl rfl rfl⟩

/-- The name of a scheme, with no scheme before it and two slashes after it. -/
theorem normalizeAddress_of_schemeName :
    IsHost "https:".toList ∧ spell "" "" "https:" 2 "" = "https://" ∧
      normalizeAddress (spell "" "" "https:" 2 "") = "" ∧
      normalizeAddress (spell "" "" "https:" 2 "") ≠ "https:" := by
  have hhost : IsHost "https:".toList := by decide +kernel
  have hempty : normalizeAddress (spell "" "" "https:" 2 "") = "" := by decide +kernel
  refine ⟨hhost, by decide +kernel, hempty, ?_⟩
  rw [hempty]
  decide

end ControlPlane.Settings
