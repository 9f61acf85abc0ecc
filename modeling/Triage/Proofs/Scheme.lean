import Triage.Backend.Client
import Triage.Proofs.Cutting
import Triage.Proofs.Schema

/-!
# Addresses with a scheme

The address of a backend is brought into order: a scheme is put in front where there is none, and
slashes at the end are dropped. Doing so again changes nothing (`normalizeAddress_again`). What it
comes to is said exactly in `isInOrder_normalizeAddress`: an address has a scheme afterwards if it
has one before or does not begin as one does, and if it has more than slashes to name. A host whose
own name begins with `http` is taken for an address with a scheme, and of nothing but slashes not
even the scheme in front stays whole.
-/

namespace Triage

open Text Schema Checked

variable {s t v : String}

namespace Text

theorem startsWith_iff_exists : startsWith s t = true ↔ ∃ rest, s = t ++ rest := by
  rw [startsWith_iff]
  constructor
  · rintro ⟨rest, hrest⟩
    refine ⟨String.ofList rest, String.toList_inj.mp ?_⟩
    rw [String.toList_append, String.toList_ofList, hrest]
  · rintro ⟨rest, rfl⟩
    rw [String.toList_append]
    exact List.prefix_append _ _

end Text

/-! ## Schemes -/

/-- The schemes of the addresses of backends. -/
def schemes : List String := ["http://", "https://"]

/-- The address begins with a scheme. -/
def HasScheme (s : String) : Prop := ∃ scheme ∈ schemes, startsWith s scheme = true

instance (s : String) : Decidable (HasScheme s) :=
  inferInstanceAs (Decidable (∃ scheme ∈ schemes, startsWith s scheme = true))

/-- The address begins with a scheme, and more than slashes stands behind it. -/
def NamesHost (s : String) : Prop :=
  ∃ scheme ∈ schemes, ∃ host, s = scheme ++ host ∧ ¬ OnlySlashes host

/-- Of a scheme with nothing behind it the slashes are dropped, too. -/
theorem not_startsWith_trimEndSlashes {scheme : String} (h : scheme ∈ schemes) :
    startsWith (trimEndSlashes scheme) scheme = false := by
  revert scheme
  decide +kernel

/-- An address without slashes at its end has a scheme exactly if it has named a host before. -/
theorem hasScheme_trimEndSlashes_iff : HasScheme (trimEndSlashes s) ↔ NamesHost s := by
  constructor
  · rintro ⟨scheme, hscheme, hstarts⟩
    obtain ⟨rest, hrest⟩ := startsWith_iff_exists.mp hstarts
    obtain ⟨slashes, hs, -⟩ := exists_eq_trimEndSlashes s
    rw [hrest, String.append_assoc] at hs
    refine ⟨scheme, hscheme, rest ++ slashes, hs, fun honly => ?_⟩
    rw [hs, trimEndSlashes_append_of_onlySlashes _ honly,
      not_startsWith_trimEndSlashes hscheme] at hstarts
    cases hstarts
  · rintro ⟨scheme, hscheme, host, rfl, hhost⟩
    refine ⟨scheme, hscheme, startsWith_iff_exists.mpr ⟨trimEndSlashes host, ?_⟩⟩
    exact trimEndSlashes_append_of_not_onlySlashes scheme hhost

/-- Every scheme begins with the word that an address is tested for. -/
theorem NamesHost.startsWith_http (h : NamesHost s) : startsWith s "http" = true := by
  obtain ⟨scheme, hscheme, host, rfl, -⟩ := h
  have hstart : ∀ scheme ∈ schemes, startsWith scheme "http" = true := by decide +kernel
  obtain ⟨rest, rfl⟩ := startsWith_iff_exists.mp (hstart scheme hscheme)
  exact startsWith_iff_exists.mpr ⟨rest ++ host, String.append_assoc ..⟩

/-- Behind a scheme put in front, everything but slashes is a host. -/
theorem namesHost_append_iff : NamesHost ("http://" ++ s) ↔ ¬ OnlySlashes s := by
  constructor
  · rintro ⟨scheme, hscheme, host, heq, hhost⟩
    rcases List.mem_cons.mp hscheme with rfl | hscheme
    · rwa [(String.append_right_inj _).mp heq]
    · -- the other scheme goes on with another character
      obtain rfl := List.mem_singleton.mp hscheme
      have hlist := congrArg String.toList heq
      simp at hlist
  · intro h
    exact ⟨"http://", List.mem_cons_self, s, rfl, h⟩

/-! ## Addresses in order -/

theorem normalizeAddress_of_startsWith (h : startsWith s "http" = true) :
    normalizeAddress s = trimEndSlashes s := by
  rw [normalizeAddress, if_pos h]

theorem normalizeAddress_of_not_startsWith (h : startsWith s "http" = false) :
    normalizeAddress s = trimEndSlashes ("http://" ++ s) := by
  rw [normalizeAddress, if_neg (Bool.eq_false_iff.mp h)]

theorem startsWith_normalizeAddress (s : String) :
    startsWith (normalizeAddress s) "http" = true := by
  have htrim (rest : String) : startsWith (trimEndSlashes ("http" ++ rest)) "http" = true := by
    by_cases h : OnlySlashes rest
    · rw [trimEndSlashes_append_of_onlySlashes _ h]
      decide +kernel
    · rw [trimEndSlashes_append_of_not_onlySlashes _ h]
      exact startsWith_iff_exists.mpr ⟨_, rfl⟩
  cases h : startsWith s "http" with
  | true =>
      obtain ⟨rest, rfl⟩ := startsWith_iff_exists.mp h
      rw [normalizeAddress_of_startsWith h]
      exact htrim rest
  | false =>
      have hword : "http://" ++ s = "http" ++ ("://" ++ s) := by
        rw [← String.append_assoc]
        rfl
      rw [normalizeAddress_of_not_startsWith h, hword]
      exact htrim _

/-- **What is in order stays as it is.** -/
theorem normalizeAddress_again (s : String) :
    normalizeAddress (normalizeAddress s) = normalizeAddress s := by
  rw [normalizeAddress_of_startsWith (startsWith_normalizeAddress s)]
  exact trimEndSlashes_trimEndSlashes _

/-- A value has a scheme put in front of it: it does not begin as an address with a scheme does, and
it is more than slashes. -/
def GetsScheme (value : String) : Prop := startsWith value "http" = false ∧ ¬ OnlySlashes value

theorem hasScheme_normalizeAddress_iff :
    HasScheme (normalizeAddress v) ↔ NamesHost v ∨ GetsScheme v := by
  cases h : startsWith v "http" with
  | true =>
      rw [normalizeAddress_of_startsWith h, hasScheme_trimEndSlashes_iff]
      exact ⟨.inl, fun hor => hor.resolve_right fun hgets => by simp [hgets.1] at h⟩
  | false =>
      rw [normalizeAddress_of_not_startsWith h, hasScheme_trimEndSlashes_iff, namesHost_append_iff]
      constructor
      · intro hslashes
        exact .inr ⟨h, hslashes⟩
      · rintro (hnames | hgets)
        · rw [hnames.startsWith_http] at h
          cases h
        · exact hgets.2

/-- The scheme is put in front of the whole value but for the slashes at its end, or not at all. -/
theorem normalizeAddress_eq_append_iff :
    normalizeAddress v = "http://" ++ trimEndSlashes v ↔ GetsScheme v := by
  have hlength : ("http://" ++ trimEndSlashes v).length = 7 + (trimEndSlashes v).length :=
    String.length_append ..
  cases h : startsWith v "http" with
  | true =>
      rw [normalizeAddress_of_startsWith h]
      constructor
      · intro heq
        have := congrArg String.length heq
        omega
      · intro hgets
        rw [hgets.1] at h
        cases h
  | false =>
      rw [normalizeAddress_of_not_startsWith h]
      by_cases hslashes : OnlySlashes v
      · rw [trimEndSlashes_append_of_onlySlashes _ hslashes]
        constructor
        · intro heq
          have hhttp : (trimEndSlashes "http://").length = 5 := by decide +kernel
          have := congrArg String.length heq
          omega
        · intro hgets
          exact absurd hslashes hgets.2
      · rw [trimEndSlashes_append_of_not_onlySlashes _ hslashes]
        exact ⟨fun _ => ⟨h, hslashes⟩, fun _ => rfl⟩

/-- `base` is the value in order. -/
structure IsInOrder (value base : String) : Prop where
  /-- It has a scheme exactly if the value names a host behind one or gets one. -/
  scheme : HasScheme base ↔ NamesHost value ∨ GetsScheme value
  /-- What gets one is the value without the slashes at its end. -/
  added : base = "http://" ++ trimEndSlashes value ↔ GetsScheme value
  /-- It begins as an address with a scheme does in any case. -/
  starts : startsWith base "http" = true
  /-- Nothing changes if it is brought into order again. -/
  again : normalizeAddress base = base

theorem isInOrder_normalizeAddress (v : String) : IsInOrder v (normalizeAddress v) where
  scheme := hasScheme_normalizeAddress_iff
  added := normalizeAddress_eq_append_iff
  starts := startsWith_normalizeAddress v
  again := normalizeAddress_again v

/-! ## Where an address comes from -/

section FirstText

variable {a : Option String} {default : String}

theorem firstText_cons_some (hv : v ≠ "") (texts : List (Option String)) :
    firstText (some v :: texts) default = v := by
  simp [firstText, hv]

theorem firstText_cons_of_getD (h : a.getD "" = "") (texts : List (Option String)) :
    firstText (a :: texts) default = firstText texts default := by
  cases a with
  | none => rfl
  | some s =>
      obtain rfl : s = "" := h
      simp [firstText]

end FirstText

namespace BackendSettings

variable {env : Environment} {settings : BackendSettings}

theorem get?_fieldsOf (env : Environment) (start : String) (names : List String) (name : String) :
    (fieldsOf env start names).get? name =
      if name ∈ names then (env.get? (start ++ name)).map .string else none := by
  unfold fieldsOf
  induction names with
  | nil => rfl
  | cons first rest ih =>
      cases hfirst : env.get? (start ++ first) with
      | none =>
          rw [List.filterMap_cons_none (by rw [hfirst]; rfl), ih]
          by_cases hname : name = first
          · simp [hname, hfirst]
          · simp [hname]
      | some v =>
          rw [List.filterMap_cons_some (by rw [hfirst]; rfl), Record.get?_cons, ih]
          by_cases hname : name = first
          · simp [hname, hfirst]
          · simp [hname]

/-- A text that the environment gives or leaves open is taken as it is. -/
theorem text_of_check {start name whole : String} {names : List String} {o : Option String}
    (h : withDefault (fieldsOf env start names) name none (optional text) = .valid o)
    (hname : name ∈ names) (hwhole : start ++ name = whole) : o = env.get? whole := by
  subst hwhole
  unfold withDefault at h
  rw [get?_fieldsOf, if_pos hname] at h
  cases hget : env.get? (start ++ name) with
  | none =>
      rw [hget] at h
      exact (Checked.valid.inj h).symm
  | some v =>
      rw [hget] at h
      exact (Checked.valid.inj h).symm

/-- The settings have the address and the host of the environment. -/
theorem url_host_of_check (h : check env = .valid settings) :
    settings.url = env.get? "ollama_url" ∧ settings.host = env.get? "ollama_host" := by
  simp only [check, seq_eq_valid_iff, map_eq_valid_iff] at h
  obtain ⟨_, _, ⟨_, _, ⟨_, _, ⟨_, _, ⟨_, host, ⟨url, hurl, rfl⟩, hhost, rfl⟩, _, rfl⟩, _, rfl⟩, _,
    rfl⟩, _, rfl⟩ := h
  exact ⟨text_of_check hurl (by decide) (by decide), text_of_check hhost (by decide) (by decide)⟩

/-- The address of the backend is that of the environment, or that of a client's own, in order. -/
structure IsAddressed (env : Environment) (settings : BackendSettings) : Prop where
  url : ∀ v, v ≠ "" → env.get? "ollama_url" = some v → IsInOrder v settings.baseUrl
  host : ∀ v, v ≠ "" → (env.get? "ollama_url").getD "" = "" → env.get? "ollama_host" = some v →
    IsInOrder v settings.baseUrl
  /-- An address that a client is given comes first. -/
  given : ∀ v model, v ≠ "" → IsInOrder v (Client.make settings (some v) model).baseUrl
  /-- Without one, the client has the address of the settings, which is in order already. -/
  kept : ∀ given model, given.getD "" = "" →
    (Client.make settings given model).baseUrl = settings.baseUrl

/-- **Addresses are brought into order, wherever they come from.** -/
theorem isAddressed_of_check (h : check env = .valid settings) : IsAddressed env settings := by
  obtain ⟨hurl, hhost⟩ := url_host_of_check h
  constructor
  case url =>
    intro v hv hget
    rw [baseUrl, hurl, hget, firstText_cons_some hv]
    exact isInOrder_normalizeAddress v
  case host =>
    intro v hv hnone hget
    rw [baseUrl, hurl, hhost, hget, firstText_cons_of_getD hnone, firstText_cons_some hv]
    exact isInOrder_normalizeAddress v
  case given =>
    intro v model hv
    rw [Client.make, firstText_cons_some hv]
    exact isInOrder_normalizeAddress v
  case kept =>
    intro given model hgiven
    rw [Client.make, firstText_cons_of_getD hgiven]
    exact normalizeAddress_again _

/-- A host whose name begins as an address with a scheme does. -/
def httpbox : Environment := [("OLLAMA_HOST", "httpbox:11434")]

theorem isAddressed_httpbox :
    ∃ settings, check httpbox = .valid settings ∧ IsAddressed httpbox settings := by
  obtain ⟨settings, hsettings⟩ := exists_of_isValid (x := check httpbox) (by decide +kernel)
  exact ⟨settings, hsettings, isAddressed_of_check hsettings⟩

/-- Neither that host nor an address that is a scheme alone has a scheme afterwards. -/
theorem not_hasScheme_httpbox :
    (∃ settings, check httpbox = .valid settings ∧ settings.baseUrl = "httpbox:11434" ∧
      ¬ HasScheme settings.baseUrl) ∧
    ∃ settings, check [("OLLAMA_URL", "http://")] = .valid settings ∧
      settings.baseUrl = "http:" ∧ ¬ HasScheme settings.baseUrl := by
  have hbase (env : Environment) (base : String)
      (h : (check env).toOption.map baseUrl = some base) (hbase : ¬ HasScheme base) :
      ∃ settings, check env = .valid settings ∧ settings.baseUrl = base ∧
        ¬ HasScheme settings.baseUrl := by
    obtain ⟨settings, hsettings, rfl⟩ := Option.map_eq_some_iff.mp h
    exact ⟨settings, toOption_eq_some_iff.mp hsettings, rfl, hbase⟩
  constructor
  · exact hbase httpbox "httpbox:11434" (by decide +kernel) (by decide +kernel)
  · exact hbase [("OLLAMA_URL", "http://")] "http:" (by decide +kernel) (by decide +kernel)

end BackendSettings

end Triage
