import Triage.Backend.Url
import Triage.Proofs.Cutting

/-!
# Addresses below a base

A backend is asked at addresses below a base. That base is read from a text, and the resource is put
behind its path, or behind its query where it has one. Both times the path has to fit the rest of
the address: after a host it is empty or starts with a slash.

That invariant is `Url.IsRooted`. Reading an address establishes it, and dropping dots, escaping and
putting something behind the path keep it. So every resource has an address below a base that has a
scheme and can be read at all (`Url.below_eq_ok`).
-/

namespace Triage.Url

open Text

/-- The path does not start with another character than a slash. -/
def RootedPath (path : List Char) : Prop := ∀ c ∈ path.head?, c = '/'

theorem rootedPath_nil : RootedPath [] := by
  intro c hc
  simp at hc

theorem rootedPath_slash (rest : List Char) : RootedPath ('/' :: rest) := by
  intro c hc
  simpa using hc.symm

theorem RootedPath.cases {path : List Char} (h : RootedPath path) :
    path = [] ∨ ∃ rest, path = '/' :: rest := by
  cases path with
  | nil => exact Or.inl rfl
  | cons c rest =>
      have hc : c = '/' := h c (by simp)
      exact Or.inr ⟨rest, by rw [hc]⟩

/-! ## What keeps a path rooted -/

/-- One segment more, with dots resolved. -/
def keepSegment (done : List String) (s : String) : List String :=
  if s = "." then done
  else if s = ".." then (if done = [] ∨ done = [""] then done else done.dropLast)
  else done ++ [s]

/-- The empty segment in front of the first slash is never given up. -/
theorem keepSegment_head {done : List String} (h : done.head? = some "") (s : String) :
    (keepSegment done s).head? = some "" := by
  obtain ⟨more, rfl⟩ : ∃ more, done = "" :: more := by
    cases done with
    | nil => simp at h
    | cons first more => exact ⟨more, by simpa using h⟩
  unfold keepSegment
  split
  · rfl
  · split
    · cases more with
      | nil => simp
      | cons second more => simp [List.dropLast]
    · rfl

theorem foldl_keepSegment_head (segments : List String) :
    ∀ {done : List String}, done.head? = some "" →
      (segments.foldl keepSegment done).head? = some "" := by
  induction segments with
  | nil => intro done h; exact h
  | cons s segments ih => intro done h; exact ih (keepSegment_head h s)

theorem join_rooted {parts : List String} (h : parts.head? = some "") :
    RootedPath (join "/" parts).toList := by
  obtain ⟨more, rfl⟩ : ∃ more, parts = "" :: more := by
    cases parts with
    | nil => simp at h
    | cons first more => exact ⟨more, by simpa using h⟩
  cases more with
  | nil => exact rootedPath_nil
  | cons second more =>
      rw [join, String.intercalate_cons_cons]
      simp only [String.toList_append]
      exact rootedPath_slash _

theorem dropDots_rooted {path : String} (h : RootedPath path.toList) :
    RootedPath (dropDots path).toList := by
  unfold dropDots
  dsimp only
  split
  · exact h
  · refine join_rooted ?_
    show ((split '/' path).foldl keepSegment []).head? = some ""
    rcases h.cases with hp | ⟨rest, hp⟩
    · rename_i hall
      exact absurd (by simp [split, hp, splitChars]) hall
    · rw [split, hp, splitChars_separator]
      have hfirst : keepSegment [] (String.ofList []) = [""] := by decide
      rw [List.map_cons, List.foldl_cons, hfirst]
      exact foldl_keepSegment_head _ rfl

theorem escapeText_rooted {path : String} (h : RootedPath path.toList) :
    RootedPath (escapeText pathSafe path).toList := by
  rw [escapeText, String.toList_ofList]
  rcases h.cases with hp | ⟨rest, hp⟩
  · rw [hp]; exact rootedPath_nil
  · rw [hp]
    have : escape pathSafe ('/' :: rest) = '/' :: escape pathSafe rest := by
      have hsafe : (isUnreserved '/' || pathSafe '/') = true := by decide
      rw [escape.eq_def]
      simp [hsafe]
    rw [this]
    exact rootedPath_slash _

/-- Cutting off a query leaves the front of the path as it is. -/
theorem cut_rooted {path : List Char} (h : RootedPath path) :
    RootedPath (cut (· == '?') path).1 := by
  rcases h.cases with rfl | ⟨rest, rfl⟩
  · exact rootedPath_nil
  · have : (cut (· == '?') ('/' :: rest)).1 = '/' :: (cut (· == '?') rest).1 := by
      simp [cut]
    rw [this]
    exact rootedPath_slash _

/-! ## Addresses with a rooted path -/

/-- There is something before the path that the path has to be set apart from. -/
def hasAuthority (u : Url) : Bool := u.userinfo ≠ "" || u.host ≠ "" || u.port.isSome

/-- After an authority the path is empty or starts with a slash. -/
def IsRooted (u : Url) : Prop := u.hasAuthority = true → RootedPath u.path.toList

theorem startsWith_slash_iff (path : String) :
    startsWith path "/" = true ↔ ∃ rest, path.toList = '/' :: rest := by
  have hslash : "/".toList = ['/'] := by decide
  rw [startsWith, hslash]
  cases path.toList with
  | nil => simp [List.isPrefixOf]
  | cons c rest =>
      constructor
      · intro h
        have hc : '/' = c := by simpa [List.isPrefixOf] using h
        exact ⟨rest, by rw [hc]⟩
      · rintro ⟨rest', h⟩
        rw [h]
        rfl

/-- The check of a path asks for a rooted one after an authority, and for nothing more where there
is a scheme. -/
theorem checkPath_eq_ok_iff {authority : Bool} {path : String} :
    checkPath true authority path = .ok () ↔ (authority = true → RootedPath path.toList) := by
  unfold checkPath
  cases authority with
  | false => simp
  | true =>
      simp only [if_true, forall_const]
      constructor
      · intro h
        split at h
        · cases h
        · rename_i hne
          by_cases he : path = ""
          · rw [he]; exact rootedPath_nil
          · have hs : startsWith path "/" = true := by simpa [he] using hne
            obtain ⟨rest, hrest⟩ := (startsWith_slash_iff path).mp hs
            rw [hrest]
            exact rootedPath_slash rest
      · intro h
        rw [if_neg]
        rintro ⟨hne, hs⟩
        rcases h.cases with hp | hp
        · exact hne (String.toList_eq_nil_iff.mp hp)
        · rw [(startsWith_slash_iff path).mpr hp] at hs
          simp at hs

theorem rooted_of_parse {s : String} {u : Url} (h : parse s = .ok u) (hs : u.scheme ≠ "") :
    u.IsRooted := by
  unfold parse at h
  simp only [bind, Except.bind, pure, Except.pure] at h
  split at h
  · cases h
  · split at h
    · cases h
    · split at h
      · cases h
      · split at h
        · cases h
        · split at h
          · cases h
          · rename_i hcheck
            obtain rfl := Except.ok.inj h
            intro ha
            simp only [hs, ne_eq, not_false_eq_true, decide_true, Bool.true_or, if_true] at hcheck ⊢
            exact escapeText_rooted (dropDots_rooted (checkPath_eq_ok_iff.mp hcheck ha))

/-- An address with a scheme takes any path that is rooted. -/
theorem withTarget_eq_ok {u : Url} (hs : u.scheme ≠ "") {target : String}
    (ht : u.hasAuthority = true → RootedPath target.toList) :
    ∃ v, u.withTarget target = .ok v ∧ v.scheme = u.scheme ∧ v.IsRooted := by
  have hcut : u.hasAuthority = true →
      RootedPath (String.ofList (cut (· == '?') target.toList).1).toList := by
    intro ha
    rw [String.toList_ofList]
    exact cut_rooted (ht ha)
  have hcheck : checkPath true (u.userinfo ≠ "" || u.host ≠ "" || u.port.isSome)
      (String.ofList (cut (· == '?') target.toList).1) = .ok () := checkPath_eq_ok_iff.mpr hcut
  have hscheme : decide (u.scheme ≠ "") = true := by simp [hs]
  unfold withTarget
  dsimp only
  rw [hscheme, hcheck]
  simp only [bind, Except.bind, pure, Except.pure, Except.ok.injEq, exists_eq_left', true_and,
    Bool.true_or, if_true]
  intro ha
  -- the authority is not touched, but has to be laid open for that to be seen
  unfold hasAuthority at ha hcut
  exact escapeText_rooted (dropDots_rooted (hcut ha))

theorem scheme_of_withTarget {u v : Url} {target : String} (h : u.withTarget target = .ok v) :
    v.scheme = u.scheme := by
  unfold withTarget at h
  simp only [bind, Except.bind, pure, Except.pure] at h
  split at h
  · cases h
  · obtain rfl := Except.ok.inj h
    rfl

/-- The path with the query is rooted where the path is, whatever is put behind it. -/
theorem target_rooted {u : Url} (h : RootedPath u.path.toList) (more : String) :
    RootedPath (u.target ++ more).toList := by
  unfold target
  by_cases hp : u.path = ""
  · rw [if_pos hp]
    simp only [String.toList_append, List.append_assoc]
    exact rootedPath_slash _
  · rw [if_neg hp]
    rcases h.cases with he | ⟨rest, hrest⟩
    · exact absurd (String.toList_eq_nil_iff.mp he) hp
    · simp only [String.toList_append, hrest, List.cons_append]
      exact rootedPath_slash _

/-- **Every resource has an address below a base that has a scheme and could be read.** -/
theorem below_eq_ok {u : Url} (hs : u.scheme ≠ "") (hr : u.IsRooted) (resource : String) :
    ∃ v, u.below resource = .ok v ∧ v.scheme = u.scheme := by
  have hbase : u.hasAuthority = true →
      RootedPath (if endsWith u.target "/" then u.target else u.target ++ "/").toList := by
    intro ha
    split
    · simpa using target_rooted (hr ha) ""
    · exact target_rooted (hr ha) "/"
  obtain ⟨v, hv, hvs, hvr⟩ := withTarget_eq_ok hs hbase
  have hbelow : v.hasAuthority = true → RootedPath (v.target ++ resource).toList :=
    fun ha => target_rooted (hvr ha) resource
  obtain ⟨w, hw, hws, _⟩ := withTarget_eq_ok (hvs ▸ hs) hbelow
  refine ⟨w, ?_, by rw [hws, hvs]⟩
  rw [below]
  simp only [hv, bind, Except.bind]
  exact hw

theorem scheme_of_below {u v : Url} {resource : String} (h : u.below resource = .ok v) :
    v.scheme = u.scheme := by
  rw [below] at h
  simp only [bind, Except.bind] at h
  split at h
  · cases h
  · rename_i w hw
    rw [scheme_of_withTarget h, scheme_of_withTarget hw]

end Triage.Url
