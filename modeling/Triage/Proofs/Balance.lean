import Mathlib.Data.List.Infix
import Triage.Proofs.Braces

/-!
# The first object is the shortest balanced text

Where the first object of a text ends is said here without a scan. Leave out of a text all its
strings (`Outside`): it is balanced if in what remains as many braces close as open. The object that
is cut out is the shortest front that is balanced of the text from its first brace on
(`isExact_firstObject`).

Between the two stands `Scan`, the scan by the place that it has reached. Its depth is the number of
braces still open, whatever has been read so far (`Scan.depth_after`), and the scan is over at the
first front of a text after which none is (`Scan.rest_eq_some_iff`). A front that opens a brace and
has not closed it yet is followed by the rest of the scan (`Scan.rest_append`).
-/

namespace Triage.Reply

variable {P : List Char → Prop} {b o o' s t v : List Char} {c : Char}

/-! ## Shortest fronts -/

/-- The shortest front of a text that is not empty and of which `P` holds. -/
structure IsShortestFront (P : List Char → Prop) (s o : List Char) : Prop where
  front : o <+: s
  ne_nil : o ≠ []
  holds : P o
  least : ∀ t, t <+: s → t ≠ [] → P t → o <+: t

theorem IsShortestFront.congr {Q : List Char → Prop} (h : ∀ t, P t ↔ Q t) :
    IsShortestFront P s o ↔ IsShortestFront Q s o := by
  obtain rfl : P = Q := funext fun t => propext (h t)
  rfl

theorem IsShortestFront.unique (h : IsShortestFront P s o) (h' : IsShortestFront P s o') : o = o' :=
  (h.least o' h'.front h'.ne_nil h'.holds).eq_of_length_le
    (h'.least o h.front h.ne_nil h.holds).length_le

theorem isShortestFront_singleton (h : P [c]) (s : List Char) : IsShortestFront P (c :: s) [c] where
  front := ⟨s, rfl⟩
  ne_nil := List.cons_ne_nil c []
  holds := h
  least := by
    intro t ht hne _
    obtain ⟨d, t, rfl⟩ := List.exists_cons_of_ne_nil hne
    obtain ⟨rfl, -⟩ := List.cons_prefix_cons.mp ht
    exact ⟨t, rfl⟩

/-- Where one character is not enough, it stands in front of what is. -/
theorem isShortestFront_cons_iff (h : ¬ P [c]) :
    IsShortestFront P (c :: s) o ↔
      ∃ o', o = c :: o' ∧ IsShortestFront (fun t => P (c :: t)) s o' := by
  constructor
  · intro ho
    obtain ⟨d, o', rfl⟩ := List.exists_cons_of_ne_nil ho.ne_nil
    obtain ⟨rfl, hfront⟩ := List.cons_prefix_cons.mp ho.front
    refine ⟨o', rfl, hfront, ?_, ho.holds, fun t ht _ hP => ?_⟩
    · rintro rfl
      exact h ho.holds
    · have hleast := ho.least (d :: t) (List.cons_prefix_cons.mpr ⟨rfl, ht⟩)
        (List.cons_ne_nil d t) hP
      exact (List.cons_prefix_cons.mp hleast).2
  · rintro ⟨o', rfl, ho⟩
    refine ⟨List.cons_prefix_cons.mpr ⟨rfl, ho.front⟩, List.cons_ne_nil c o', ho.holds, ?_⟩
    intro t ht hne hP
    obtain ⟨d, t, rfl⟩ := List.exists_cons_of_ne_nil hne
    obtain ⟨rfl, hrest⟩ := List.cons_prefix_cons.mp ht
    have htne : t ≠ [] := by
      rintro rfl
      exact h hP
    exact List.cons_prefix_cons.mpr ⟨rfl, ho.least t hrest htne hP⟩

/-- Where some front will do, there is a shortest one. -/
theorem exists_isShortestFront (ht : t <+: s) (hne : t ≠ []) (hP : P t) :
    ∃ o, IsShortestFront P s o := by
  induction s generalizing P t with
  | nil => exact absurd (List.prefix_nil.mp ht) hne
  | cons c s ih =>
      by_cases hc : P [c]
      · exact ⟨[c], isShortestFront_singleton hc s⟩
      · obtain ⟨d, t, rfl⟩ := List.exists_cons_of_ne_nil hne
        obtain ⟨rfl, hrest⟩ := List.cons_prefix_cons.mp ht
        have htne : t ≠ [] := by
          rintro rfl
          exact hc hP
        obtain ⟨o, ho⟩ := ih (P := fun t => P (d :: t)) hrest htne hP
        exact ⟨d :: o, (isShortestFront_cons_iff hc).mpr ⟨o, rfl, ho⟩⟩

/-! ## The place of a scan -/

/-- The place that a scan has reached: how many more braces have opened than closed, and whether it
is in a string, where a backslash has just been read. -/
structure Scan where
  depth : Int
  inString : Bool
  escaped : Bool
  deriving DecidableEq, Repr

namespace Scan

variable {q : Scan}

/-- The place where a scan begins. -/
def start : Scan := ⟨0, false, false⟩

/-- The place one character further. -/
def next (q : Scan) (c : Char) : Scan :=
  if q.escaped then { q with escaped := false }
  else if c = '\\' then { q with escaped := q.inString }
  else if c = '"' then { q with inString := !q.inString }
  else if q.inString then q
  else if c = '{' then { q with depth := q.depth + 1 }
  else if c = '}' then { q with depth := q.depth - 1 }
  else q

/-- The place at the end of a text. -/
def after (q : Scan) (s : List Char) : Scan := s.foldl next q

@[simp] theorem after_nil (q : Scan) : q.after [] = q := rfl

@[simp] theorem after_cons (q : Scan) (c : Char) (s : List Char) :
    q.after (c :: s) = (q.next c).after s := rfl

theorem after_append (q : Scan) (s t : List Char) : q.after (s ++ t) = (q.after s).after t :=
  List.foldl_append

/-- What a scan at this place cuts out of the text before it. -/
def rest (q : Scan) (s : List Char) : Option (List Char) :=
  closing q.depth.toNat q.inString q.escaped s

/-- One character closes at most one brace. -/
theorem depth_sub_one_le (q : Scan) (c : Char) : q.depth - 1 ≤ (q.next c).depth := by
  obtain ⟨depth, inString, escaped⟩ := q
  unfold next
  split_ifs <;> dsimp only <;> omega

/-- As long as a brace is open, the scan goes on with the next character. -/
theorem rest_cons_of_pos (h : 0 < (q.next c).depth) (s : List Char) :
    q.rest (c :: s) = ((q.next c).rest s).map (c :: ·) := by
  obtain ⟨depth, inString, escaped⟩ := q
  unfold next at h
  unfold rest next
  rw [closing]
  dsimp only at h ⊢
  split_ifs at h ⊢ with hescaped hslash hquote hstring hopen hclose hlast
  · rfl
  · rfl
  · rw [Bool.not_eq_true] at hescaped
    rw [hescaped]
  · rw [Bool.not_eq_true] at hescaped
    rw [hescaped, hstring]
  · have hdepth : (depth + 1).toNat = depth.toNat + 1 := by dsimp only at h; omega
    rw [Bool.not_eq_true] at hescaped hstring
    dsimp only
    rw [hescaped, hstring, hdepth]
  · dsimp only at h
    omega
  · have hdepth : (depth - 1).toNat = depth.toNat - 1 := by omega
    rw [Bool.not_eq_true] at hescaped hstring
    dsimp only
    rw [hescaped, hstring, hdepth]
  · rw [Bool.not_eq_true] at hescaped hstring
    rw [hescaped, hstring]

theorem rest_cons_eq_some_iff (h : 0 < (q.next c).depth) :
    q.rest (c :: s) = some o ↔ ∃ o', o = c :: o' ∧ (q.next c).rest s = some o' := by
  rw [rest_cons_of_pos h, Option.map_eq_some_iff]
  constructor
  · rintro ⟨o', ho', rfl⟩
    exact ⟨o', rfl, ho'⟩
  · rintro ⟨o', rfl, ho'⟩
    exact ⟨o', ho', rfl⟩

/-- It is over where the last brace is closed. -/
theorem rest_cons_of_closed (hq : 0 < q.depth) (h : (q.next c).depth = 0) (s : List Char) :
    q.rest (c :: s) = some [c] := by
  obtain ⟨depth, inString, escaped⟩ := q
  unfold next at h
  unfold rest
  rw [closing]
  dsimp only at hq h ⊢
  split_ifs at h ⊢ with hescaped hslash hquote hstring hopen hclose hlast
  all_goals dsimp only at h
  all_goals first | rfl | omega

/-- **A scan is over at the first front after which no brace is open.** -/
theorem rest_eq_some_iff (hq : 0 < q.depth) :
    q.rest s = some o ↔ IsShortestFront (fun t => (q.after t).depth = 0) s o := by
  induction s generalizing q o with
  | nil =>
      constructor
      · intro h
        cases h
      · intro h
        exact absurd (List.prefix_nil.mp h.front) h.ne_nil
  | cons c s ih =>
      by_cases hc : (q.next c).depth = 0
      · have hfirst : IsShortestFront (fun t => (q.after t).depth = 0) (c :: s) [c] :=
          isShortestFront_singleton hc s
        rw [rest_cons_of_closed hq hc]
        constructor
        · rintro ⟨rfl⟩
          exact hfirst
        · intro ho
          rw [hfirst.unique ho]
      · have hpos : 0 < (q.next c).depth := by
          have hstep := q.depth_sub_one_le c
          omega
        rw [rest_cons_eq_some_iff hpos, isShortestFront_cons_iff hc]
        simp only [ih hpos, after_cons]

/-- Until some front has none open, a brace is. -/
theorem depth_after_pos (hq : 0 < q.depth)
    (h : ∀ t, t <+: s → t ≠ [] → (q.after t).depth ≠ 0) : 0 < (q.after s).depth := by
  induction s generalizing q with
  | nil => exact hq
  | cons c s ih =>
      have hstep := q.depth_sub_one_le c
      have hc : (q.next c).depth ≠ 0 :=
        h [c] (List.cons_prefix_cons.mpr ⟨rfl, List.nil_prefix⟩) (List.cons_ne_nil c [])
      refine ih (q := q.next c) (by omega) fun t ht _ => ?_
      exact h (c :: t) (List.cons_prefix_cons.mpr ⟨rfl, ht⟩) (List.cons_ne_nil c t)

/-- A front that always has a brace open is followed by the rest of the scan. -/
theorem rest_append (h : ∀ t, t <+: s → t ≠ [] → 0 < (q.after t).depth) (u : List Char) :
    q.rest (s ++ u) = ((q.after s).rest u).map (s ++ ·) := by
  induction s generalizing q with
  | nil => simp
  | cons c s ih =>
      have hc : 0 < (q.next c).depth :=
        h [c] (List.cons_prefix_cons.mpr ⟨rfl, List.nil_prefix⟩) (List.cons_ne_nil c [])
      have hs := ih (q := q.next c) fun t ht _ =>
        h (c :: t) (List.cons_prefix_cons.mpr ⟨rfl, ht⟩) (List.cons_ne_nil c t)
      rw [List.cons_append, rest_cons_of_pos hc, hs, Option.map_map]
      rfl

end Scan

/-! ## Texts without their strings -/

/-- What stands between the quotes of a string: a backslash takes the next character along, and
there is no other quote. -/
inductive IsBody : List Char → Prop where
  | nil : IsBody []
  | char {c : Char} {b : List Char} : c ≠ '"' → c ≠ '\\' → IsBody b → IsBody (c :: b)
  | escape {c : Char} {b : List Char} : IsBody b → IsBody ('\\' :: c :: b)

/-- `Outside s v` says that `v` is the text `s` without its strings. A string begins at a quote and
ends at the next one that has not been taken along by a backslash. One that does not end goes on to
the end of the text, where a last backslash may find nothing to take along. -/
inductive Outside : List Char → List Char → Prop where
  | nil : Outside [] []
  | char {c : Char} {s v : List Char} : c ≠ '"' → Outside s v → Outside (c :: s) (c :: v)
  | string {b s v : List Char} : IsBody b → Outside s v → Outside ('"' :: (b ++ '"' :: s)) v
  | unclosed {b t : List Char} : IsBody b → t = [] ∨ t = ['\\'] → Outside ('"' :: (b ++ t)) []

/-- Outside of strings as many braces close as open. -/
def IsBalanced (s : List Char) : Prop := ∃ v, Outside s v ∧ v.count '{' = v.count '}'

/-- Behind a quote a string ends somewhere, or it does not. -/
theorem isBody_or_of_quote : (s : List Char) →
    (∃ b t, IsBody b ∧ s = b ++ '"' :: t) ∨
      ∃ b t, IsBody b ∧ (t = [] ∨ t = ['\\']) ∧ s = b ++ t
  | [] => .inr ⟨[], [], .nil, .inl rfl, rfl⟩
  | c :: s => by
      by_cases hquote : c = '"'
      · exact .inl ⟨[], s, .nil, by rw [hquote]; rfl⟩
      by_cases hslash : c = '\\'
      · subst hslash
        match s with
        | [] => exact .inr ⟨[], ['\\'], .nil, .inr rfl, rfl⟩
        | d :: s =>
            -- the character behind a backslash is taken along, even if it is a quote
            rcases isBody_or_of_quote s with ⟨b, t, hb, rfl⟩ | ⟨b, t, hb, ht, rfl⟩
            · exact .inl ⟨'\\' :: d :: b, t, hb.escape, rfl⟩
            · exact .inr ⟨'\\' :: d :: b, t, hb.escape, ht, rfl⟩
      · rcases isBody_or_of_quote s with ⟨b, t, hb, rfl⟩ | ⟨b, t, hb, ht, rfl⟩
        · exact .inl ⟨c :: b, t, hb.char hquote hslash, rfl⟩
        · exact .inr ⟨c :: b, t, hb.char hquote hslash, ht, rfl⟩
termination_by s => s.length

/-- Every text has its strings. -/
theorem exists_outside (s : List Char) : ∃ v, Outside s v := by
  induction hn : s.length using Nat.strong_induction_on generalizing s with
  | _ n ih =>
      cases s with
      | nil => exact ⟨[], .nil⟩
      | cons c s =>
          rw [List.length_cons] at hn
          by_cases hquote : c = '"'
          · rcases isBody_or_of_quote s with ⟨b, t, hb, rfl⟩ | ⟨b, t, hb, ht, rfl⟩
            · rw [List.length_append, List.length_cons] at hn
              obtain ⟨v, hv⟩ := ih t.length (by omega) t rfl
              exact ⟨v, hquote ▸ .string hb hv⟩
            · exact ⟨[], hquote ▸ .unclosed hb ht⟩
          · obtain ⟨v, hv⟩ := ih s.length (by omega) s rfl
            exact ⟨c :: v, hv.char hquote⟩

namespace Scan

theorem after_body (h : IsBody b) (depth : Int) :
    (⟨depth, true, false⟩ : Scan).after b = ⟨depth, true, false⟩ := by
  induction h with
  | nil => rfl
  | char hquote hslash _ ih => simpa [next, hquote, hslash] using ih
  | escape _ ih => simpa [next] using ih

/-- Outside of strings a brace changes the depth, and only a quote begins a string. -/
theorem next_of_ne_quote (h : c ≠ '"') (depth : Int) :
    (⟨depth, false, false⟩ : Scan).next c =
      ⟨depth + [c].count '{' - [c].count '}', false, false⟩ := by
  by_cases hslash : c = '\\'
  · simp [hslash, next]
  by_cases hopen : c = '{'
  · simp [hopen, next]
  by_cases hclose : c = '}'
  · simp [hclose, next]
  · simp [next, h, hslash, hopen, hclose]

/-- **The depth of a scan is the number of braces open outside of strings.** -/
theorem depth_after (h : Outside s v) (depth : Int) :
    ((⟨depth, false, false⟩ : Scan).after s).depth = depth + v.count '{' - v.count '}' := by
  induction h generalizing depth with
  | nil => simp
  | @char c s v hquote _ ih =>
      have hcount (x : Char) : (c :: v).count x = [c].count x + v.count x := by
        rw [← List.count_append, List.singleton_append]
      rw [after_cons, next_of_ne_quote hquote, ih, hcount, hcount]
      omega
  | string hb _ ih =>
      rw [after_cons, after_append]
      simp [next, after_body hb, ih]
  | unclosed hb ht =>
      rw [after_cons, after_append]
      rcases ht with rfl | rfl <;> simp [next, after_body hb]

end Scan

theorem isBalanced_iff : IsBalanced s ↔ (Scan.start.after s).depth = 0 := by
  constructor
  · rintro ⟨v, hv, hcount⟩
    have hdepth := Scan.depth_after hv 0
    rw [Scan.start]
    omega
  · intro h
    obtain ⟨v, hv⟩ := exists_outside s
    have hdepth := Scan.depth_after hv 0
    rw [Scan.start] at h
    exact ⟨v, hv, by omega⟩

/-! ## The first object -/

/-- `t` is the text `s` from its first brace on. -/
def IsFromBrace (s t : List Char) : Prop := ∃ p, s = p ++ t ∧ '{' ∉ p ∧ t.head? = some '{'

theorem IsFromBrace.head (h : IsFromBrace s t) : t.head? = some '{' := by
  obtain ⟨-, -, -, hhead⟩ := h
  exact hhead

theorem exists_isFromBrace_iff : (∃ t, IsFromBrace s t) ↔ '{' ∈ s := by
  constructor
  · rintro ⟨t, p, rfl, -, hhead⟩
    exact List.mem_append_right p (List.mem_of_head? hhead)
  · intro h
    obtain ⟨p, t, hs, hp⟩ := List.eq_append_cons_of_mem h
    exact ⟨'{' :: t, p, hs, hp, rfl⟩

/-- What is cut out of a text is cut out of it from its first brace on. -/
theorem firstObject_of_isFromBrace (h : IsFromBrace s t) : firstObject s = Scan.start.rest t := by
  obtain ⟨p, rfl, hp, hhead⟩ := h
  obtain ⟨t, rfl⟩ := List.head?_eq_some_iff.mp hhead
  rw [firstObject, dropWhile_ne_brace hp]
  rfl

theorem firstObject_of_not_mem (h : '{' ∉ s) : firstObject s = none := by
  have hempty : s.dropWhile (· ≠ '{') = [] := by
    refine List.dropWhile_eq_nil_iff.mpr fun c hc => ?_
    have hne : c ≠ '{' := by
      rintro rfl
      exact h hc
    simpa using hne
  rw [firstObject, hempty]
  rfl

/-- **From a brace on, the shortest balanced front is cut out.** -/
theorem rest_start_eq_some_iff (h : t.head? = some '{') :
    Scan.start.rest t = some o ↔ IsShortestFront IsBalanced t o := by
  obtain ⟨t, rfl⟩ := List.head?_eq_some_iff.mp h
  have hpos : 0 < (Scan.start.next '{').depth := by decide
  have hopen : ¬ (Scan.start.after ['{']).depth = 0 := by decide
  rw [IsShortestFront.congr fun _ => isBalanced_iff, isShortestFront_cons_iff hopen,
    Scan.rest_cons_eq_some_iff hpos]
  simp only [Scan.rest_eq_some_iff hpos, Scan.after_cons]

theorem firstObject_eq_some_iff :
    firstObject s = some o ↔ ∃ t, IsFromBrace s t ∧ IsShortestFront IsBalanced t o := by
  constructor
  · intro ho
    have hs : '{' ∈ s := by
      by_contra hs
      rw [firstObject_of_not_mem hs] at ho
      cases ho
    obtain ⟨t, ht⟩ := exists_isFromBrace_iff.mpr hs
    rw [firstObject_of_isFromBrace ht] at ho
    exact ⟨t, ht, (rest_start_eq_some_iff ht.head).mp ho⟩
  · rintro ⟨t, ht, ho⟩
    rw [firstObject_of_isFromBrace ht]
    exact (rest_start_eq_some_iff ht.head).mpr ho

theorem firstObject_eq_none_iff :
    firstObject s = none ↔
      '{' ∉ s ∨ ∃ t, IsFromBrace s t ∧ ∀ o, o <+: t → o ≠ [] → ¬ IsBalanced o := by
  constructor
  · intro h
    refine Decidable.or_iff_not_imp_left.mpr fun hs => ?_
    obtain ⟨t, ht⟩ := exists_isFromBrace_iff.mpr (not_not.mp hs)
    refine ⟨t, ht, fun front hfront hne hbalanced => ?_⟩
    obtain ⟨o, ho⟩ := exists_isShortestFront hfront hne hbalanced
    rw [firstObject_eq_some_iff.mpr ⟨t, ht, ho⟩] at h
    cases h
  · rintro (hs | ⟨t, ht, hnone⟩)
    · exact firstObject_of_not_mem hs
    · refine Option.eq_none_iff_forall_ne_some.mpr fun o ho => ?_
      rw [firstObject_of_isFromBrace ht] at ho
      have hshortest := (rest_start_eq_some_iff ht.head).mp ho
      exact hnone o hshortest.front hshortest.ne_nil hshortest.holds

/-! ## Within the first object -/

/-- Of the text from its first brace on, the front `done` has been read, and the object is not
complete. -/
structure IsWithin (s t done : List Char) : Prop where
  fromBrace : IsFromBrace s t
  front : done <+: t
  ne_nil : done ≠ []
  incomplete : ∀ o, firstObject s = some o → ¬ o <+: done

namespace IsWithin

variable {done u : List Char}

theorem of_front (h : IsWithin s t done) (hu : u <+: done) (hne : u ≠ []) : IsWithin s t u :=
  ⟨h.fromBrace, hu.trans h.front, hne, fun o ho hou => h.incomplete o ho (hou.trans hu)⟩

/-- Until the object is complete, no front is balanced. -/
theorem not_isBalanced (h : IsWithin s t done) : ¬ IsBalanced done := by
  intro hbalanced
  obtain ⟨o, ho⟩ := exists_isShortestFront h.front h.ne_nil hbalanced
  exact h.incomplete o (firstObject_eq_some_iff.mpr ⟨t, h.fromBrace, ho⟩)
    (ho.least done h.front h.ne_nil hbalanced)

/-- **Until the object is complete, a brace is open.** -/
theorem depth_pos (h : IsWithin s t done) : 0 < (Scan.start.after done).depth := by
  obtain ⟨c, u, rfl⟩ := List.exists_cons_of_ne_nil h.ne_nil
  obtain ⟨t', rfl⟩ := List.head?_eq_some_iff.mp h.fromBrace.head
  obtain ⟨rfl, -⟩ := List.cons_prefix_cons.mp h.front
  refine Scan.depth_after_pos (q := Scan.start.next '{') (by decide) fun v hv _ hzero => ?_
  have hfront : '{' :: v <+: '{' :: u := List.cons_prefix_cons.mpr ⟨rfl, hv⟩
  exact (h.of_front hfront (List.cons_ne_nil _ _)).not_isBalanced (isBalanced_iff.mpr hzero)

/-- What is still cut out is cut out from there. -/
theorem firstObject_eq (h : IsWithin s (done ++ u) done) :
    firstObject s = ((Scan.start.after done).rest u).map (done ++ ·) := by
  rw [firstObject_of_isFromBrace h.fromBrace]
  exact Scan.rest_append (fun v hv hne => (h.of_front hv hne).depth_pos) u

end IsWithin

/-! ## The value that is read -/

/-- What begins with a brace is read as an object or not at all. -/
theorem exists_object_of_value {spell : List Text.Point → String} {fuel : Nat} {value : Json}
    {rest : List Char}
    (h : Json.value spell fuel ('{' :: s) = .ok (value, rest)) : ∃ fields, value = .object fields := by
  cases fuel with
  | zero => cases h
  | succ fuel =>
      rw [Json.value] at h
      split at h
      · cases h
        exact ⟨[], rfl⟩
      · obtain ⟨⟨fields, _⟩, -, heq⟩ := ok_of_map h
        cases heq
        exact ⟨fields, rfl⟩

theorem exists_object_of_parseChars {value : Json} (hhead : s.head? = some '{')
    (h : Json.parseChars s = .ok value) : ∃ fields, value = .object fields := by
  obtain ⟨s, rfl⟩ := List.head?_eq_some_iff.mp hhead
  have hdocument : Json.parseDocument ('{' :: s) = .ok value := h
  obtain ⟨⟨read, rest⟩, hvalue, hrest⟩ := bind_eq_ok_iff.mp hdocument
  obtain ⟨fields, rfl⟩ := exists_object_of_value hvalue
  dsimp only at hrest
  split at hrest
  · cases hrest
    exact ⟨fields, rfl⟩
  · cases hrest

theorem head?_of_firstObject (h : firstObject s = some o) : o.head? = some '{' := by
  obtain ⟨t, ht, ho⟩ := firstObject_eq_some_iff.mp h
  obtain ⟨c, o, rfl⟩ := List.exists_cons_of_ne_nil ho.ne_nil
  obtain ⟨t', rfl⟩ := List.head?_eq_some_iff.mp ht.head
  obtain ⟨rfl, -⟩ := List.cons_prefix_cons.mp ho.front
  rfl

/-- Nothing else than an object is ever read in a reply. -/
theorem object_ne_otherValue (content : String) : object content ≠ .error .otherValue := by
  unfold object
  dsimp only
  split
  · simp
  · rename_i span hspan
    split
    · simp
    · simp
    · rename_i value hne hread
      obtain ⟨fields, rfl⟩ := exists_object_of_parseChars (head?_of_firstObject hspan) hread
      exact absurd rfl (hne fields)

/-! ## Exactness -/

/-- What the first object of a text is. -/
structure IsExact (s : List Char) : Prop where
  /-- It is the shortest balanced front of the text from its first brace on. -/
  span : ∀ o, firstObject s = some o ↔ ∃ t, IsFromBrace s t ∧ IsShortestFront IsBalanced t o
  /-- There is none exactly where there is no brace or no such front. -/
  none : firstObject s = none ↔
    '{' ∉ s ∨ ∃ t, IsFromBrace s t ∧ ∀ o, o <+: t → o ≠ [] → ¬ IsBalanced o
  /-- At every step until the object is complete, the depth at which the scan goes on is at least
  one. -/
  depth : ∀ done u, IsWithin s (done ++ u) done →
    1 ≤ (Scan.start.after done).depth ∧
      firstObject s = ((Scan.start.after done).rest u).map (done ++ ·)
  /-- The depth is the number of the braces that are open outside of strings. -/
  counted : ∀ done v, Outside done v → (Scan.start.after done).depth = v.count '{' - v.count '}'
  /-- Whatever value can be read of it is an object. -/
  read : ∀ o value, firstObject s = some o → Json.parseChars o = .ok value →
    ∃ fields, value = .object fields
  /-- So no reply is refused for holding another value. -/
  refused : object (String.ofList s) ≠ .error .otherValue

/-- **The first object of any text is exact.** -/
theorem isExact_firstObject (s : List Char) : IsExact s where
  span := fun _ => firstObject_eq_some_iff
  none := firstObject_eq_none_iff
  depth := fun _ _ h => ⟨h.depth_pos, h.firstObject_eq⟩
  counted := by
    intro done v h
    have hdepth := Scan.depth_after h 0
    rw [Scan.start, hdepth, Int.zero_add]
  read := fun _ _ ho hread => exists_object_of_parseChars (head?_of_firstObject ho) hread
  refused := object_ne_otherValue _

/-- A backslash outside of strings takes nothing along: the quote behind it opens a string, and the
brace in that does not count. -/
example : firstObject "a \x7b\\\"\x7d\"\x7d \x7d".toList = some "\x7b\\\"\x7d\"\x7d".toList := by
  decide +kernel

end Triage.Reply
