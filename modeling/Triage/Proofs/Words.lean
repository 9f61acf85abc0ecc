import Triage.Text.Basic

/-!
# The words of a text

The words of a text are what stands between space (`Text.words`). A space cuts a text into two,
and its words with it (`Text.words_of_split`), so what holds of texts without space carries over
to all texts from space to space. The first word is what stands in front of the first space
(`Text.head?_words`).
-/

namespace Triage.Text

variable {s a b : String} {x : Char}

/-- The words of a text: what stands between space. None of them is empty. -/
def words (s : String) : List String :=
  ((s.toList.splitOnP isSpace).filter fun w => !w.isEmpty).map String.ofList

example : words " gcloud compute\tssh  " = ["gcloud", "compute", "ssh"] := by decide

/-- The words of a text that a space cuts into two are those of the one part and of the other. -/
theorem words_of_split (hx : isSpace x = true) (h : s.toList = a.toList ++ x :: b.toList) :
    words s = words a ++ words b := by
  unfold words
  rw [h, List.splitOnP_append_cons _ _ hx, List.filter_append, List.map_append]

/-- There is no space in the text. -/
def isSolid (s : String) : Bool := s.toList.all fun c => !isSpace c

theorem isSolid_iff : isSolid s = true ↔ ∀ c ∈ s.toList, isSpace c = false := by
  simp [isSolid]

/-- A text without space is one word. -/
theorem words_of_isSolid (hne : s ≠ "") (h : isSolid s = true) : words s = [s] := by
  have hchars : s.toList.isEmpty = false := by simpa using hne
  unfold words
  rw [List.splitOnP_eq_singleton (isSolid_iff.mp h), List.filter_cons_of_pos (by rw [hchars]; rfl),
    List.filter_nil, List.map_singleton, String.ofList_toList]

/-- A text is without space, or a space cuts it into two. -/
theorem isSolid_or_split (s : String) :
    isSolid s = true ∨
      ∃ (a : String) (x : Char) (b : String),
        isSpace x = true ∧ s.toList = a.toList ++ x :: b.toList := by
  by_cases h : ∃ x ∈ s.toList, isSpace x = true
  · obtain ⟨x, hmem, hx⟩ := h
    obtain ⟨l, r, hsplit⟩ := List.append_of_mem hmem
    exact .inr ⟨String.ofList l, x, String.ofList r, hx, by simpa using hsplit⟩
  · refine .inl (isSolid_iff.mpr fun c hc => ?_)
    exact Bool.eq_false_iff.mpr fun hspace => h ⟨c, hc, hspace⟩

/-- A text that does not begin with space begins with its first word. -/
theorem head?_words {c : Char} (hc : s.toList.head? = some c) (hspace : isSpace c = false) :
    (words s).head? = some (String.ofList (s.toList.takeWhile fun c => !isSpace c)) := by
  generalize hfirst : String.ofList (s.toList.takeWhile fun c => !isSpace c) = first
  have hchars : s.toList.takeWhile (fun c => !isSpace c) = first.toList := by
    rw [← hfirst, String.toList_ofList]
  have hword : words first = [first] := by
    refine words_of_isSolid ?_ ?_
    · rintro rfl
      obtain ⟨rest, hrest⟩ := List.head?_eq_some_iff.mp hc
      rw [hrest, List.takeWhile_cons_of_pos (by rw [hspace]; rfl)] at hchars
      cases hchars
    · rw [isSolid, ← hchars]
      exact List.all_takeWhile
  have hsplit := List.takeWhile_append_dropWhile (p := fun c => !isSpace c) (l := s.toList)
  rw [hchars] at hsplit
  cases hdrop : s.toList.dropWhile fun c => !isSpace c with
  | nil =>
      rw [hdrop, List.append_nil, String.toList_inj] at hsplit
      rw [← hsplit, hword, List.head?_cons]
  | cons x rest =>
      have hx : isSpace x = true := by
        have hstop := List.head?_dropWhile_not (fun c => !isSpace c) s.toList
        rw [hdrop] at hstop
        simpa using hstop
      have hcut : s.toList = first.toList ++ x :: (String.ofList rest).toList := by
        rw [String.toList_ofList, ← hdrop, hsplit]
      rw [words_of_split hx hcut, hword, List.singleton_append, List.head?_cons]

section Front

variable {w : String} {rest : List Char}

/-- The first word of a text reaches from a front without space to the first space behind it. -/
theorem head?_words_of_front (hne : w ≠ "") (hw : isSolid w = true)
    (h : s.toList = w.toList ++ rest) :
    (words s).head? = some (String.ofList (w.toList ++ rest.takeWhile fun c => !isSpace c)) := by
  obtain ⟨c, tail, hfront⟩ := List.exists_cons_of_ne_nil (mt String.toList_eq_nil_iff.mp hne)
  have hhead : s.toList.head? = some c := by
    rw [h, hfront]
    rfl
  have hchars := isSolid_iff.mp hw
  rw [head?_words hhead (hchars c (by rw [hfront]; exact List.mem_cons_self)), h,
    List.takeWhile_append_of_pos]
  exact fun d hd => by rw [hchars d hd]; rfl

/-- The front is the first word itself exactly where nothing follows it or space does. -/
theorem head?_words_eq_front_iff (hne : w ≠ "") (hw : isSolid w = true)
    (h : s.toList = w.toList ++ rest) :
    (words s).head? = some w ↔ rest = [] ∨ ∃ x tail, rest = x :: tail ∧ isSpace x = true := by
  rw [head?_words_of_front hne hw h, Option.some.injEq, ← String.toList_inj, String.toList_ofList,
    List.append_right_eq_self]
  cases rest with
  | nil => simp
  | cons x tail => simp [List.takeWhile_cons]

end Front

end Triage.Text
