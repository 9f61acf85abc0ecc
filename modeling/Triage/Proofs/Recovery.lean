import Triage.Proofs.Braces

/-!
# The object of a reply is recovered

What a model puts around the object it was asked for does no harm: prose or a fence in front, as
long as no brace opens there, and anything at all behind (`object_of_parse`).

Cutting the object out is the matter of `firstObject_of_parseChars`. What remains is that nothing of
it is lost before: space and fences are dropped at both ends of the reply, but an object begins with
an opening brace and ends with a closing one, and neither is space or part of a fence. `Holds` is
what every step of the dropping keeps.
-/

namespace Triage.Reply

open Text

variable {f : Char → Bool} {c : Char} {o s t : List Char}

/-! ## Dropping at the ends -/

theorem dropWhile_append_cons (h : f c = false) (s t : List Char) :
    (s ++ c :: t).dropWhile f = s.dropWhile f ++ c :: t := by
  rw [List.dropWhile_append, List.dropWhile_cons_of_neg (by simp [h])]
  cases hs : s.dropWhile f <;> simp

theorem dropEndWhile_append_cons (h : f c = false) (s t : List Char) :
    dropEndWhile f (s ++ c :: t) = s ++ c :: dropEndWhile f t := by
  have hreverse : (s ++ c :: t).reverse = t.reverse ++ c :: s.reverse := by simp
  rw [dropEndWhile, hreverse, dropWhile_append_cons h]
  simp [dropEndWhile]

/-- A text in braces. -/
def IsBraced (o : List Char) : Prop := ∃ inner, o = '{' :: (inner ++ ['}'])

theorem isBraced_of_ends (hfirst : o.head? = some '{') (hlast : o.getLast? = some '}') :
    IsBraced o := by
  obtain ⟨s, rfl⟩ := List.head?_eq_some_iff.mp hfirst
  obtain ⟨init, hinit⟩ := List.getLast?_eq_some_iff.mp hlast
  cases init with
  | nil => cases hinit
  | cons c inner =>
      obtain ⟨rfl, rfl⟩ := List.cons.inj hinit
      exact ⟨inner, rfl⟩

/-- The text `o` stands in another one, and no brace opens in front of it. -/
def Holds (o s : List Char) : Prop := ∃ p t, '{' ∉ p ∧ s = p ++ o ++ t

namespace Holds

theorem dropWhile (ho : IsBraced o) (hf : f '{' = false) (h : Holds o s) :
    Holds o (s.dropWhile f) := by
  obtain ⟨inner, rfl⟩ := ho
  obtain ⟨p, t, hp, rfl⟩ := h
  refine ⟨p.dropWhile f, t, fun hmem => hp ((List.dropWhile_sublist f).mem hmem), ?_⟩
  simp [dropWhile_append_cons hf]

theorem dropEndWhile (ho : IsBraced o) (hf : f '}' = false) (h : Holds o s) :
    Holds o (dropEndWhile f s) := by
  obtain ⟨inner, rfl⟩ := ho
  obtain ⟨p, t, hp, rfl⟩ := h
  refine ⟨p, Text.dropEndWhile f t, hp, ?_⟩
  have hsplit : p ++ '{' :: (inner ++ ['}']) ++ t = (p ++ '{' :: inner) ++ '}' :: t := by simp
  rw [hsplit, dropEndWhile_append_cons hf]
  simp

/-- A character in front that opens no brace is in front of the object. -/
theorem of_cons (ho : IsBraced o) (hc : c ≠ '{') (h : Holds o (c :: s)) : Holds o s := by
  obtain ⟨inner, rfl⟩ := ho
  obtain ⟨p, t, hp, hs⟩ := h
  cases p with
  | nil => exact absurd (List.cons.inj hs).1 hc
  | cons d p => exact ⟨p, t, fun hmem => hp (List.mem_cons_of_mem d hmem), (List.cons.inj hs).2⟩

/-- A character at the end that closes no brace is behind the object. -/
theorem of_concat (ho : IsBraced o) (hc : c ≠ '}') (h : Holds o (s ++ [c])) : Holds o s := by
  obtain ⟨inner, rfl⟩ := ho
  obtain ⟨p, t, hp, hs⟩ := h
  rcases List.eq_nil_or_concat t with rfl | ⟨t, d, rfl⟩
  · have hsplit : p ++ '{' :: (inner ++ ['}']) ++ [] = (p ++ '{' :: inner) ++ ['}'] := by simp
    rw [hsplit] at hs
    exact absurd (List.cons.inj (List.append_inj' hs rfl).2).1 hc
  · refine ⟨p, t, hp, ?_⟩
    rw [List.concat_eq_append, ← List.append_assoc] at hs
    exact (List.append_inj' hs rfl).1

theorem trimChars (ho : IsBraced o) (h : Holds o s) : Holds o (trimChars s) :=
  (h.dropWhile ho (by decide)).dropEndWhile ho (by decide)

theorem dropOpening (ho : IsBraced o) (h : Holds o s) : Holds o (dropOpening s) := by
  unfold Reply.dropOpening
  split
  · rename_i hfence
    obtain ⟨s, rfl⟩ := List.isPrefixOf_iff_prefix.mp hfence
    have hs : Holds o s := ((h.of_cons ho (by decide)).of_cons ho (by decide)).of_cons ho (by decide)
    exact (hs.dropWhile ho (by decide)).dropWhile ho (by decide)
  · exact h

theorem dropClosing (ho : IsBraced o) (h : Holds o s) : Holds o (dropClosing s) := by
  unfold Reply.dropClosing
  split
  · rename_i hfence
    obtain ⟨s, rfl⟩ := List.isSuffixOf_iff_suffix.mp hfence
    have hsplit : s ++ fence = s ++ ['`'] ++ ['`'] ++ ['`'] := by simp [fence]
    have hs : Holds o s := by
      rw [hsplit] at h
      exact ((h.of_concat ho (by decide)).of_concat ho (by decide)).of_concat ho (by decide)
    have htake : (s ++ fence).take ((s ++ fence).length - 3) = s := by simp [fence]
    rw [htake]
    exact hs.dropEndWhile ho (by decide)
  · exact h

theorem stripFences (ho : IsBraced o) (h : Holds o s) : Holds o (stripFences s) := by
  have htrimmed := h.trimChars ho
  unfold Reply.stripFences
  dsimp only
  split
  · exact (htrimmed.dropOpening ho).dropClosing ho
  · exact htrimmed

end Holds

/-- **An object that can be read is recovered from a reply**, whatever stands behind it and whatever
stands in front of it without opening a brace. -/
theorem object_of_parse {p o t : String} {fields : Record} (hp : '{' ∉ p.toList)
    (hfirst : o.toList.head? = some '{') (hlast : o.toList.getLast? = some '}')
    (ho : Json.parse o = .ok (.object fields)) : object (p ++ o ++ t) = .ok fields := by
  have hparse : Json.parseChars o.toList = .ok (.object fields) := ho
  have hholds : Holds o.toList (p ++ o ++ t).toList := ⟨p.toList, t.toList, hp, by simp⟩
  obtain ⟨front, back, hfront, hstripped⟩ := hholds.stripFences (isBraced_of_ends hfirst hlast)
  have hspan : firstObject (stripFences (p ++ o ++ t).toList) = some o.toList := by
    rw [hstripped]
    exact firstObject_of_parseChars hfront hfirst hlast hparse back
  unfold object
  simp only [hspan, hparse]

/-- An object whose one text holds a brace and a quote. -/
def tricky : String := "\x7b\"a\": \"\x7d\\\"\"\x7d"

/-- What has been read, if it is an object. -/
def read? : Except Json.ReadFault Json → Option Record
  | .ok (.object fields) => some fields
  | _ => none

/-- A fence with a language in front; behind it a brace and a quote that nothing opens. -/
theorem object_of_parse_tricky :
    ∃ fields, Json.parse tricky = .ok (.object fields) ∧
      object ("```json\n" ++ tricky ++ "\n```\x7d \"") = .ok fields := by
  have hread : (read? (Json.parse tricky)).isSome = true := by decide +kernel
  cases h : Json.parse tricky with
  | error fault =>
      rw [h] at hread
      cases hread
  | ok v =>
      cases v with
      | object fields =>
          exact ⟨fields, rfl, object_of_parse (by decide +kernel) (by decide +kernel)
            (by decide +kernel) h⟩
      | _ =>
          rw [h] at hread
          cases hread

end Triage.Reply
