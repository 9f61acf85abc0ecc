import Triage.Regex.Matcher

/-!
# What a group has captured

The matcher goes through the ways of an expression in order of preference and takes the first one
that works out. What it takes is in any case one of the ways that the expression has: `Node.Leads`
lists them without an order, without counting the turns of a loop and without what a look must not
find, and every result of `Node.run` is among them (`leads_of_run`).

From that follows what one may rely on in a captured text: it was consumed by the body of the group
(`leads_of_group`). Groups are entered again by loops and by other attempts, and the two ends of a
capture are recorded apart; that they belong together is what has to be proved, by induction over the
way taken (`span_of_leads`). A group must not stand inside itself for that, and no reader makes one
that does.
-/

namespace Triage.Regex

variable {text : Array Char}

/-- A way in which an expression may lead from one place to another. -/
inductive Node.Leads (text : Array Char) : Node → Place → Place → Prop where
  | empty {p : Place} : Leads text .empty p p
  | one {test : CharTest} {p : Place} {c : Char} :
      text[p.pos]? = some c → test.holds c = true →
      Leads text (.one test) p { p with pos := p.pos + 1 }
  | anchor {spot : Anchor} {p : Place} : Leads text (.anchor spot) p p
  | backref {rule : CaseRule} {index a b : Nat} {p : Place} :
      p.span? index = some (a, b) →
      Leads text (.backref rule index) p { p with pos := p.pos + (b - a) }
  | seq {first second : Node} {p m q : Place} :
      Leads text first p m → Leads text second m q → Leads text (.seq first second) p q
  | first {first second : Node} {p q : Place} :
      Leads text first p q → Leads text (.alt first second) p q
  | second {first second : Node} {p q : Place} :
      Leads text second p q → Leads text (.alt first second) p q
  | bundle {body : Node} {p q : Place} : Leads text body p q → Leads text (.group none body) p q
  | capture {index : Nat} {body : Node} {p q : Place} :
      Leads text body { p with starts := record index p.pos p.starts } q →
      Leads text (.group (some index) body) p { q with ends := record index q.pos q.ends }
  | leave {greed : Greed} {least : Nat} {most : Option Nat} {body : Node} {p : Place} :
      Leads text (.loop greed least most body) p p
  | turn {greed : Greed} {least : Nat} {most : Option Nat} {body : Node} {p m q : Place} :
      Leads text body p m → Leads text (.loop greed least most body) m q →
      Leads text (.loop greed least most body) p q
  | atomic {body : Node} {p q : Place} : Leads text body p q → Leads text (.atomic body) p q
  | ahead {body : Node} {p q : Place} :
      Leads text body p q → Leads text (.ahead false body) p { q with pos := p.pos }
  | notAhead {body : Node} {p : Place} : Leads text (.ahead true body) p p
  | behind {width : Nat} {body : Node} {p q : Place} :
      Leads text body { p with pos := p.pos - width } q →
      Leads text (.behind false width body) p { q with pos := p.pos }
  | notBehind {width : Nat} {body : Node} {p : Place} : Leads text (.behind true width body) p p
  | yes {index : Nat} {yes no : Node} {p q : Place} :
      Leads text yes p q → Leads text (.conditional index yes no) p q
  | no {index : Nat} {yes no : Node} {p q : Place} :
      Leads text no p q → Leads text (.conditional index yes no) p q

open Node (Leads)

/-! ## The matcher takes one of the ways -/

/-- Whatever the rest accepts was reached by way of the expression. -/
def IsSound (text : Array Char) (node : Node) : Prop :=
  ∀ (p final : Place) (next : Next), node.run text p next = some final →
    ∃ q, Leads text node p q ∧ next q = some final

theorem IsSound.leads {node : Node} {p q : Place} (hnode : IsSound text node)
    (h : node.run text p some = some q) : Leads text node p q := by
  obtain ⟨_, hleads, ⟨⟩⟩ := hnode p q some h
  exact hleads

section Loops

variable {body : Node} {greed : Greed} {least count fuel : Nat} {most last : Option Nat}
  {next : Next} {p q final : Place}

/-- A turn, and then what the loop does after it. -/
theorem leads_of_turn {after : Next} (hbody : IsSound text body)
    (hafter : ∀ m, after m = some final →
      ∃ q, Leads text (.loop greed least most body) m q ∧ next q = some final)
    (h : body.run text p after = some final) :
    ∃ q, Leads text (.loop greed least most body) p q ∧ next q = some final := by
  obtain ⟨m, hturn, hm⟩ := hbody p final after h
  obtain ⟨q, hrest, hq⟩ := hafter m hm
  exact ⟨q, .turn hturn hrest, hq⟩

theorem leads_of_greedy (hbody : IsSound text body)
    (h : greedy (body.run text) least most next fuel count last p = some final) :
    ∃ q, Leads text (.loop greed least most body) p q ∧ next q = some final := by
  -- how many turns have been taken and where the last one began does not matter for a way
  induction fuel generalizing count last p with
  | zero => cases h
  | succ fuel ih =>
      rw [greedy] at h
      split at h
      · exact leads_of_turn hbody (fun _ => ih) h
      · split at h
        · split at h
          · rename_i hturn
            cases h
            exact leads_of_turn hbody (fun _ => ih) hturn
          · exact ⟨p, .leave, h⟩
        · exact ⟨p, .leave, h⟩

theorem leads_of_lazily (hbody : IsSound text body)
    (h : lazily (body.run text) least most next fuel count last p = some final) :
    ∃ q, Leads text (.loop greed least most body) p q ∧ next q = some final := by
  induction fuel generalizing count last p with
  | zero => cases h
  | succ fuel ih =>
      rw [lazily] at h
      split at h
      · exact leads_of_turn hbody (fun _ => ih) h
      · split at h
        · rename_i hnext
          cases h
          exact ⟨p, .leave, hnext⟩
        · split at h
          · exact leads_of_turn hbody (fun _ => ih) h
          · cases h

theorem leads_of_possessively (hbody : IsSound text body)
    (h : possessively (body.run text) least most fuel count last p = some q) :
    Leads text (.loop greed least most body) p q := by
  induction fuel generalizing count last p with
  | zero =>
      cases h
      exact .leave
  | succ fuel ih =>
      rw [possessively] at h
      split at h
      · obtain ⟨m, hturn, hrest⟩ := Option.bind_eq_some_iff.mp h
        exact .turn (hbody.leads hturn) (ih hrest)
      · split at h
        · split at h
          · rename_i hturn
            exact .turn (hbody.leads hturn) (ih h)
          · cases h
            exact .leave
        · cases h
          exact .leave

end Loops

/-- **What the matcher finds it has reached by way of the expression.** -/
theorem leads_of_run (node : Node) : IsSound text node := by
  induction node with
  | empty => exact fun p final next h => ⟨p, .empty, h⟩
  | fail => exact fun p final next h => nomatch h
  | one test =>
      intro p final next h
      rw [Node.run] at h
      split at h
      · rename_i c hc
        split at h
        · rename_i htest
          exact ⟨_, .one hc htest, h⟩
        · cases h
      · cases h
  | anchor spot =>
      intro p final next h
      rw [Node.run] at h
      split at h
      · exact ⟨p, .anchor, h⟩
      · cases h
  | backref rule index =>
      intro p final next h
      rw [Node.run] at h
      split at h
      · rename_i hspan
        split at h
        · exact ⟨_, .backref hspan, h⟩
        · cases h
      · cases h
  | seq first second ihfirst ihsecond =>
      intro p final next h
      obtain ⟨m, hfirst, h⟩ := ihfirst p final _ h
      obtain ⟨q, hsecond, h⟩ := ihsecond m final next h
      exact ⟨q, .seq hfirst hsecond, h⟩
  | alt first second ihfirst ihsecond =>
      intro p final next h
      rw [Node.run] at h
      split at h
      · rename_i hrun
        cases h
        obtain ⟨q, hfirst, hq⟩ := ihfirst p final next hrun
        exact ⟨q, .first hfirst, hq⟩
      · obtain ⟨q, hsecond, hq⟩ := ihsecond p final next h
        exact ⟨q, .second hsecond, hq⟩
  | group index body ih =>
      intro p final next h
      cases index with
      | none =>
          obtain ⟨q, hbody, hq⟩ := ih p final next h
          exact ⟨q, .bundle hbody, hq⟩
      | some index =>
          obtain ⟨q, hbody, hq⟩ := ih _ final _ h
          exact ⟨_, .capture hbody, hq⟩
  | loop greed least most body ih =>
      intro p final next h
      cases greed with
      | greedy => exact leads_of_greedy ih h
      | lazy => exact leads_of_lazily ih h
      | possessive =>
          obtain ⟨q, hloop, hq⟩ := Option.bind_eq_some_iff.mp h
          exact ⟨q, leads_of_possessively ih hloop, hq⟩
  | atomic body ih =>
      intro p final next h
      obtain ⟨q, hbody, hq⟩ := Option.bind_eq_some_iff.mp h
      exact ⟨q, .atomic (ih.leads hbody), hq⟩
  | ahead negated body ih =>
      intro p final next h
      rw [Node.run] at h
      cases negated with
      | false =>
          split at h
          · rename_i hbody
            exact ⟨_, .ahead (ih.leads hbody), h⟩
          · cases h
      | true =>
          split at h
          · cases h
          · exact ⟨p, .notAhead, h⟩
  | behind negated width body ih =>
      intro p final next h
      rw [Node.run] at h
      cases negated with
      | false =>
          split at h
          · cases h
          · split at h
            · rename_i hbody
              exact ⟨_, .behind (ih.leads hbody), h⟩
            · cases h
      | true =>
          split at h
          · exact ⟨p, .notBehind, h⟩
          · split at h
            · cases h
            · exact ⟨p, .notBehind, h⟩
  | conditional index yes no ihyes ihno =>
      intro p final next h
      rw [Node.run] at h
      split at h
      · obtain ⟨q, hyes, hq⟩ := ihyes p final next h
        exact ⟨q, .yes hyes, hq⟩
      · obtain ⟨q, hno, hq⟩ := ihno p final next h
        exact ⟨q, .no hno, hq⟩

/-- A match is a way from where it starts, with nothing captured yet. -/
theorem leads_of_searchFrom {node : Node} {count pos : Nat} {m : Match}
    (h : searchFrom text node count pos = some m) : Leads text node ⟨m.start, [], []⟩ m.place := by
  induction count generalizing pos with
  | zero => cases h
  | succ count ih =>
      rw [searchFrom] at h
      split at h
      · rename_i hrun
        cases h
        exact (leads_of_run node).leads hrun
      · exact ih h

/-! ## The two ends of a capture -/

/-- The bodies of a group in an expression. -/
def Node.bodies (index : Nat) : Node → List Node
  | .empty | .one _ | .anchor _ | .backref .. | .fail => []
  | .seq first second | .alt first second => first.bodies index ++ second.bodies index
  | .group none body => body.bodies index
  | .group (some other) body => (if other = index then [body] else []) ++ body.bodies index
  | .loop _ _ _ body | .atomic body | .ahead _ body | .behind _ _ body => body.bodies index
  | .conditional _ yes no => yes.bodies index ++ no.bodies index

theorem lookup_record (index pos : Nat) (entries : List (Nat × Nat)) (other : Nat) :
    (record index pos entries).lookup other =
      if other = index then some pos else entries.lookup other := by
  rw [record, List.lookup_cons]
  by_cases h : other = index
  · rw [if_pos h, h, beq_self_eq_true]
  · rw [if_neg h, beq_false_of_ne h]
    induction entries with
    | nil => rfl
    | cons entry rest ih =>
        by_cases hentry : entry.1 = index
        · have hother : (other == entry.1) = false := beq_false_of_ne (hentry ▸ h)
          rw [List.filter_cons_of_neg (by simpa using hentry), List.lookup_cons, hother]
          exact ih
        · rw [List.filter_cons_of_pos (by simpa using hentry), List.lookup_cons, List.lookup_cons]
          cases other == entry.1 with
          | true => rfl
          | false => exact ih

/-- What a group has captured from one place to another: nothing new, or what one of its bodies has
led over. -/
inductive Spans (text : Array Char) (index : Nat) (bodies : List Node) (p q : Place) : Prop where
  | same : q.starts.lookup index = p.starts.lookup index →
      q.ends.lookup index = p.ends.lookup index → Spans text index bodies p q
  | new {body : Node} {u v : Place} : body ∈ bodies → Leads text body u v →
      q.starts.lookup index = some u.pos → q.ends.lookup index = some v.pos →
      Spans text index bodies p q

namespace Spans

variable {index : Nat} {bodies more : List Node} {p m q p' q' : Place}

theorem refl : Spans text index bodies p p := .same rfl rfl

theorem trans (h : Spans text index bodies p m) (h' : Spans text index bodies m q) :
    Spans text index bodies p q := by
  cases h' with
  | same hstarts hends =>
      cases h with
      | same hstarts' hends' => exact .same (hstarts.trans hstarts') (hends.trans hends')
      | new hbody hleads hstart hend =>
          exact .new hbody hleads (hstarts.trans hstart) (hends.trans hend)
  | new hbody hleads hstart hend => exact .new hbody hleads hstart hend

theorem mono (h : Spans text index bodies p q) (hsub : bodies ⊆ more) :
    Spans text index more p q := by
  cases h with
  | same hstarts hends => exact .same hstarts hends
  | new hbody hleads hstart hend => exact .new (hsub hbody) hleads hstart hend

/-- Only the records matter, and of these only those of the group. -/
theorem congr (h : Spans text index bodies p q)
    (hp : p.starts.lookup index = p'.starts.lookup index ∧
      p.ends.lookup index = p'.ends.lookup index)
    (hq : q'.starts.lookup index = q.starts.lookup index ∧
      q'.ends.lookup index = q.ends.lookup index) : Spans text index bodies p' q' := by
  cases h with
  | same hstarts hends =>
      exact .same (hq.1.trans (hstarts.trans hp.1)) (hq.2.trans (hends.trans hp.2))
  | new hbody hleads hstart hend =>
      exact .new hbody hleads (hq.1.trans hstart) (hq.2.trans hend)

end Spans

/-- The group does not stand inside itself. -/
def Node.IsFlat (index : Nat) (node : Node) : Prop :=
  ∀ body ∈ node.bodies index, body.bodies index = []

/-- **The two ends of a capture belong together.** -/
theorem span_of_leads {node : Node} {index : Nat} {p q : Place} (h : Leads text node p q)
    (hflat : node.IsFlat index) : Spans text index (node.bodies index) p q := by
  induction h with
  | empty => exact .refl
  | one => exact .same rfl rfl
  | anchor => exact .refl
  | backref => exact .same rfl rfl
  | seq _ _ ihfirst ihsecond =>
      -- if both parts capture, what the second one does counts
      have hfirst := ihfirst fun body hbody => hflat body (List.mem_append_left _ hbody)
      have hsecond := ihsecond fun body hbody => hflat body (List.mem_append_right _ hbody)
      exact (hfirst.mono (List.subset_append_left ..)).trans
        (hsecond.mono (List.subset_append_right ..))
  | first _ ih =>
      exact (ih fun body hbody => hflat body (List.mem_append_left _ hbody)).mono
        (List.subset_append_left ..)
  | second _ ih =>
      exact (ih fun body hbody => hflat body (List.mem_append_right _ hbody)).mono
        (List.subset_append_right ..)
  | bundle _ ih => exact ih hflat
  | @capture other body p q hbody ih =>
      have hinner := ih fun inner hinner => hflat inner (List.mem_append_right _ hinner)
      by_cases h : other = index
      · subst h
        -- inside the body the group is not entered again, so its start is still the one recorded
        have hmem : body ∈ (Node.group (some other) body).bodies other := by simp [Node.bodies]
        have hempty : body.bodies other = [] := hflat body hmem
        rw [hempty] at hinner
        cases hinner with
        | same hstarts hends =>
            refine .new hmem hbody (hstarts.trans ?_) ?_
            · rw [lookup_record, if_pos rfl]
            · rw [lookup_record, if_pos rfl]
        | new hnone => cases hnone
      · refine (hinner.mono (List.subset_append_right ..)).congr ⟨?_, rfl⟩ ⟨rfl, ?_⟩
        · rw [lookup_record, if_neg (Ne.symm h)]
        · rw [lookup_record, if_neg (Ne.symm h)]
  | leave => exact .refl
  | turn _ _ ihbody ihloop => exact (ihbody hflat).trans (ihloop hflat)
  | atomic _ ih => exact ih hflat
  | ahead _ ih => exact (ih hflat).congr ⟨rfl, rfl⟩ ⟨rfl, rfl⟩
  | notAhead => exact .refl
  | behind _ ih => exact (ih hflat).congr ⟨rfl, rfl⟩ ⟨rfl, rfl⟩
  | notBehind => exact .refl
  | yes _ ih =>
      exact (ih fun body hbody => hflat body (List.mem_append_left _ hbody)).mono
        (List.subset_append_left ..)
  | no _ ih =>
      exact (ih fun body hbody => hflat body (List.mem_append_right _ hbody)).mono
        (List.subset_append_right ..)

/-- The characters of a text from one position to another. -/
def slice (text : List Char) (a b : Nat) : List Char := (text.drop a).take (b - a)

theorem slice_cons {text : List Char} {a b : Nat} {c : Char} (hc : text[a]? = some c)
    (hlt : a < b) : slice text a b = c :: slice text (a + 1) b := by
  obtain ⟨hbound, hget⟩ := List.getElem?_eq_some_iff.mp hc
  have hcount : b - a = b - (a + 1) + 1 := by omega
  rw [slice, List.drop_eq_getElem_cons hbound, hget, hcount, List.take_succ_cons, slice]

/-- **What a group has captured was consumed by its body.** -/
theorem leads_of_group {pattern : Pattern} {text raw : String} {m : Match} {index : Nat}
    (hm : pattern.search? text = some m) (hflat : pattern.node.IsFlat index) (hindex : index ≠ 0)
    (hraw : m.group? text index = some raw) :
    ∃ body ∈ pattern.node.bodies index, ∃ u v, Leads text.toList.toArray body u v ∧
      raw = String.ofList (slice text.toList u.pos v.pos) := by
  have hspans := span_of_leads (leads_of_searchFrom hm) hflat
  rw [Match.group?, if_neg hindex] at hraw
  obtain ⟨⟨a, b⟩, hspan, rfl⟩ := Option.map_eq_some_iff.mp hraw
  rw [Place.span?] at hspan
  cases hspans with
  | same hstarts hends =>
      -- at the start of a match nothing has been captured
      rw [hstarts] at hspan
      cases hspan
  | @new body u v hbody hleads hstart hend =>
      rw [hstart, hend] at hspan
      dsimp only at hspan
      split at hspan
      · cases hspan
        exact ⟨body, hbody, u, v, hleads, rfl⟩
      · cases hspan

/-! ## Repeated tests -/

/-- Every character that repetitions of a test have consumed passes the test. -/
theorem forall_slice_of_leads {text : List Char} {greed : Greed} {least : Nat} {most : Option Nat}
    {test : CharTest} {p q : Place}
    (h : Leads text.toArray (.loop greed least most (.one test)) p q) :
    p.pos ≤ q.pos ∧ ∀ c ∈ slice text p.pos q.pos, test.holds c = true := by
  generalize hnode : Node.loop greed least most (.one test) = node at h
  induction h with
  | leave => exact ⟨Nat.le_refl _, by simp [slice]⟩
  | @turn _ _ _ _ p m q hturn _ _ ih =>
      cases hnode
      obtain ⟨hle, hrest⟩ := ih rfl
      cases hturn with
      | @one _ _ c hc htest =>
          have hlt : p.pos < q.pos := Nat.lt_of_succ_le hle
          refine ⟨Nat.le_of_lt hlt, ?_⟩
          rw [slice_cons (by simpa using hc) hlt]
          exact List.forall_mem_cons.mpr ⟨htest, hrest⟩
  | _ => cases hnode

end Triage.Regex
