import Triage.Policy.Standard
import Triage.Proofs.Captured
import Triage.Proofs.Document
import Triage.Proofs.Matching
import Triage.Proofs.Numeral

/-!
# Where the standard policies fail

A text can be too much for the standard policies. The pattern for disks takes every digit, point and
comma that it meets for the threshold and for the value, and what it takes need not be a number: the
full stop at the end of a sentence belongs to it (`Standard.fails_of_full_stop`).

That is the only way in which they fail. They are steady, so that no record of theirs is no alert, and
a captured text goes to a number in the first policy alone, through a group that repeats digits, points
and commas. Such a text is a number unless it has no digit or has two points. So the standard policies
fail exactly where the pattern for disks is found and has captured such a text
(`Standard.fails_iff_stumbles`).
-/

namespace Triage

open Regex Text

/-! ## Repeated digits, points and commas -/

/-- Digits, points and commas make up no number: there is no digit, or there is a second point. -/
def IsMisnumbered (raw : String) : Prop :=
  (∀ c ∈ raw.toList, isDecimalPoint c.toNat = false) ∨ 2 ≤ raw.toList.count '.'

/-- The expression repeats a digit, a point or a comma. -/
def Regex.Node.repeatsFigures : Node → Bool
  | .loop _ _ _ (.one (.set .ignore false items)) =>
    items = [.named .digit false false, .char 46, .char 44]
  | _ => false

theorem figure_of_holds {c : Char}
    (h : CharTest.holds c (.set .ignore false [.named .digit false false, .char 46, .char 44]) =
      true) : isDecimalPoint c.toNat = true ∨ c = '.' ∨ c = ',' := by
  have huncased : [SetItem.named .digit false false, .char 46, .char 44].any
      (SetItem.cased .ignore) = false := by decide +kernel
  rw [CharTest.holds, inSet, huncased, if_neg (by simp)] at h
  have hitems : isDecimalPoint c.toNat = true ∨ c.toNat = 46 ∨ c.toNat = 44 := by
    simpa [SetItem.holds, CharKind.holds] using h
  exact hitems.imp_right
    (Or.imp (Char.toNat_inj (d := '.')).mp (Char.toNat_inj (d := ',')).mp)

/-- A group that repeats digits, points and commas captures nothing else. -/
theorem figures_of_group {pattern : Pattern} {text raw : String} {m : Match} {index : Nat}
    (hm : pattern.search? text = some m) (hindex : index ≠ 0)
    (hbodies : (pattern.node.bodies index).map Node.repeatsFigures = [true])
    (hraw : m.group? text index = some raw) :
    ∀ c ∈ raw.toList, isDecimalPoint c.toNat = true ∨ c = '.' ∨ c = ',' := by
  obtain ⟨body, hbodies, hbody⟩ := List.map_eq_singleton_iff.mp hbodies
  unfold Node.repeatsFigures at hbody
  split at hbody
  · obtain rfl := of_decide_eq_true hbody
    have hflat : pattern.node.IsFlat index := by
      rw [Node.IsFlat, hbodies]
      exact List.forall_mem_singleton.mpr rfl
    obtain ⟨_, hmem, u, v, hleads, rfl⟩ := leads_of_group hm hflat hindex hraw
    rw [hbodies] at hmem
    obtain rfl := List.mem_singleton.mp hmem
    rw [String.toList_ofList]
    exact fun c hc => figure_of_holds ((forall_slice_of_leads hleads).2 c hc)
  · cases hbody

/-- Of digits, points and commas the ones that make up no number are no number. -/
theorem coerce_fails_iff {name raw : String} (hname : Extraction.isNumeric name = true)
    (h : ∀ c ∈ raw.toList, isDecimalPoint c.toNat = true ∨ c = '.' ∨ c = ',') :
    (∃ fault, Extraction.coerce name raw = .error fault) ↔ IsMisnumbered raw := by
  have hfigures : ∀ c ∈ raw.toList.filter (· ≠ ','), Numeral.IsDigitOrPoint c := by
    intro c hc
    obtain ⟨hmem, hne⟩ := List.mem_filter.mp hc
    rcases h c hmem with hdigit | hpoint | rfl
    · exact .inl hdigit
    · exact .inr hpoint
    · exact absurd rfl (of_decide_eq_true hne)
  have hcount : (raw.toList.filter (· ≠ ',')).count '.' = raw.toList.count '.' :=
    List.count_filter (by decide)
  have hdigit : (∃ c ∈ raw.toList.filter (· ≠ ','), isDecimalPoint c.toNat = true) ↔
      ∃ c ∈ raw.toList, isDecimalPoint c.toNat = true := by
    constructor
    · rintro ⟨c, hc, hdigit⟩
      exact ⟨c, (List.mem_filter.mp hc).1, hdigit⟩
    · rintro ⟨c, hc, hdigit⟩
      have hne : c ≠ ',' := by
        rintro rfl
        exact absurd hdigit (by decide)
      exact ⟨c, List.mem_filter.mpr ⟨hc, decide_eq_true hne⟩, hdigit⟩
  have hfails : (∃ fault, Extraction.coerce name raw = .error fault) ↔
      Numeral.captured? (String.ofList (raw.toList.filter (· ≠ ','))) = none := by
    simp [Extraction.coerce_eq_error_iff, hname]
  rw [hfails, ← Option.not_isSome_iff_eq_none, Numeral.captured?_isSome_iff hfigures, hcount,
    hdigit, not_and_or, not_exists, Nat.not_le, IsMisnumbered]
  simp only [not_and, Bool.not_eq_true]
  rfl

/-! ## The standard policies -/

namespace Standard

/-- The expression of the pattern for disks. -/
def diskSource : String :=
  "Disk utilization for (\\S+) (\\S+) threshold of ([\\d.,]+) with a value of ([\\d.,]+)"

/-- The fields of the pattern for disks with their groups. -/
def diskTargets : List (String × Nat) :=
  [("project_id", 1), ("instance_name", 2), ("threshold_percent", 3), ("value_percent", 4)]

/-- The standard policies, as far as they matter here. -/
structure AreStandard (disk : Policy) (rest : List Policy) : Prop where
  alertType : disk.alertType = "disk_utilization_low"
  /-- Every text may pass. -/
  guard : disk.guard = none
  /-- There is one pattern, and no group of it is named. -/
  pattern : disk.patterns.map (fun q => (q.source, q.expression.names, q.captures)) =
    [(diskSource, [], diskTargets)]
  /-- Its groups for the threshold and for the value repeat digits, points and commas. -/
  figures : ∀ q ∈ disk.patterns, ∀ index ∈ [3, 4],
    (q.expression.node.bodies index).map Node.repeatsFigures = [true]
  /-- No other policy captures a number. -/
  texts : ∀ p ∈ rest, ∀ q ∈ p.patterns, ∀ target ∈ q.targets,
    Extraction.isNumeric target.1 = false
  steady : ∀ p ∈ disk :: rest, p.IsSteady

instance (disk : Policy) (rest : List Policy) : Decidable (AreStandard disk rest) :=
  decidable_of_iff
    (disk.alertType = "disk_utilization_low" ∧ disk.guard = none ∧
      disk.patterns.map (fun q => (q.source, q.expression.names, q.captures)) =
        [(diskSource, [], diskTargets)] ∧
      (∀ q ∈ disk.patterns, ∀ index ∈ [3, 4],
        (q.expression.node.bodies index).map Node.repeatsFigures = [true]) ∧
      (∀ p ∈ rest, ∀ q ∈ p.patterns, ∀ target ∈ q.targets,
        Extraction.isNumeric target.1 = false) ∧
      ∀ p ∈ disk :: rest, p.IsSteady)
    ⟨fun ⟨h₁, h₂, h₃, h₄, h₅, h₆⟩ => ⟨h₁, h₂, h₃, h₄, h₅, h₆⟩,
      fun ⟨h₁, h₂, h₃, h₄, h₅, h₆⟩ => ⟨h₁, h₂, h₃, h₄, h₅, h₆⟩⟩

/-- The path of a document plays no part where all of its policies are accepted. -/
theorem ofDocument_path {path other : Path} {v : Json} {policies : List Policy}
    (h : Policies.ofDocument path v = .ok policies) : Policies.ofDocument other v = .ok policies := by
  have ho : ∀ fault, (.ok policies : Except Failure _) ≠ .error (.policies fault) := by simp
  simp only [Policies.ofDocument_eq_iff ho, Policies.ofList_eq_ok_iff] at h ⊢
  exact h

/-- The standard document is accepted. -/
theorem exists_policies (path : Path) :
    ∃ disk rest, Policies.ofDocument path document = .ok (disk :: rest) ∧ AreStandard disk rest := by
  have hrun : ((Policies.ofDocument [] document).toOption.any fun policies =>
      policies.head?.any fun disk => AreStandard disk policies.tail) = true := by decide +kernel
  cases hread : Policies.ofDocument [] document with
  | error e => rw [hread] at hrun; cases hrun
  | ok policies =>
      rw [hread] at hrun
      cases policies with
      | nil => cases hrun
      | cons disk rest => exact ⟨disk, rest, ofDocument_path hread, of_decide_eq_true hrun⟩

/-- The pattern for disks has captured, for the threshold or for the value, what makes up no number. -/
def Stumbles (q : PatternSpec) (text : String) : Prop :=
  ∃ m, q.expression.search? text = some m ∧
    ∃ index ∈ [3, 4], ∃ raw, m.group? text index = some raw ∧ IsMisnumbered raw

namespace AreStandard

variable {disk : Policy} {rest : List Policy} {q : PatternSpec} {text : String}

theorem exists_pattern (h : AreStandard disk rest) :
    ∃ q, disk.patterns = [q] ∧ q.source = diskSource ∧ q.captures = diskTargets ∧
      q.targets = diskTargets := by
  obtain ⟨q, hq, heq⟩ := List.map_eq_singleton_iff.mp h.pattern
  obtain ⟨hsource, heq⟩ := Prod.mk.inj heq
  obtain ⟨hnames, hcaptures⟩ := Prod.mk.inj heq
  exact ⟨q, hq, hsource, hcaptures, by rw [PatternSpec.targets, hnames, hcaptures]; rfl⟩

/-- What the pattern for disks captures is not what its field asks for exactly where that is the
threshold or the value and the text is misnumbered. -/
theorem coerce_fails_iff (h : AreStandard disk rest) (hq : disk.patterns = [q]) {m : Match}
    (hm : q.expression.search? text = some m) {target : String × Nat}
    (htarget : target ∈ diskTargets) {raw : String} (hraw : m.group? text target.2 = some raw) :
    (∃ fault, Extraction.coerce target.1 raw = .error fault) ↔
      target.2 ∈ [3, 4] ∧ IsMisnumbered raw := by
  have htext {name : String} (hname : Extraction.isNumeric name = false) :
      ¬ ∃ fault, Extraction.coerce name raw = .error fault := by
    rintro ⟨fault, hfault⟩
    rw [Extraction.coerce_of_not_numeric hname] at hfault
    cases hfault
  have hnumber {index : Nat} (hindex : index ∈ [3, 4]) (hgroup : m.group? text index = some raw) :
      ∀ c ∈ raw.toList, isDecimalPoint c.toNat = true ∨ c = '.' ∨ c = ',' := by
    have hne : index ≠ 0 := by
      rintro rfl
      exact absurd hindex (by decide)
    exact figures_of_group hm hne (h.figures q (by simp [hq]) index hindex) hgroup
  simp only [diskTargets, List.mem_cons, List.not_mem_nil, or_false] at htarget
  rcases htarget with rfl | rfl | rfl | rfl
  · exact iff_of_false (htext (by decide +kernel)) (by simp)
  · exact iff_of_false (htext (by decide +kernel)) (by simp)
  · rw [Triage.coerce_fails_iff (by decide +kernel) (hnumber (by decide) hraw)]
    simp
  · rw [Triage.coerce_fails_iff (by decide +kernel) (hnumber (by decide) hraw)]
    simp

/-- Where the pattern for disks is found, it decides. -/
theorem first_of_isFound (h : AreStandard disk rest) (hq : disk.patterns = [q])
    (hfound : q.isFound text = true) :
    (disk :: rest).find? (·.fits text) = some disk ∧
      disk.patterns.find? (·.isFound text) = some q := by
  have hadmits : disk.admits text = true := by rw [Policy.admits, h.guard]
  refine ⟨List.find?_cons_of_pos (Recognition.fits_of_found hadmits (by simp [hq]) hfound), ?_⟩
  rw [hq, List.find?_cons_of_pos hfound]

/-- No other pattern than that for disks fails. -/
theorem eq_of_apply (h : AreStandard disk rest) (hq : disk.patterns = [q]) {p : Policy}
    {q' : PatternSpec} {fault : Extraction.Fault} (hp : p ∈ disk :: rest) (hq' : q' ∈ p.patterns)
    (hfault : Extraction.apply q' text = .error fault) : q' = q := by
  rcases List.mem_cons.mp hp with rfl | hrest
  · rw [hq] at hq'
    exact List.mem_singleton.mp hq'
  · -- the others capture texts, and a text is never refused
    obtain ⟨m, -, target, htarget, -, hname, hcoerce⟩ := Extraction.fault_of_apply hfault
    have hnumeric := (Extraction.coerce_eq_error_iff.mp hcoerce).2.1
    rw [← hname, h.texts p hrest q' hq' target htarget] at hnumeric
    cases hnumeric

/-- The pattern for disks fails exactly where it stumbles. -/
theorem apply_fails_iff (h : AreStandard disk rest) (hq : disk.patterns = [q])
    (htargets : q.targets = diskTargets) :
    (∃ fault, Extraction.apply q text = .error fault) ↔ Stumbles q text := by
  have hindex : ∀ index ∈ [3, 4], ∃ target ∈ diskTargets, target.2 = index := by decide
  rw [Extraction.fails_iff, htargets]
  refine exists_congr fun m => and_congr_right fun hm => ?_
  constructor
  · rintro ⟨target, htarget, raw, hraw, hfault⟩
    obtain ⟨hmem, hmis⟩ := (h.coerce_fails_iff hq hm htarget hraw).mp hfault
    exact ⟨target.2, hmem, raw, hraw, hmis⟩
  · rintro ⟨index, hmem, raw, hraw, hmis⟩
    obtain ⟨target, htarget, rfl⟩ := hindex index hmem
    exact ⟨target, htarget, raw, hraw, (h.coerce_fails_iff hq hm htarget hraw).mpr ⟨hmem, hmis⟩⟩

/-- The text that the pattern for disks fails with is misnumbered. -/
theorem isMisnumbered_of_apply (h : AreStandard disk rest) (hq : disk.patterns = [q])
    (htargets : q.targets = diskTargets) {fault : Extraction.Fault}
    (hfault : Extraction.apply q text = .error fault) : IsMisnumbered fault.raw := by
  obtain ⟨m, hm, target, htarget, hraw, hname, hcoerce⟩ := Extraction.fault_of_apply hfault
  exact ((h.coerce_fails_iff hq hm (htargets ▸ htarget) hraw).mp ⟨fault, hname ▸ hcoerce⟩).2

/-- What the pattern for disks fails with is what the standard policies fail with. -/
theorem ofText_eq_error_iff (h : AreStandard disk rest) (hq : disk.patterns = [q]) {e : Failure} :
    Recognition.ofText text (disk :: rest) = .error e ↔
      ∃ fault, Extraction.apply q text = .error fault ∧ e = .policies (.capture fault) := by
  rw [Recognition.fails_iff_of_isSteady h.steady]
  constructor
  · rintro ⟨p, q', fault, hp, hq', hfault, rfl⟩
    obtain rfl := h.eq_of_apply hq (List.mem_of_find?_eq_some hp) (List.mem_of_find?_eq_some hq')
      hfault
    exact ⟨fault, hfault, rfl⟩
  · rintro ⟨fault, hfault, rfl⟩
    obtain ⟨m, hm, -⟩ := Extraction.fault_of_apply hfault
    have hfound : q.isFound text = true := by rw [PatternSpec.isFound, hm]; rfl
    obtain ⟨hfits, hfirst⟩ := h.first_of_isFound hq hfound
    exact ⟨disk, q, fault, hfits, hfirst, hfault, rfl⟩

end AreStandard

/-- **The standard policies fail exactly where the threshold or the value that the pattern for disks
has captured is misnumbered**, and the failure says which text that is. No record that they make is no
alert. -/
theorem fails_iff_stumbles (path : Path) :
    ∃ disk rest q, Policies.ofDocument path document = .ok (disk :: rest) ∧
      disk.alertType = "disk_utilization_low" ∧ disk.patterns = [q] ∧ q.source = diskSource ∧
      ∀ text, ((∃ e, Recognition.ofText text (disk :: rest) = .error e) ↔ Stumbles q text) ∧
        ∀ e, Recognition.ofText text (disk :: rest) = .error e →
          ∃ fault, e = .policies (.capture fault) ∧ IsMisnumbered fault.raw := by
  obtain ⟨disk, rest, hread, h⟩ := exists_policies path
  obtain ⟨q, hq, hsource, -, htargets⟩ := h.exists_pattern
  refine ⟨disk, rest, q, hread, h.alertType, hq, hsource, fun text => ⟨?_, fun e he => ?_⟩⟩
  · rw [← h.apply_fails_iff hq htargets]
    constructor
    · rintro ⟨e, he⟩
      obtain ⟨fault, hfault, -⟩ := (h.ofText_eq_error_iff hq).mp he
      exact ⟨fault, hfault⟩
    · rintro ⟨fault, hfault⟩
      exact ⟨_, (h.ofText_eq_error_iff hq).mpr ⟨fault, hfault, rfl⟩⟩
  · obtain ⟨fault, hfault, rfl⟩ := (h.ofText_eq_error_iff hq).mp he
    exact ⟨fault, rfl, h.isMisnumbered_of_apply hq htargets hfault⟩

/-- A sentence that ends with the value. -/
def sentence : String := "Disk utilization for p i threshold of 80 with a value of 65.5."

/-- The captured text that is no number, if extracting comes to one. -/
def fault? : Except Extraction.Fault (Option Record) → Option Extraction.Fault
  | .error fault => some fault
  | .ok _ => none

/-- The full stop is taken for a part of the value, which then is no number. -/
theorem fails_of_full_stop :
    ∃ policies, Policies.ofDocument ["policies.json"] document = .ok policies ∧
      Recognition.ofText sentence policies =
        .error (.policies (.capture ⟨"value_percent", "65.5."⟩)) := by
  obtain ⟨disk, rest, hread, h⟩ := exists_policies ["policies.json"]
  obtain ⟨q, hq, hsource, hcaptures, -⟩ := h.exists_pattern
  have hparts : PatternSpec.ofParts diskSource (PatternSpec.signed diskTargets) = .valid q :=
    PatternSpec.ofParts_eq_valid_iff.mpr ⟨hsource.symm, by rw [PatternSpec.written, hcaptures]⟩
  have hrun : ((PatternSpec.ofParts diskSource (PatternSpec.signed diskTargets)).toOption.bind
      fun q => fault? (Extraction.apply q sentence)) = some ⟨"value_percent", "65.5."⟩ := by
    decide +kernel
  have hfault : Extraction.apply q sentence = .error ⟨"value_percent", "65.5."⟩ := by
    rw [hparts] at hrun
    change fault? (Extraction.apply q sentence) = _ at hrun
    cases happly : Extraction.apply q sentence with
    | ok captured => rw [happly] at hrun; cases hrun
    | error fault => rw [happly] at hrun; rw [Option.some.inj hrun]
  exact ⟨disk :: rest, hread, (h.ofText_eq_error_iff hq).mpr ⟨_, hfault, rfl⟩⟩

end Standard
end Triage
