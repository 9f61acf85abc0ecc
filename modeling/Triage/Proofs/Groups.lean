import Triage.Regex.Reader
import Triage.Proofs.Schema

/-!
# Named groups exist

The reader of an expression numbers its groups as it opens them and keeps the names of some. A name
is entered together with the group that it names, and groups once opened stay, so no step of the
reader can leave a name without its group (`Reading.Keeps`). An expression that can be read therefore
has every group that it has a name for (`isNumbered_of_compile`). A name that has been entered is
refused another time, so no two groups have the same name (`nodup_names_of_compile`).

Only opening a group enters a name, and only closing one touches the list of groups otherwise; every
other step keeps the invariant because the steps that it is made of do.
-/

namespace Triage.Regex

/-- The names are those of groups opened so far, each of them a different one. The whole expression,
which is group zero, has no name. -/
structure Scan.IsNumbered (scan : Scan) : Prop where
  whole : 0 < scan.widths.length
  names : ∀ entry ∈ scan.names, 0 < entry.2 ∧ entry.2 < scan.widths.length
  distinct : (scan.names.map Prod.fst).Nodup

/-- Names and groups as before are enough. -/
theorem Scan.IsNumbered.congr {scan scan' : Scan} (h : scan.IsNumbered)
    (hnames : scan'.names = scan.names) (hwidths : scan'.widths.length = scan.widths.length) :
    scan'.IsNumbered where
  whole := hwidths ▸ h.whole
  names := by
    rw [hnames, hwidths]
    exact h.names
  distinct := hnames ▸ h.distinct

/-- One more group needs no name. -/
theorem Scan.IsNumbered.append {scan : Scan} (h : scan.IsNumbered) (width : Option (Nat × Nat)) :
    { scan with widths := scan.widths ++ [width] : Scan }.IsNumbered where
  whole := by simp
  names := by
    intro entry hentry
    have hnames := h.names entry hentry
    rw [List.length_append]
    exact ⟨hnames.1, Nat.lt_add_right _ hnames.2⟩
  distinct := h.distinct

namespace Reading

/-- After the step the names are still those of groups. -/
def Keeps {α : Type} (m : Reading α) : Prop :=
  ∀ scan a scan', m.run scan = .ok (a, scan') → scan.IsNumbered → scan'.IsNumbered

variable {α β : Type}

/-! ## Steps of any kind -/

theorem keeps_pure (a : α) : Keeps (pure a) := by
  rintro scan b scan' ⟨⟩ h
  exact h

theorem keeps_throw (fault : Fault) : Keeps (throw fault : Reading α) := by
  rintro scan a scan' ⟨⟩

theorem keeps_bind {m : Reading α} {f : α → Reading β} (hm : Keeps m) (hf : ∀ a, Keeps (f a)) :
    Keeps (m >>= f) := by
  intro scan b scan' hrun h
  rw [StateT.run_bind] at hrun
  cases hfirst : m.run scan with
  | error fault => rw [hfirst] at hrun; cases hrun
  | ok after =>
      rw [hfirst] at hrun
      exact hf after.1 after.2 b scan' hrun (hm scan after.1 after.2 hfirst h)

/-- What is done with the state may rely on the invariant. -/
theorem keeps_get_bind {f : Scan → Reading β} (hf : ∀ scan, scan.IsNumbered → Keeps (f scan)) :
    Keeps (get >>= f) :=
  fun scan b scan' hrun h => hf scan h scan b scan' hrun h

theorem keeps_set {scan : Scan} (h : scan.IsNumbered) : Keeps (set scan : Reading PUnit) := by
  rintro _ _ scan' ⟨⟩ _
  exact h

theorem keeps_modify {f : Scan → Scan} (hf : ∀ scan, scan.IsNumbered → (f scan).IsNumbered) :
    Keeps (modify f : Reading PUnit) := by
  rintro scan _ scan' ⟨⟩ h
  exact hf scan h

theorem keeps_refuse : Keeps (refuse : Reading α) := keeps_throw _

theorem keeps_peek : Keeps peek := by
  refine keeps_get_bind fun scan _ => ?_
  split
  · exact keeps_pure _
  · exact keeps_refuse
  · exact keeps_pure _

theorem keeps_skip : Keeps skip := keeps_modify fun _ h => h.congr rfl rfl

theorem keeps_take : Keeps take :=
  keeps_bind keeps_peek fun _ => keeps_bind keeps_skip fun _ => keeps_pure _

theorem keeps_bound : Keeps bound := keeps_get_bind fun _ _ => keeps_pure _

theorem keeps_accept (c : Char) : Keeps (accept c) := by
  refine keeps_bind keeps_peek fun token => ?_
  split
  · exact keeps_bind keeps_skip fun _ => keeps_bind keeps_peek fun _ => keeps_pure _
  · exact keeps_pure _

theorem keeps_expect (c : Char) : Keeps (expect c) := by
  refine keeps_bind (keeps_accept c) fun found => ?_
  split
  · exact keeps_pure _
  · exact keeps_refuse

theorem keeps_takeChars (p : Char → Bool) (n : Nat) : Keeps (takeChars p n) := by
  induction n with
  | zero => exact keeps_pure _
  | succ n ih =>
      refine keeps_bind keeps_peek fun token => ?_
      split
      · split
        · exact keeps_bind keeps_skip fun _ => keeps_bind ih fun _ => keeps_pure _
        · exact keeps_pure _
      · exact keeps_pure _

theorem keeps_takeUntil (c : Char) (n : Nat) (done : List Char) : Keeps (takeUntil c n done) := by
  induction n generalizing done with
  | zero => exact keeps_refuse
  | succ n ih =>
      refine keeps_bind keeps_take fun token => ?_
      split
      · exact keeps_refuse
      · split
        · split
          · exact keeps_refuse
          · exact keeps_pure _
        · exact ih _

/-! ## Escapes and sets -/

theorem keeps_hexCode (n : Nat) : Keeps (hexCode n) := by
  refine keeps_bind (keeps_takeChars _ _) fun digits => ?_
  split
  · exact keeps_refuse
  · dsimp only
    split
    · exact keeps_refuse
    · exact keeps_pure _

theorem keeps_namedCode : Keeps namedCode := by
  refine keeps_bind (keeps_expect _) fun _ => keeps_bind keeps_bound fun _ =>
    keeps_bind (keeps_takeUntil _ _ _) fun name => ?_
  split
  · exact keeps_pure _
  · exact keeps_refuse

theorem keeps_codeEscape {c : Char} {code : Reading Nat} (h : codeEscape? c = some code) :
    Keeps code := by
  unfold codeEscape? at h
  split at h
  · cases h
    exact keeps_hexCode _
  · cases h
    exact keeps_hexCode _
  · cases h
    exact keeps_hexCode _
  · cases h
    exact keeps_namedCode
  · cases h

theorem keeps_plainEscape (c : Char) : Keeps (plainEscape c) := by
  unfold plainEscape
  split
  · exact keeps_refuse
  · exact keeps_pure _

theorem keeps_setEscape (flags : Flags) (c : Char) : Keeps (setEscape flags c) := by
  unfold setEscape
  split
  · exact keeps_pure _
  · exact keeps_pure _
  · rename_i hcode
    exact keeps_bind (keeps_codeEscape hcode) fun _ => keeps_pure _
  · split
    · refine keeps_bind (keeps_takeChars _ _) fun digits => ?_
      dsimp only
      split
      · exact keeps_refuse
      · exact keeps_pure _
    · exact keeps_bind (keeps_plainEscape c) fun _ => keeps_pure _

theorem keeps_checkGroup (index : Nat) : Keeps (checkGroup index) := by
  refine keeps_get_bind fun scan _ => ?_
  dsimp only
  split
  · split
    · split
      · exact keeps_refuse
      · exact keeps_pure _
    · exact keeps_pure _
  · exact keeps_refuse

theorem keeps_digitEscape (flags : Flags) (c : Char) : Keeps (digitEscape flags c) := by
  have hreference (digits : List Char) : Keeps (do
      checkGroup (Text.natOfDigits digits)
      return .backref flags.rule (Text.natOfDigits digits) : Reading Node) :=
    keeps_bind (keeps_checkGroup _) fun _ => keeps_pure _
  refine keeps_bind (keeps_takeChars _ _) fun digits => ?_
  split
  · split
    · refine keeps_bind (keeps_takeChars _ _) fun more => ?_
      split
      · dsimp only
        split
        · exact keeps_refuse
        · exact keeps_pure _
      · exact hreference _
    · exact hreference _
  · exact hreference _

theorem keeps_escapeNode (flags : Flags) (c : Char) : Keeps (escapeNode flags c) := by
  unfold escapeNode
  split
  · exact keeps_pure _
  · exact keeps_pure _
  · exact keeps_pure _
  · rename_i hcode
    exact keeps_bind (keeps_codeEscape hcode) fun _ => keeps_pure _
  · split
    · exact keeps_bind (keeps_takeChars _ _) fun _ => keeps_pure _
    · split
      · exact keeps_digitEscape flags c
      · exact keeps_bind (keeps_plainEscape c) fun _ => keeps_pure _

theorem keeps_setItem (flags : Flags) (token : Token) : Keeps (setItem flags token) := by
  unfold setItem
  split
  · exact keeps_setEscape flags _
  · exact keeps_pure _
  · exact keeps_refuse

theorem keeps_setItems (flags : Flags) (fuel : Nat) (done : List SetItem) :
    Keeps (setItems flags fuel done) := by
  induction fuel generalizing done with
  | zero => exact keeps_refuse
  | succ fuel ih =>
      refine keeps_bind keeps_take fun token => ?_
      split
      · exact keeps_refuse
      · split
        · exact keeps_pure _
        · refine keeps_bind (keeps_setItem flags _) fun item =>
            keeps_bind (keeps_accept _) fun isRange => ?_
          split
          · refine keeps_bind keeps_take fun upper => ?_
            split
            · exact keeps_refuse
            · exact keeps_pure _
            · refine keeps_bind (keeps_setItem flags _) fun high => ?_
              split
              · split
                · exact keeps_refuse
                · exact ih _
              · exact keeps_refuse
          · exact ih _

theorem keeps_readSet (flags : Flags) : Keeps (readSet flags) :=
  keeps_bind (keeps_accept _) fun _ => keeps_bind keeps_bound fun _ =>
    keeps_bind (keeps_setItems flags _ _) fun _ => keeps_pure _

/-! ## Repetitions -/

theorem keeps_countOf (digits : List Char) : Keeps (countOf digits) := by
  unfold countOf
  split
  · exact keeps_pure _
  · split
    · exact keeps_throw _
    · dsimp only
      split
      · exact keeps_throw _
      · exact keeps_pure _

theorem keeps_readCounts : Keeps readCounts := by
  refine keeps_get_bind fun before hbefore => keeps_bind keeps_peek fun token => ?_
  split
  · exact keeps_pure _
  · refine keeps_bind keeps_bound fun _ => keeps_bind (keeps_takeChars _ _) fun low =>
      keeps_bind (keeps_accept _) fun isRange => ?_
    extract_lets close
    -- what is put back is an earlier state, of which the invariant is known
    have hclose (high : List Char) : Keeps (close high) := by
      refine keeps_bind (keeps_accept _) fun isClosed => ?_
      split
      · refine keeps_bind (keeps_countOf _) fun least => keeps_bind (keeps_countOf _) fun most => ?_
        split
        · split
          · exact keeps_refuse
          · exact keeps_pure _
        · exact keeps_pure _
      · exact keeps_bind (keeps_set hbefore) fun _ => keeps_pure _
    split
    · exact keeps_bind keeps_bound fun _ => keeps_bind (keeps_takeChars _ _) hclose
    · exact hclose low

theorem keeps_greed : Keeps greed := by
  refine keeps_bind keeps_peek fun token => ?_
  split
  · exact keeps_bind keeps_skip fun _ => keeps_pure _
  · exact keeps_bind keeps_skip fun _ => keeps_pure _
  · exact keeps_pure _

theorem keeps_repeatLast (least : Nat) (most : Option Nat) (done : List Piece) :
    Keeps (repeatLast least most done) := by
  unfold repeatLast
  split
  · exact keeps_refuse
  · split
    · exact keeps_refuse
    · exact keeps_bind keeps_greed fun _ =>
        keeps_bind (keeps_modify fun _ h => h.congr rfl rfl) fun _ => keeps_pure _

/-! ## Groups -/

theorem keeps_removedFlags (fuel : Nat) (done : List Flag) (token : Token) :
    Keeps (removedFlags fuel done token) := by
  induction fuel generalizing done token with
  | zero => exact keeps_refuse
  | succ fuel ih =>
      unfold removedFlags
      split
      · split
        · split
          · exact keeps_refuse
          · refine keeps_bind keeps_take fun next => ?_
            split
            · exact keeps_refuse
            · exact keeps_pure _
            · exact ih _ _
        · exact keeps_refuse
      · exact keeps_refuse

theorem keeps_minusFlags (add : List Flag) : Keeps (minusFlags add) := by
  unfold minusFlags
  split
  · exact keeps_refuse
  · refine keeps_bind keeps_take fun token => ?_
    split
    · exact keeps_refuse
    · refine keeps_bind keeps_bound fun _ => keeps_bind (keeps_removedFlags _ _ _) fun remove => ?_
      split
      · exact keeps_refuse
      · exact keeps_pure _

theorem keeps_addedFlags (fuel : Nat) (done : List Flag) (c : Char) :
    Keeps (addedFlags fuel done c) := by
  induction fuel generalizing done c with
  | zero => exact keeps_refuse
  | succ fuel ih =>
      unfold addedFlags
      split
      · exact keeps_refuse
      · dsimp only
        split
        · exact keeps_refuse
        · split
          · exact keeps_refuse
          · refine keeps_bind keeps_take fun token => ?_
            split
            · exact keeps_pure _
            · split
              · exact keeps_refuse
              · exact keeps_pure _
            · exact keeps_minusFlags _
            · exact ih _ _
            · exact keeps_refuse

/-- A name is entered with its group, and only if it is new. -/
theorem keeps_openGroup (name : Option String) : Keeps (openGroup name) := by
  refine keeps_get_bind fun scan h => ?_
  have happend := h.append none
  split
  · split
    · exact keeps_refuse
    · rename_i name hnew
      have hlookup : scan.names.lookup name = none := Option.not_isSome_iff_eq_none.mp hnew
      refine keeps_bind (keeps_set ⟨happend.whole, ?_, ?_⟩) fun _ => keeps_pure _
      · refine List.forall_mem_cons.mpr ⟨?_, happend.names⟩
        simpa using h.whole
      · refine List.nodup_cons.mpr ⟨fun hmem => ?_, h.distinct⟩
        obtain ⟨entry, hentry, heq⟩ := List.mem_map.mp hmem
        have hne := List.lookup_eq_none_iff.mp hlookup entry hentry
        simp [heq] at hne
  · exact keeps_bind (keeps_set happend) fun _ => keeps_pure _

/-- Closing a group leaves as many groups as there were. -/
theorem keeps_closeGroup (index : Nat) (body : Node) : Keeps (closeGroup index body) :=
  keeps_modify fun _ h => h.congr rfl (List.length_set ..)

theorem keeps_behindNode (negated : Bool) (body : Node) : Keeps (behindNode negated body) := by
  refine keeps_get_bind fun scan h => ?_
  dsimp only
  split
  · exact keeps_bind (keeps_set (h.congr rfl rfl)) fun _ => keeps_pure _
  · exact keeps_pure _

theorem keeps_conditionGroup : Keeps conditionGroup := by
  have hcheck (index : Nat) : Keeps (do
      if (← get).lookBehind.isSome then checkGroup index
      return index : Reading Nat) := by
    refine keeps_get_bind fun scan _ => ?_
    split
    · exact keeps_bind (keeps_checkGroup _) fun _ => keeps_pure _
    · exact keeps_pure _
  refine keeps_bind keeps_bound fun _ => keeps_bind (keeps_takeUntil _ _ _) fun name => ?_
  split
  · refine keeps_get_bind fun scan _ => ?_
    split
    · exact hcheck _
    · exact keeps_refuse
  · split
    · exact keeps_bind (keeps_modify fun _ h => h.congr rfl rfl) fun _ => hcheck _
    · exact keeps_refuse

theorem keeps_groupName (close : Char) : Keeps (groupName close) := by
  refine keeps_bind keeps_bound fun _ => keeps_bind (keeps_takeUntil _ _ _) fun name => ?_
  split
  · exact keeps_pure _
  · exact keeps_refuse

theorem keeps_skipComment (fuel : Nat) : Keeps (skipComment fuel) := by
  induction fuel with
  | zero => exact keeps_refuse
  | succ fuel ih =>
      refine keeps_bind keeps_take fun token => ?_
      split
      · exact keeps_refuse
      · exact keeps_pure _
      · exact ih

theorem keeps_opening : Keeps opening := by
  refine keeps_bind (keeps_accept _) fun extended => ?_
  split
  · refine keeps_bind keeps_take fun token => ?_
    split
    · refine keeps_bind keeps_take fun kind => ?_
      split
      · exact keeps_bind (keeps_groupName _) fun _ => keeps_pure _
      · refine keeps_get_bind fun scan _ => keeps_bind (keeps_groupName _) fun name => ?_
        split
        · exact keeps_bind (keeps_checkGroup _) fun _ => keeps_pure _
        · exact keeps_refuse
      · exact keeps_refuse
    · exact keeps_pure _
    · exact keeps_bind keeps_bound fun _ => keeps_bind (keeps_skipComment _) fun _ => keeps_pure _
    · exact keeps_pure _
    · exact keeps_pure _
    · refine keeps_bind keeps_take fun kind => ?_
      split
      · exact keeps_pure _
      · exact keeps_pure _
      · exact keeps_refuse
    · exact keeps_pure _
    · exact keeps_pure _
    · exact keeps_bind (keeps_minusFlags _) fun _ => keeps_pure _
    · exact keeps_bind keeps_bound fun _ => keeps_bind (keeps_addedFlags _ _ _) fun _ =>
        keeps_pure _
    · exact keeps_refuse
  · exact keeps_pure _

theorem keeps_setFlags (add : List Flag) : Keeps (setFlags add) :=
  keeps_get_bind fun _ h => keeps_bind (keeps_set (h.congr rfl rfl)) fun _ => keeps_pure _

/-! ## Expressions -/

theorem keeps_skipLine (fuel : Nat) : Keeps (skipLine fuel) := by
  induction fuel with
  | zero => exact keeps_pure _
  | succ fuel ih =>
      refine keeps_bind keeps_take fun token => ?_
      split
      · exact keeps_pure _
      · exact keeps_pure _
      · exact ih

/-- What reads alternatives, a row and an enclosed part with the same fuel. -/
structure KeepsWith (fuel : Nat) : Prop where
  rows : ∀ top first flags, Keeps (rows top first flags fuel)
  row : ∀ spot done, Keeps (row spot fuel done)
  enclosed : ∀ flags, Keeps (enclosed flags fuel)

theorem keeps_rows {fuel : Nat} (ih : KeepsWith fuel) (top first : Bool) (flags : Flags) :
    Keeps (rows top first flags (fuel + 1)) := by
  rw [Regex.rows]
  refine keeps_bind (ih.row _ _) fun _ => keeps_bind (keeps_accept _) fun more => ?_
  split
  · exact keeps_get_bind fun _ _ => keeps_bind (ih.rows _ _ _) fun _ => keeps_pure _
  · exact keeps_pure _

theorem keeps_enclosed {fuel : Nat} (ih : KeepsWith fuel) (flags : Flags) :
    Keeps (enclosed flags (fuel + 1)) := by
  rw [Regex.enclosed]
  exact keeps_bind (ih.rows _ _ _) fun _ => keeps_bind (keeps_expect _) fun _ => keeps_pure _

theorem keeps_row {fuel : Nat} (ih : KeepsWith fuel) (spot : Spot) (done : List Piece) :
    Keeps (row spot (fuel + 1) done) := by
  rw [Regex.row]
  refine keeps_bind keeps_peek fun token => ?_
  split
  · exact keeps_pure _
  · exact keeps_pure _
  · exact keeps_pure _
  · exact keeps_refuse
  · exact keeps_bind keeps_skip fun _ => keeps_bind (keeps_escapeNode _ _) fun _ => ih.row _ _
  · refine keeps_bind keeps_skip fun _ => ?_
    split
    · exact ih.row _ _
    · split
      · exact keeps_bind keeps_bound fun _ => keeps_bind (keeps_skipLine _) fun _ => ih.row _ _
      · split
        case h_1 => exact keeps_bind (keeps_readSet _) fun _ => ih.row _ _
        case h_2 => exact keeps_bind (keeps_repeatLast _ _ _) fun _ => ih.row _ _
        case h_3 => exact keeps_bind (keeps_repeatLast _ _ _) fun _ => ih.row _ _
        case h_4 => exact keeps_bind (keeps_repeatLast _ _ _) fun _ => ih.row _ _
        case h_5 =>
          refine keeps_bind keeps_readCounts fun counts => ?_
          split
          · exact keeps_bind (keeps_repeatLast _ _ _) fun _ => ih.row _ _
          · exact ih.row _ _
        case h_6 => exact ih.row _ _
        case h_7 => exact ih.row _ _
        case h_8 => exact ih.row _ _
        case h_9 =>
          refine keeps_bind keeps_opening fun start => ?_
          cases start with
          | comment => exact ih.row _ _
          | backref index => exact ih.row _ _
          | plain => exact keeps_bind (ih.enclosed _) fun _ => ih.row _ _
          | atomic => exact keeps_bind (ih.enclosed _) fun _ => ih.row _ _
          | capture name =>
              exact keeps_bind (keeps_openGroup _) fun _ => keeps_bind (ih.enclosed _) fun _ =>
                keeps_bind (keeps_closeGroup _ _) fun _ => ih.row _ _
          | ahead negated => exact keeps_bind (ih.enclosed _) fun _ => ih.row _ _
          | behind negated =>
              refine keeps_get_bind fun before _ =>
                keeps_bind (keeps_modify fun _ h => h.congr rfl rfl) fun _ =>
                keeps_bind (ih.rows _ _ _) fun _ =>
                keeps_bind (keeps_modify fun _ h => h.congr rfl rfl) fun _ =>
                keeps_bind (keeps_expect _) fun _ =>
                keeps_bind (keeps_behindNode _ _) fun _ => ih.row _ _
          | conditional =>
              refine keeps_bind keeps_conditionGroup fun _ => keeps_bind (ih.row _ _) fun _ =>
                keeps_bind (keeps_accept _) fun otherwise => ?_
              split
              · exact keeps_bind (ih.row _ _) fun _ => keeps_bind (keeps_expect _) fun _ =>
                  ih.row _ _
              · exact keeps_bind (keeps_pure _) fun _ => keeps_bind (keeps_expect _) fun _ =>
                  ih.row _ _
          | flags change =>
              cases change with
              | whole add =>
                  dsimp only
                  split
                  · exact keeps_bind (keeps_setFlags _) fun _ => ih.row _ _
                  · exact keeps_refuse
              | inside add remove => exact keeps_bind (ih.enclosed _) fun _ => ih.row _ _
        case h_10 => exact ih.row _ _

theorem keepsWith (fuel : Nat) : KeepsWith fuel := by
  -- every one of the three calls the others with one step less
  induction fuel with
  | zero =>
      refine ⟨fun top first flags => ?_, fun spot done => ?_, fun flags => ?_⟩
      · rw [Regex.rows]
        exact keeps_refuse
      · rw [Regex.row]
        exact keeps_refuse
      · rw [Regex.enclosed]
        exact keeps_refuse
  | succ fuel ih => exact ⟨keeps_rows ih, keeps_row ih, keeps_enclosed ih⟩

end Reading

open Reading

/-- The names that an expression has are those of its groups. -/
def Pattern.IsNumbered (p : Pattern) : Prop := ∀ entry ∈ p.names, 0 < entry.2 ∧ entry.2 ≤ p.groups

/-- The names that an expression has are those of its groups, and all different. -/
structure Pattern.IsNamed (p : Pattern) : Prop where
  numbered : p.IsNumbered
  distinct : (p.names.map Prod.fst).Nodup

/-- From a state in which names are those of groups, the reader reads an expression of that kind. -/
def Reading.ReadsNamed (m : Reading Pattern) : Prop :=
  ∀ scan p scan', m.run scan = .ok (p, scan') → scan.IsNumbered → p.IsNamed

namespace Reading

theorem readsNamed_bind {α : Type} {m : Reading α} {f : α → Reading Pattern} (hm : Keeps m)
    (hf : ∀ a, ReadsNamed (f a)) : ReadsNamed (m >>= f) := by
  intro scan p scan' hrun h
  rw [StateT.run_bind] at hrun
  cases hfirst : m.run scan with
  | error fault => rw [hfirst] at hrun; cases hrun
  | ok after =>
      rw [hfirst] at hrun
      exact hf after.1 after.2 p scan' hrun (hm scan after.1 after.2 hfirst h)

theorem readsNamed_get_bind {f : Scan → Reading Pattern}
    (hf : ∀ scan, scan.IsNumbered → ReadsNamed (f scan)) : ReadsNamed (get >>= f) :=
  fun scan p scan' hrun h => hf scan h scan p scan' hrun h

theorem readsNamed_pure {p : Pattern} (h : p.IsNamed) : ReadsNamed (pure p) := by
  rintro scan _ scan' ⟨⟩ _
  exact h

theorem readsNamed_throw (fault : Fault) : ReadsNamed (throw fault) := by
  rintro scan p scan' ⟨⟩

end Reading

theorem readsNamed_whole (fuel : Nat) : ReadsNamed (whole fuel) := by
  refine readsNamed_get_bind fun start _ => readsNamed_bind ((keepsWith fuel).rows _ _ _)
    fun rows => readsNamed_get_bind fun scan h => ?_
  dsimp only
  split
  · exact readsNamed_throw _
  · refine readsNamed_bind keeps_peek fun token => ?_
    split
    · exact readsNamed_throw _
    · split
      · exact readsNamed_throw _
      · split
        · exact readsNamed_throw _
        · refine readsNamed_pure ⟨fun entry hentry => ?_, ?_⟩
          · have hnames := h.names entry (List.mem_reverse.mp hentry)
            exact ⟨hnames.1, Nat.le_sub_one_of_lt hnames.2⟩
          · show (scan.names.reverse.map Prod.fst).Nodup
            rw [List.map_reverse]
            exact (List.reverse_perm _).nodup_iff.mpr h.distinct

theorem isNamed_of_compile {ignoreCase : Bool} {s : String} {p : Pattern}
    (h : compile ignoreCase s = .ok p) : p.IsNamed := by
  obtain ⟨⟨_, scan'⟩, hrun, rfl⟩ := ok_of_map h
  exact readsNamed_whole _ _ _ scan' hrun ⟨Nat.one_pos, by simp, .nil⟩

/-- **An expression has every group that it has a name for.** -/
theorem isNumbered_of_compile {ignoreCase : Bool} {s : String} {p : Pattern}
    (h : compile ignoreCase s = .ok p) : p.IsNumbered :=
  (isNamed_of_compile h).numbered

/-- **No two groups of an expression have the same name.** -/
theorem nodup_names_of_compile {ignoreCase : Bool} {s : String} {p : Pattern}
    (h : compile ignoreCase s = .ok p) : (p.names.map Prod.fst).Nodup :=
  (isNamed_of_compile h).distinct

end Triage.Regex
