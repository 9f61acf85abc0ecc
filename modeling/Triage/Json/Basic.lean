import Triage.Decimal.Binary64

/-!
# JSON values

The values of the documents the library reads and writes. Whole numbers and numbers with a fraction
are different values, and the members of an object keep their order.
-/

namespace Triage

/-- A JSON value. -/
inductive Json where
  | null
  | bool (value : Bool)
  | int (value : Int)
  | float (value : Binary64)
  | string (value : String)
  | array (items : List Json)
  | object (fields : List (String × Json))
  deriving Repr, Inhabited

/-- Named values in order. Reading a document never gives one name twice. -/
abbrev Record := List (String × Json)

namespace Record

/-- The value under a name. -/
def get? (r : Record) (name : String) : Option Json := r.lookup name

/-- The value under a name; an absent one is null. -/
def getD (r : Record) (name : String) : Json := (r.get? name).getD .null

/-- The name is present. -/
def has (r : Record) (name : String) : Bool := (r.get? name).isSome

/-- Gives a name a value: in place where the name is present, else at the end. -/
def set (r : Record) (name : String) (value : Json) : Record :=
  match r with
  | [] => [(name, value)]
  | field :: rest => if field.1 = name then (name, value) :: rest else field :: set rest name value

/-- Gives a name a value unless it is present. -/
def setDefault (r : Record) (name : String) (value : Json) : Record :=
  if r.has name then r else r.set name value

/-- Lays the fields of `upper` on `base`. -/
def overlay (base upper : Record) : Record :=
  upper.foldl (fun r field => r.set field.1 field.2) base

/-- Takes a name out. -/
def erase (r : Record) (name : String) : Record := r.filter fun field => field.1 ≠ name

/-- The names in order. -/
def names (r : Record) : List String := r.map Prod.fst

@[simp] theorem get?_nil (name : String) : get? [] name = none := rfl

/-- The first field of a name counts. -/
theorem get?_cons (field : String × Json) (rest : Record) (name : String) :
    get? (field :: rest) name = if name = field.1 then some field.2 else rest.get? name := by
  obtain ⟨key, v⟩ := field
  by_cases h : name = key
  · simp [get?, h]
  · have hb : (name == key) = false := by simpa using h
    simp [get?, List.lookup_cons, h, hb]

/-- Setting a name settles its value and no other. -/
theorem get?_set (r : Record) (name : String) (value : Json) (other : String) :
    (r.set name value).get? other = if other = name then some value else r.get? other := by
  induction r with
  | nil => simp [set, get?_cons]
  | cons field rest ih =>
    by_cases hk : field.1 = name
    · by_cases h : other = name <;> simp [set, hk, get?_cons, h]
    · by_cases h : other = field.1
      · simp [set, hk, get?_cons, h]
      · simp [set, hk, get?_cons, h, ih]

/-- Taking a name out leaves the others. -/
theorem get?_erase (r : Record) (name other : String) :
    (r.erase name).get? other = if other = name then none else r.get? other := by
  unfold erase
  induction r with
  | nil => simp
  | cons field rest ih =>
    by_cases hk : field.1 = name
    · rw [List.filter_cons_of_neg (by simp [hk]), ih, get?_cons, hk]
      split <;> rfl
    · rw [List.filter_cons_of_pos (by simp [hk]), get?_cons, ih, get?_cons]
      by_cases h : other = field.1
      · simp [h, hk]
      · simp [h]

end Record

namespace Json

/-- The value is null. -/
def isNull : Json → Bool
  | .null => true
  | _ => false

theorem isNull_iff {v : Json} : v.isNull = true ↔ v = .null := by
  cases v <;> simp [isNull]

theorem isNull_eq_false_iff {v : Json} : v.isNull = false ↔ v ≠ .null := by
  rw [← Bool.not_eq_true, isNull_iff]

/-- A null, a false, a zero or an empty text or container counts as nothing. -/
def isNothing : Json → Bool
  | .null => true
  | .bool b => !b
  | .int n => n == 0
  | .float x => x.eqv .zero
  | .string s => s.isEmpty
  | .array items => items.isEmpty
  | .object fields => fields.isEmpty

mutual

/-- Every number in the value is finite. -/
def isFinite : Json → Bool
  | .float x => x.isFinite
  | .array items => allFinite items
  | .object fields => allFieldsFinite fields
  | _ => true

/-- Every number in the elements is finite. -/
def allFinite : List Json → Bool
  | [] => true
  | v :: items => v.isFinite && allFinite items

/-- Every number in the members is finite. -/
def allFieldsFinite : List (String × Json) → Bool
  | [] => true
  | (_, v) :: fields => v.isFinite && allFieldsFinite fields

end

end Json

end Triage
