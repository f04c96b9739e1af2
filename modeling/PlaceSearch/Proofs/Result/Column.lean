-- SUMMARY: Which cell of a row a column name stands for: that of the first field of the name, or one at an agreed position.
import Mathlib.Data.List.Forall2
import PlaceSearch.Result.Density

/-!
# Columns

A result names its fields, and columns are looked up by name, in any case of the ASCII
letters. Of two fields of one name the first counts. A name that no field has stands for
a position that is agreed on, which may lie behind the end of a row.
-/

namespace PlaceSearch

/-! ## Kinds of cells -/

namespace Cell

/-- A cell with a single value. -/
def isScalar : Cell → Bool
  | .scalar _ => true
  | _ => false

theorem text?_eq_some_iff {cell : Cell} {text : String} :
    cell.text? = some text ↔ cell = .scalar text := by
  cases cell <;> simp [text?]

theorem text?_eq_none_iff {cell : Cell} : cell.text? = none ↔ ∀ text, cell ≠ .scalar text := by
  simp only [Option.eq_none_iff_forall_ne_some, Ne, text?_eq_some_iff]

theorem items?_eq_some_iff {cell : Cell} {items : List Cell} :
    cell.items? = some items ↔ cell = .array items := by
  cases cell <;> simp [items?]

theorem items?_eq_none_iff {cell : Cell} : cell.items? = none ↔ ∀ items, cell ≠ .array items := by
  simp only [Option.eq_none_iff_forall_ne_some, Ne, items?_eq_some_iff]

end Cell

/-! ## Names -/

/-- The same name, the case of ASCII letters aside (`Char.toLower` moves no others). -/
def SameName (field name : String) : Prop :=
  List.Forall₂ (fun c d => c.toLower = d.toLower) field.toList name.toList

/-- The position at which a name stands, if the one agreed on is `agreed`. -/
inductive StandsAt (fields : List String) (name : String) (agreed : Nat) : Nat → Prop where
  | named (i : Nat) (field : String) (hfield : fields[i]? = some field)
      (hname : SameName field name) (hfirst : ∀ other ∈ fields.take i, ¬ SameName other name) :
      StandsAt fields name agreed i
  | unnamed (hnone : ∀ field ∈ fields, ¬ SameName field name) : StandsAt fields name agreed agreed

namespace Table

/-- What a row of a table has under a name: its cell at the position of the name, or none if
    the row ends before. -/
def RowHas (t : Table) (row : List Cell) (name : String) (agreed : Nat) (cell : Option Cell) :
    Prop :=
  ∃ i, StandsAt t.fields name agreed i ∧ row[i]? = cell

/-- What the first row has. -/
def FirstRowHas (t : Table) (name : String) (agreed : Nat) (cell : Option Cell) : Prop :=
  ∃ row ∈ t.rows.head?, t.RowHas row name agreed cell

end Table

/-! ## Lookup -/

variable {fields : List String} {name field : String} {agreed i j : Nat}

theorem sameName_iff :
    SameName field name ↔ field.toList.map Char.toLower = name.toList.map Char.toLower := by
  rw [SameName, ← List.forall₂_eq_eq_eq, List.forall₂_map_left_iff, List.forall₂_map_right_iff]

/-- A field of a name is not before the first one. -/
theorem le_of_sameName (hfield : fields[i]? = some field) (hname : SameName field name)
    (hfirst : ∀ other ∈ fields.take j, ¬ SameName other name) : j ≤ i := by
  by_contra hlt
  have hmem : field ∈ fields.take j :=
    List.mem_of_getElem? (by rwa [List.getElem?_take_of_lt (Nat.lt_of_not_le hlt)])
  exact hfirst field hmem hname

/-- A name stands at one position only. -/
theorem StandsAt.unique (hi : StandsAt fields name agreed i) (hj : StandsAt fields name agreed j) :
    i = j := by
  cases hi with
  | named _ field hfield hname hfirst =>
    cases hj with
    | named _ field' hfield' hname' hfirst' =>
      exact Nat.le_antisymm (le_of_sameName hfield' hname' hfirst)
        (le_of_sameName hfield hname hfirst')
    | unnamed hnone => exact absurd hname (hnone field (List.mem_of_getElem? hfield))
  | unnamed hnone =>
    cases hj with
    | named _ field hfield hname _ =>
      exact absurd hname (hnone field (List.mem_of_getElem? hfield))
    | unnamed => rfl

/-- A row has one thing under a name. -/
theorem Table.RowHas.unique {t : Table} {row : List Cell} {cell cell' : Option Cell}
    (h : t.RowHas row name agreed cell) (h' : t.RowHas row name agreed cell') : cell = cell' := by
  obtain ⟨i, hi, rfl⟩ := h
  obtain ⟨j, hj, rfl⟩ := h'
  rw [hi.unique hj]

theorem Table.FirstRowHas.unique {t : Table} {cell cell' : Option Cell}
    (h : t.FirstRowHas name agreed cell) (h' : t.FirstRowHas name agreed cell') : cell = cell' := by
  obtain ⟨row, hrow, hcell⟩ := h
  obtain ⟨row', hrow', hcell'⟩ := h'
  cases hrow.symm.trans hrow'
  exact hcell.unique hcell'

namespace Layer

/-- The position that is looked up is the one at which the name stands. -/
theorem standsAt_column (t : Table) (name : String) (agreed : Nat) :
    StandsAt t.fields name agreed (column t name agreed) := by
  cases hposition : t.position? name with
  | none =>
    rw [column, hposition, Option.getD_none]
    rw [Table.position?, List.findIdx?_eq_none_iff] at hposition
    refine .unnamed fun field hfield => ?_
    simpa [sameName_iff] using hposition field hfield
  | some i =>
    rw [column, hposition, Option.getD_some]
    rw [Table.position?, List.findIdx?_eq_some_iff_getElem] at hposition
    obtain ⟨hi, hname, hfirst⟩ := hposition
    refine .named i t.fields[i] (List.getElem?_eq_getElem hi) (sameName_iff.mpr ?_) ?_
    · simpa using hname
    · intro other hother
      obtain ⟨j, hj, rfl⟩ := List.mem_take_iff_getElem.mp hother
      simpa [sameName_iff] using hfirst j (by omega)

/-- The first field of a name counts, in whatever case it is written. -/
example : column ⟨["counts", "INDICES", "indices"], [], none⟩ "indices" 0 = 1 := by decide

theorem rowHas_iff {t : Table} {row : List Cell} {cell : Option Cell} :
    t.RowHas row name agreed cell ↔ row[column t name agreed]? = cell := by
  constructor
  · rintro ⟨i, hi, hcell⟩
    rwa [(standsAt_column t name agreed).unique hi]
  · intro hcell
    exact ⟨_, standsAt_column t name agreed, hcell⟩

theorem firstRowHas_iff {t : Table} {cell : Option Cell} :
    t.FirstRowHas name agreed cell ↔
      ∃ row, t.rows.head? = some row ∧ row[column t name agreed]? = cell :=
  exists_congr fun _ => and_congr_right fun _ => rowHas_iff

end Layer

end PlaceSearch
