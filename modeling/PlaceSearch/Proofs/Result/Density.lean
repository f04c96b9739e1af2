-- SUMMARY: Which cells of a density layer can be drawn: all that come from indices, and those whose geography is written closed.
import PlaceSearch.Geo.Degrees
import PlaceSearch.Proofs.Geo.CellGrid
import PlaceSearch.Proofs.Result.Rows

/-!
# Rings of density layers

The cells of parallel arrays get their rings from a grid, and such a ring is closed. The
cells of function rows get theirs from a text, position by position as it is written, so
an open ring in a row is an open ring in the layer.
-/

namespace PlaceSearch

namespace Layer

variable {R : Type}

/-! ## Parallel arrays -/

/-- A cell of parallel arrays has the ring of the index it names. -/
theorem ringOf_of_mem_ofArrays {ringOf : String → Option (List (Point R))} {t : Table}
    {l : Layer R} (h : ofArrays ringOf t = .ok (some l)) {x : Hexagon R} (hx : x ∈ l.hexagons) :
    ∃ text, x.index = some text ∧ ringOf text = some x.ring := by
  obtain ⟨-, hnone⟩ | ⟨indices, counts, -, hdrawn⟩ := ofArrays_eq_ok_iff.mp h
  · cases hnone
  · rw [ofHexagons?_eq_some hdrawn.symm, paired, List.mem_filterMap] at hx
    obtain ⟨⟨index, count⟩, -, hhexagon⟩ := hx
    simp only [hexagonOf?, Option.bind_eq_some_iff, Option.map_eq_some_iff] at hhexagon
    obtain ⟨text, -, ring, hring, rfl⟩ := hhexagon
    exact ⟨text, rfl, hring⟩

/-! ## Function rows -/

variable [Coordinate R] {t : Table} {l : Layer R} {row : List Cell}

/-- The cells of a layer have the rings written in the rows that can be read, in order. -/
theorem writes_of_ofRows? (h : ofRows? t = some l) :
    List.Forall₂ (fun row x => Writes t row x.ring)
      (t.rows.filter fun row => ¬ IsUnreadable R t row) l.hexagons := by
  have hshown := showsRow_cells_ofRows? (R := R) t
  rw [h] at hshown
  exact hshown.imp fun _ _ hrow => hrow.ring

/-- Every cell has a ring that is written in some row. -/
theorem exists_writes_of_mem (h : ofRows? t = some l) {x : Hexagon R} (hx : x ∈ l.hexagons) :
    ∃ row ∈ t.rows, Writes t row x.ring := by
  rw [ofHexagons?_eq_some h] at hx
  obtain ⟨row, hrow, hhexagon⟩ := List.mem_filterMap.mp hx
  exact ⟨row, hrow, (showsRow_of_hexagonOfRow? hhexagon).ring⟩

/-- Every ring that is written in a row is the one of some cell. -/
theorem exists_mem_of_writes {ring : List (Point R)} (hrow : row ∈ t.rows)
    (hring : Writes t row ring) : ∃ l, ofRows? t = some l ∧ ∃ x ∈ l.hexagons, x.ring = ring := by
  obtain ⟨text, hcell, hring⟩ := hring
  obtain ⟨x, hx, hxring⟩ : ∃ x, hexagonOfRow? (.ofTable t) row = some x ∧ x.ring = ring := by
    simp only [hexagonOfRow?, FunctionColumns.ofTable, rowHas_iff.mp hcell, Option.bind_some,
      Cell.text?, hring]
    exact ⟨_, rfl, rfl⟩
  have hmem : x ∈ t.rows.filterMap (hexagonOfRow? (.ofTable t)) :=
    List.mem_filterMap.mpr ⟨row, hrow, hx⟩
  obtain ⟨l, hl⟩ := exists_ofHexagons?_eq_some_iff.mpr (List.ne_nil_of_mem hmem)
  exact ⟨l, hl, x, by rwa [ofHexagons?_eq_some hl], hxring⟩

end Layer

/-! ## Both kinds of layers -/

variable {R : Type} [Coordinate R]

/-- Which cells of the layers of a table can be drawn. -/
structure Table.DrawableAsWritten (grid : CellGrid R) (t : Table) : Prop where
  /-- All those that come from indices of the grid. -/
  arrays : ∀ l, Layer.ofArrays grid.ringOf t = .ok (some l) → ∀ x ∈ l.hexagons, IsDrawable x.ring
  /-- Those that come from rows have the rings written there, nothing added. -/
  rings : ∀ l : Layer R, Layer.ofRows? t = some l →
    List.Forall₂ (fun row x => Layer.Writes t row x.ring)
      (t.rows.filter fun row => ¬ Layer.IsUnreadable R t row) l.hexagons
  /-- So all of these can be drawn just if every ring that can be read is written closed. -/
  rows_iff : (∀ l : Layer R, Layer.ofRows? t = some l → ∀ x ∈ l.hexagons, IsDrawable x.ring) ↔
    ∀ row ∈ t.rows, ∀ ring : List (Point R), Layer.Writes t row ring → IsDrawable ring

theorem Table.drawableAsWritten {grid : CellGrid R} (hgrid : grid.HasCorners) (t : Table) :
    t.DrawableAsWritten grid where
  arrays l h x hx := by
    obtain ⟨text, -, hring⟩ := Layer.ringOf_of_mem_ofArrays h hx
    exact CellGrid.isDrawable_of_ringOf hgrid hring
  rings l h := Layer.writes_of_ofRows? h
  rows_iff := by
    constructor
    · intro hlayers row hrow ring hring
      obtain ⟨l, hl, x, hx, rfl⟩ := Layer.exists_mem_of_writes hrow hring
      exact hlayers l hl x hx
    · intro hwritten l hl x hx
      obtain ⟨row, hrow, hring⟩ := Layer.exists_writes_of_mem hl hx
      exact hwritten row hrow x.ring hring

/-- A grid of which one cell of Paris is known, by its corners to the sixth decimal. -/
def CellGrid.paris : CellGrid Degrees where
  Index := Unit
  read? text := if text = "8a1fb46622dffff" then some () else none
  boundary _ := [
    ⟨.ofFloat 48.854733, .ofFloat 2.373644⟩, ⟨.ofFloat 48.854569, .ofFloat 2.372742⟩,
    ⟨.ofFloat 48.853926, .ofFloat 2.372553⟩, ⟨.ofFloat 48.853446, .ofFloat 2.373265⟩,
    ⟨.ofFloat 48.853609, .ofFloat 2.374167⟩, ⟨.ofFloat 48.854253, .ofFloat 2.374357⟩]

/-- Two indices with their counts, of which the second is the one of a cell. -/
def Table.parisCell : Table where
  fields := ["indices", "counts"]
  rows := [[.array [.scalar "not-a-cell", .scalar "8a1fb46622dffff"],
    .array [.scalar "5", .scalar "2"]]]
  totalRows := some 1

theorem Table.drawableAsWritten_parisCell :
    CellGrid.paris.HasCorners ∧
      ∃ l, Layer.ofArrays CellGrid.paris.ringOf parisCell = .ok (some l) ∧
        l.hexagons.map Hexagon.count = [2] ∧ ∀ x ∈ l.hexagons, IsDrawable x.ring := by
  have hcorners : CellGrid.paris.HasCorners := fun _ => Nat.le_succ 5
  refine ⟨hcorners, _, rfl, ?_, ?_⟩
  · decide +kernel
  · exact (Table.drawableAsWritten hcorners parisCell).arrays _ rfl

/-- Not every cell can be drawn: a row that writes an open square becomes a cell with
    the open square as its ring. -/
theorem Table.not_forall_isDrawable :
    ¬ ∀ (t : Table) (l : Layer Degrees), Layer.ofRows? t = some l →
      ∀ x ∈ l.hexagons, IsDrawable x.ring := by
  intro hall
  let row : List Cell :=
    [.scalar "8a1fb46622dffff", .scalar "POLYGON((0 0, 1 0, 1 1, 0 1))", .scalar "3"]
  let square : List (Point Degrees) :=
    [⟨.ofFloat 0, .ofFloat 0⟩, ⟨.ofFloat 0, .ofFloat 1⟩, ⟨.ofFloat 1, .ofFloat 1⟩,
      ⟨.ofFloat 1, .ofFloat 0⟩]
  let t : Table := ⟨["h3_cell_index", "geography", "count"], [row], none⟩
  have hwritten : Layer.Writes t row square :=
    ⟨"POLYGON((0 0, 1 0, 1 1, 0 1))", Layer.rowHas_iff.mpr rfl, by decide +kernel⟩
  obtain ⟨l, hl, x, hx, hring⟩ := Layer.exists_mem_of_writes (List.mem_singleton_self row) hwritten
  have hclosed := (hring ▸ hall t l hl x hx).closed
  revert hclosed
  decide +kernel

end PlaceSearch
