-- SUMMARY: When the last line of a run warns that rows are missing: for counts, whenever the reply says so.
import Mathlib.Data.List.Infix
import PlaceSearch.Proofs.Query.Outline
import PlaceSearch.Proofs.Session.Run

/-!
# Warnings about missing rows

A reply may give the number of rows in all, which can be more than it carries. Counts
are shown as the rows they are, so their last line then says how many of how many are
at hand. Cells are drawn without a word about those that are missing.
-/

namespace PlaceSearch

/-- The number of rows in all that a reply gives. -/
def QueryReply.Reports (r : QueryReply) (total : Nat) : Prop :=
  ∃ text, r.totalRows = some text ∧ readNatUpTo? total text = some total

/-- A text that holds a warning. -/
def CarriesWarning (text : String) : Prop := "Warning:".toList <:+: text.toList

instance : DecidablePred CarriesWarning := fun text =>
  inferInstanceAs (Decidable ("Warning:".toList <:+: text.toList))

/-! ## Numbers of rows -/

/-- The bound of a reader decides only whether a number is taken. -/
theorem readNatUpTo?_eq_some_iff {high n : Nat} {text : String} :
    readNatUpTo? high text = some n ↔ n ≤ high ∧ readNatUpTo? n text = some n := by
  unfold readNatUpTo?
  simp only [Option.bind_eq_some_iff, Option.ite_none_right_eq_some, Option.some.injEq]
  constructor
  · rintro ⟨m, hread, hle, rfl⟩
    exact ⟨hle, m, hread, Nat.le_refl m, rfl⟩
  · rintro ⟨hle, m, hread, -, rfl⟩
    exact ⟨m, hread, hle, rfl⟩

namespace Table

/-- A table has the number of rows that its reply gives, if it fits 64 bits. -/
theorem totalRows_ofReply_eq_some_iff {r : QueryReply} {total : UInt64} :
    (ofReply r).totalRows = some total ↔ r.Reports total.toNat := by
  have hfits : total.toNat ≤ UInt64.size - 1 := Nat.le_sub_one_of_lt total.toNat_lt
  unfold ofReply QueryReply.Reports
  simp only [Option.map_eq_some_iff, Option.bind_eq_some_iff]
  constructor
  · rintro ⟨n, ⟨text, htext, hread⟩, rfl⟩
    obtain ⟨hle, hread⟩ := readNatUpTo?_eq_some_iff.mp hread
    have hn : n.toUInt64.toNat = n :=
      UInt64.toNat_ofNat_of_lt' (Nat.lt_of_le_pred (by decide) hle)
    exact ⟨text, htext, hn.symm ▸ hread⟩
  · rintro ⟨text, htext, hread⟩
    refine ⟨total.toNat, ⟨text, htext, readNatUpTo?_eq_some_iff.mpr ⟨hfits, hread⟩⟩, ?_⟩
    exact UInt64.ofNat_toNat

theorem length_rows_ofReply (r : QueryReply) : (ofReply r).rows.length = r.rows.length :=
  List.length_map _

end Table

namespace Run

/-- More rows than are at hand are warned about. -/
theorem truncationWarning_of_lt {r : QueryReply} {total : UInt64} (hreports : r.Reports total.toNat)
    (hmore : r.rows.length < total.toNat) :
    truncationWarning (.ofReply r) =
      s!" Warning: Displaying {r.rows.length} of {total.toNat} total rows." := by
  rw [← Table.totalRows_ofReply_eq_some_iff] at hreports
  rw [← Table.length_rows_ofReply] at hmore ⊢
  have hpartial : (Table.ofReply r).isPartial = true := by
    rw [Table.isPartial, hreports]
    exact decide_eq_true hmore
  rw [truncationWarning, if_pos hpartial, hreports, Option.getD_some]

theorem line_of_lt {r : QueryReply} {total : UInt64} (hreports : r.Reports total.toNat)
    (hmore : r.rows.length < total.toNat) :
    success ++ truncationWarning (.ofReply r) =
      s!"Query successful. Warning: Displaying {r.rows.length} of {total.toNat} total rows." := by
  rw [truncationWarning_of_lt hreports hmore]
  have hfront : success ++ toString " Warning: Displaying " =
      toString "Query successful. Warning: Displaying " := rfl
  simp only [← String.append_assoc, hfront]

theorem carriesWarning_of_lt {r : QueryReply} {total : UInt64} (hreports : r.Reports total.toNat)
    (hmore : r.rows.length < total.toNat) :
    CarriesWarning (success ++ truncationWarning (.ofReply r)) := by
  rw [line_of_lt hreports hmore]
  have hfront : "Query successful. Warning: Displaying ".toList =
      "Query successful. ".toList ++ "Warning:".toList ++ " Displaying ".toList := rfl
  refine ⟨"Query successful. ".toList,
    s!" Displaying {r.rows.length} of {total.toNat} total rows.".toList, ?_⟩
  simp only [toString, String.toList_append, hfront, List.append_assoc]

/-- Nothing else is. -/
theorem truncationWarning_of_le {r : QueryReply}
    (hall : ∀ total : UInt64, r.Reports total.toNat → total.toNat ≤ r.rows.length) :
    truncationWarning (.ofReply r) = "" := by
  have hwhole : ¬ (Table.ofReply r).isPartial = true := by
    rw [Table.isPartial]
    split
    · next total htotal =>
      have hle := hall total (Table.totalRows_ofReply_eq_some_iff.mp htotal)
      rw [← Table.length_rows_ofReply] at hle
      simpa using hle
    · exact Bool.false_ne_true
  rw [truncationWarning, if_neg hwhole]

/-! ## Runs -/

variable {R : Type} [Coordinate R]

/-- A run gets a reply, completes, and ends with a line. -/
structure CompletesOn (services : Services R) (ringOf : String → Option (List (Point R)))
    (territory : Territory) (f : Form R) (r : QueryReply) (result : Completed R) (line : String) :
    Prop where
  completed : (perform services ringOf territory f).value.2 = .ok (.completed result)
  answered : ∃ token, services.token = .ok token ∧
    services.execute result.statement token = .ok (.ofReply r)
  last : ∃ level, (perform services ringOf territory f).events.getLast? = some (.status level line)

variable {services : Services R} {ringOf : String → Option (List (Point R))}
  {territory : Territory} {f : Form R} {r : QueryReply} {result : Completed R} {line : String}

/-- The last line is what the interpretation of the reply says. -/
theorem CompletesOn.interpret_eq (h : CompletesOn services ringOf territory f r result line) :
    ∃ center, interpret ringOf result.shape center (.ofReply r) = .ok (result.display, line) := by
  obtain ⟨scope, token, -, htoken, hquery⟩ := outcome_eq_completed h.completed
  obtain ⟨-, -, table, hanswer, hview⟩ := query_eq_ok hquery
  obtain ⟨_, htoken', hreply⟩ := h.answered
  obtain ⟨level, hlast⟩ := h.last
  rw [htoken] at htoken'
  cases htoken'
  rw [hanswer] at hreply
  cases hreply
  rw [perform_events, List.getLast?_append, ← perform_outcome, h.completed] at hlast
  cases hlast
  exact ⟨scope.center, hview⟩

theorem interpret_of_isCount {shape : Shape} (hshape : shape.isCount = true) (center : Point R)
    (t : Table) : interpret ringOf shape center t =
      .ok (.summary (Summary.ofTable t center), success ++ truncationWarning t) := by
  cases shape <;> first | rfl | cases hshape

/-- The last line of a run that counts says how many of how many rows are shown, if the reply
    gives a larger number of rows than it carries. Without such a warning it carries them all.
    Replies whose job has not finished are left out of the last part on purpose: no run looks at
    `jobComplete`, and what should be said of such a reply is left open. -/
theorem warnsOfMissingRows (h : CompletesOn services ringOf territory f r result line)
    (hshape : result.shape.isCount = true) :
    (¬ CarriesWarning line → ∀ total : UInt64, r.Reports total.toNat →
      total.toNat ≤ r.rows.length) ∧
    (∀ total : UInt64, r.Reports total.toNat → r.rows.length < total.toNat →
      line = s!"Query successful. Warning: Displaying {r.rows.length} of {total.toNat} total rows.") ∧
    (r.jobComplete ≠ some false →
      (∀ total : UInt64, r.Reports total.toNat → total.toNat ≤ r.rows.length) →
      line = "Query successful.") := by
  obtain ⟨center, hview⟩ := h.interpret_eq
  rw [interpret_of_isCount hshape, Except.ok.injEq, Prod.mk.injEq] at hview
  obtain ⟨-, rfl⟩ := hview
  -- that the job has finished makes no difference to the line, so the last part has no use for it
  refine ⟨fun hsilent total hreports => ?_, fun total hreports hmore => ?_, fun _ hall => ?_⟩
  · by_contra hmore
    exact hsilent (carriesWarning_of_lt hreports (Nat.lt_of_not_le hmore))
  · exact line_of_lt hreports hmore
  · rw [truncationWarning_of_le hall]
    rfl

/-- Collaborators that give one reply to every statement. -/
def replying (r : QueryReply) : Services Degrees where
  geocode _ := .ok none
  route _ _ := .error (.service .noRoutes)
  token := .ok ""
  execute _ _ := .ok (.ofReply r)

/-- A new form in some mode, with a center. -/
def centered (mode : Mode) : Form Degrees :=
  { (Form.new .standard).resetTo mode with center := some ⟨.ofFloat 52.5, .ofFloat 13.4⟩ }

/-- Places around a center are counted. -/
theorem completesOn_circle (r : QueryReply) :
    ∃ result, CompletesOn (replying r) (fun _ => none) berlin (centered .circle) r result
      (success ++ truncationWarning (.ofReply r)) ∧ result.shape = .total :=
  ⟨_, ⟨rfl, ⟨"", rfl, rfl⟩, ⟨.success, rfl⟩⟩, rfl⟩

/-- The density function gives cells, and a line that says nothing of rows. -/
theorem completesOn_function {r : QueryReply} {layer : Layer Degrees}
    (hlayer : Layer.ofRows? (.ofReply r) = some layer) :
    ∃ result, CompletesOn (replying r) (fun _ => none) berlin (centered .function) r result
      success ∧ result.shape = .function := by
  let center : Point Degrees := ⟨.ofFloat 52.5, .ofFloat 13.4⟩
  let f := centered .function
  let statement := queryText berlin f (.ofCondition none center)
  have hview : interpret (fun _ => none) .function center (.ofReply r) =
      .ok (.density layer, success) := by
    rw [interpret, hlayer]
  have hcourse : (perform (replying r) (fun _ => none) berlin f).value.2 =
      ((interpret (fun _ => none) .function center (.ofReply r)).map fun (display, message) =>
        ⟨.function, statement, display, message, none⟩).map .completed := rfl
  rw [hview] at hcourse
  have hlast : (perform (replying r) (fun _ => none) berlin f).events.getLast? =
      some (.status .success success) := by
    rw [perform_events, List.getLast?_append, ← perform_outcome, hcourse]
    rfl
  exact ⟨_, ⟨hcourse, ⟨"", rfl, rfl⟩, ⟨_, hlast⟩⟩, rfl⟩

theorem warnsOfMissingRows_oneOfForty :
    let r : QueryReply := ⟨["total_count"], [[.text "7"]], some "40", some true⟩
    r.Reports 40 ∧ ∃ result, CompletesOn (replying r) (fun _ => none) berlin (centered .circle) r
      result "Query successful. Warning: Displaying 1 of 40 total rows." := by
  intro r
  have hreports : r.Reports 40 := ⟨"40", rfl, by decide⟩
  obtain ⟨result, hrun, hshape⟩ := completesOn_circle r
  obtain ⟨-, hwarns, -⟩ := warnsOfMissingRows hrun (by rw [hshape]; rfl)
  have hline : success ++ truncationWarning (.ofReply r) =
      "Query successful. Warning: Displaying 1 of 40 total rows." :=
    (hwarns 40 hreports (by decide)).trans (by decide)
  exact ⟨hreports, result, hline ▸ hrun⟩

/-- A run can complete without a warning on a reply whose job has not finished, on a reply with
    more cells than it carries, and on one with more rows than 64 bits can count. -/
theorem not_forall_warned :
    ¬ (∀ (services : Services Degrees) ringOf territory f r result line,
        CompletesOn services ringOf territory f r result line → ¬ CarriesWarning line →
          r.jobComplete ≠ some false) ∧
      ¬ (∀ (services : Services Degrees) ringOf territory f r result line,
        CompletesOn services ringOf territory f r result line → ¬ CarriesWarning line →
          ∀ total, r.Reports total → total ≤ r.rows.length) ∧
      ¬ (∀ (services : Services Degrees) ringOf territory f r result line,
        CompletesOn services ringOf territory f r result line → ¬ CarriesWarning line →
          result.shape.isCount = true → ∀ total, r.Reports total → total ≤ r.rows.length) := by
  have hsilent : ¬ CarriesWarning success := by decide
  refine ⟨fun hall => ?_, fun hall => ?_, fun hall => ?_⟩
  · let r : QueryReply := ⟨[], [], none, some false⟩
    obtain ⟨result, hrun, -⟩ := completesOn_circle r
    exact hall _ _ _ _ _ _ _ hrun hsilent rfl
  · let r : QueryReply := ⟨["h3_cell_index", "geography", "count", "place_ids"],
      [[.text "8a1fb46622dffff", .text "POLYGON((13 52, 14 52, 14 53, 13 52))", .text "3",
        .array []]], some "250", some true⟩
    have hsome : (Layer.ofRows? (.ofReply r) : Option (Layer Degrees)).isSome = true := by
      decide +kernel
    obtain ⟨layer, hlayer⟩ := Option.isSome_iff_exists.mp hsome
    obtain ⟨result, hrun, -⟩ := completesOn_function hlayer
    exact absurd (hall _ _ _ _ _ _ _ hrun hsilent 250 ⟨"250", rfl, by decide⟩) (by decide)
  · let r : QueryReply := ⟨["total_count"], [[.text "7"]], some "18446744073709551616", some true⟩
    obtain ⟨result, hrun, hshape⟩ := completesOn_circle r
    exact absurd (hall _ _ _ _ _ _ _ hrun hsilent (by rw [hshape]; rfl) 18446744073709551616
      ⟨_, rfl, by decide⟩) (by decide)

end Run

end PlaceSearch
