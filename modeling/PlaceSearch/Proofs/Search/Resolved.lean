-- SUMMARY: The scopes that the areas of a form resolve to, and that nothing in them is taken over as text.
import PlaceSearch.Proofs.Query.Scan
import PlaceSearch.Search.Resolved

/-!
# Resolved scopes

There are five ways to a scope, one for each kind of area. `cases` lists what
the scope looks like in each of them; whatever else is proved about resolved
scopes follows from that list.
-/

namespace PlaceSearch

variable {R : Type} [Coordinate R]

/-- A scope that the area of some form resolves to, whatever the collaborators answer. -/
inductive Scope.IsResolved : Scope R → Prop
  | circle {center : Option (Point R)} {meters : Nat} {scope : Scope R}
      (h : Resolved.circle center meters = .ready scope) : IsResolved scope
  | function {center : Option (Point R)} {scope : Scope R}
      (h : Resolved.function center = .ready scope) : IsResolved scope
  | polygon {p : Option (Polygon R)} {scope : Scope R}
      (h : Resolved.polygon p = .ready scope) : IsResolved scope
  | region {services : Services R} {column : Option RegionColumn} {typed : String}
      {tags : List String} {territory : String} {scope : Scope R}
      (h : (Resolved.region services column typed tags territory).value = .ready scope) :
      IsResolved scope
  | route {services : Services R} {ends : Endpoints R} {meters : Nat} {scope : Scope R}
      (h : (Resolved.route services ends meters).value = .ok (.ready scope)) :
      IsResolved scope

namespace Resolved

/-- A region search that is ready has a column and names, all of which are
    searched for, and shows the union of the boxes that were found. -/
theorem eq_of_region_value_eq_ready {services : Services R} {column : Option RegionColumn}
    {typed : String} {tags : List String} {territory : String} {scope : Scope R}
    (h : (region services column typed tags territory).value = .ready scope) :
    ∃ c bounds, column = some c ∧ regionNames typed tags ≠ [] ∧
      scope = {
        condition := some (.region c (regionNames typed tags))
        center := Box.center bounds
        preamble := none
        region := some ⟨c, regionNames typed tags⟩
        bounds := some bounds } := by
  unfold region at h
  cases column with
  | none => cases h
  | some c =>
    cases hnames : regionNames typed tags with
    | nil => rw [hnames] at h; cases h
    | cons name rest =>
      rw [hnames] at h
      dsimp only at h
      rw [Traced.bind_value] at h
      split at h
      · cases h
      · next bounds _ =>
        rw [Traced.pure_value] at h
        obtain rfl := Resolved.ready.inj h
        exact ⟨c, bounds, rfl, List.cons_ne_nil _ _, by simp [Condition.ofRegions?]⟩

theorem eq_of_route_value_eq_ready {services : Services R} {ends : Endpoints R} {meters : Nat}
    {scope : Scope R} (h : (route services ends meters).value = .ok (.ready scope)) :
    ∃ origin destination r, ends.both = some (origin, destination) ∧
      services.route origin destination = .ok r ∧ ofRoute r meters = .ready scope := by
  unfold route at h
  split at h
  · cases h
  · next origin destination hends =>
    rw [Traced.bind_value, Traced.call_value, Traced.pure_value] at h
    cases hroute : services.route origin destination with
    | error fault => rw [hroute] at h; cases h
    | ok r =>
      rw [hroute] at h
      exact ⟨origin, destination, r, hends, hroute, Except.ok.inj h⟩

end Resolved

namespace Scope

/-- What a resolved scope looks like, one case for each kind of area. -/
theorem IsResolved.cases {scope : Scope R} (h : scope.IsResolved) :
    (∃ center meters, scope = .ofCondition (some (.near center meters)) center) ∨
    (∃ center, scope = .ofCondition none center) ∨
    (∃ p : Polygon R,
      scope = ⟨some .insideArea, p.anchor, some (.searchArea p.toText), none, some p.bounds⟩) ∨
    (∃ column names bounds, names ≠ [] ∧
      scope = ⟨some (.region column names), Box.center bounds, none, some ⟨column, names⟩,
        some bounds⟩) ∨
    (∃ (r : Route R) (meters : Nat),
      scope = ⟨some (.alongRoute meters), r.bounds.center, some (.route r.wkt), none,
        some r.bounds⟩) := by
  cases h with
  | @circle center meters _ h =>
    cases center with
    | none => cases h
    | some c => exact .inl ⟨c, meters, (Resolved.ready.inj h).symm⟩
  | @function center _ h =>
    cases center with
    | none => cases h
    | some c => exact .inr (.inl ⟨c, (Resolved.ready.inj h).symm⟩)
  | @polygon p _ h =>
    cases p with
    | none => cases h
    | some p => exact .inr (.inr (.inl ⟨p, (Resolved.ready.inj h).symm⟩))
  | region h =>
    obtain ⟨c, bounds, -, hne, rfl⟩ := Resolved.eq_of_region_value_eq_ready h
    exact .inr (.inr (.inr (.inl ⟨c, _, bounds, hne, rfl⟩)))
  | @route _ _ meters _ h =>
    obtain ⟨_, _, r, -, -, h⟩ := Resolved.eq_of_route_value_eq_ready h
    exact .inr (.inr (.inr (.inr ⟨r, meters, (Resolved.ready.inj h).symm⟩)))

theorem IsResolved.condition_isVerbatim {scope : Scope R} (h : scope.IsResolved) :
    ∀ c ∈ scope.condition, c.isVerbatim = false := by
  rcases h.cases with ⟨_, _, rfl⟩ | ⟨_, rfl⟩ | ⟨_, rfl⟩ | ⟨_, _, _, -, rfl⟩ | ⟨_, _, rfl⟩ <;>
    rintro c ⟨⟩ <;> rfl

theorem IsResolved.preamble_isVerbatim {scope : Scope R} (h : scope.IsResolved) :
    ∀ p ∈ scope.preamble, p.isVerbatim = false := by
  rcases h.cases with ⟨_, _, rfl⟩ | ⟨_, rfl⟩ | ⟨_, rfl⟩ | ⟨_, _, _, -, rfl⟩ | ⟨_, _, rfl⟩ <;>
    rintro p ⟨⟩ <;> rfl

end Scope

/-- A request with a resolved scope has a built statement in every listed territory. -/
theorem Request.isBuilt_statement {edition : Edition} {label : String} {territory : Territory}
    (hterritory : Territory.lookup? edition label = some territory) {r : Request R}
    (h : r.scope.IsResolved) : (r.statement territory).IsBuilt := by
  have hsource := (r.isNamed_source hterritory).isBare
  have hdataset :=
    Territory.isTableName_functionDataset (Territory.isTableName_country hterritory)
  have hconditions : ∀ c ∈ r.conditions, c.isVerbatim = false := by
    intro c hc
    rcases List.mem_append.mp hc with hc | hc
    · exact h.condition_isVerbatim c (Option.mem_toList.mp hc)
    · exact Selection.isVerbatim_of_mem_conditions hc
  have hfield : Sql.Bare r.regionField := by
    unfold regionField
    split
    · next region _ => exact region.column.field.bare_name
    · decide
  have hpreamble := h.preamble_isVerbatim
  unfold statement
  cases r.features.shape with
  | function => exact hdataset.bare
  | cells => exact ⟨hpreamble, hsource, hconditions⟩
  | perRegion => exact ⟨hpreamble, hfield, hsource, hconditions⟩
  | perBrand => exact ⟨hpreamble, trivial, hsource, hconditions⟩
  | perType => exact ⟨hpreamble, trivial, hsource, hconditions⟩
  | total => exact ⟨hpreamble, trivial, hsource, hconditions⟩

end PlaceSearch
