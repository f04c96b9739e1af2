-- SUMMARY: Function mode sends the call of the density function, made from a few inputs only, and no other mode does.
import PlaceSearch.Proofs.Session.Protocol

/-!
# Function mode

The call of the density function has no place for brands, opening hours or the
condition of an area. A form in function mode compiles to nothing else: cells
stay asked for through every edit, and without them its requests would take the
ordinary way, on which those inputs are read.
-/

namespace PlaceSearch

variable {R : Type} [Coordinate R]

/-! ## Function calls -/

theorem Features.shape_eq_function_iff {f : Features} :
    f.shape = .function ↔ f.cells = true ∧ f.functionMode = true := by
  unfold shape
  split
  · next hcells =>
    split
    · next hfunction => simp [hcells, hfunction]
    · next hfunction => simp [hfunction]
  · next hcells =>
    have hcount : (if f.multipleRegions then Shape.perRegion else if f.brands then .perBrand
        else if 1 < f.placeTypes then .perType else .total) ≠ .function := by
      repeat' split
      all_goals decide
    simp [hcells, hcount]

namespace Request

omit [Coordinate R] in
/-- The call of the density function that a request stands for. -/
def functionCall (r : Request R) (territory : Territory) : Statement R :=
  .function territory.functionDataset r.scope.center r.meters r.resolution r.selection.forFunction

/-- The requests agree on all that the density function is told. -/
structure FunctionAlike (r s : Request R) : Prop where
  center : r.scope.center = s.scope.center
  meters : r.meters = s.meters
  resolution : r.resolution = s.resolution
  placeTypes : r.selection.placeTypes = s.selection.placeTypes
  primaryTypeOnly : r.selection.primaryTypeOnly = s.selection.primaryTypeOnly
  attributes : r.selection.attributes = s.selection.attributes
  rating : r.selection.rating = s.selection.rating
  status : r.selection.status = s.selection.status

variable {r s : Request R}

omit [Coordinate R] in
theorem statement_eq_functionCall (hcells : r.cells = true) (hfunction : r.functionMode = true)
    (territory : Territory) : r.statement territory = r.functionCall territory := by
  have hshape : r.features.shape = .function :=
    Features.shape_eq_function_iff.mpr ⟨hcells, hfunction⟩
  simp only [statement, hshape, functionCall]

omit [Coordinate R] in
theorem FunctionAlike.functionCall_eq (h : r.FunctionAlike s) (territory : Territory) :
    r.functionCall territory = s.functionCall territory := by
  have hselection : r.selection.forFunction = s.selection.forFunction := by
    simp only [Selection.forFunction, h.placeTypes, h.primaryTypeOnly, h.attributes, h.rating,
      h.status]
  rw [functionCall, functionCall, h.center, h.meters, h.resolution, hselection]

end Request

/-! ## What a run compiles -/

namespace Run

variable {services : Services R} {ringOf : String → Option (List (Point R))}
  {territory : Territory} {f : Form R}

/-- The statement that a run compiles. It gets that far with its area resolved and a token. -/
def compiled? (services : Services R) (territory : Territory) (f : Form R) :
    Option (Statement R) :=
  match (resolve services territory f).value, services.token with
  | .ok (.ready scope), .ok _ => some ((request f scope).statement territory)
  | _, _ => none

theorem compiled?_eq_some_iff {s : Statement R} :
    compiled? services territory f = some s ↔
      ∃ scope token, (resolve services territory f).value = .ok (.ready scope) ∧
        services.token = .ok token ∧ s = (request f scope).statement territory := by
  unfold compiled?
  constructor
  · intro h
    split at h
    · next scope token hresolve htoken =>
      cases h
      exact ⟨scope, token, hresolve, htoken, rfl⟩
    · cases h
  · rintro ⟨scope, token, hresolve, htoken, rfl⟩
    rw [hresolve, htoken]

/-- A run executes the statement it compiles, and nothing else. -/
theorem execute_mem_perform_iff {sql token : String} :
    .execute sql token ∈ (perform services ringOf territory f).events ↔
      ∃ s, compiled? services territory f = some s ∧ services.token = .ok token ∧
        sql = s.render := by
  have hlookup : Event.execute sql token ∉ f.lookups territory :=
    fun h => absurd (Form.isLookup_of_mem_lookups h) (by simp [Event.isLookup])
  rw [mem_perform_iff rfl, or_iff_right hlookup]
  constructor
  · intro h
    unfold queryCalls at h
    split at h
    · next scope token' hresolve htoken =>
      simp only [List.mem_cons, reduceCtorEq, false_or, List.not_mem_nil, or_false,
        Event.execute.injEq] at h
      obtain ⟨rfl, rfl⟩ := h
      exact ⟨_, compiled?_eq_some_iff.mpr ⟨scope, token, hresolve, htoken, rfl⟩, htoken, rfl⟩
    · cases List.mem_singleton.mp h
    · cases h
  · rintro ⟨s, hs, htoken, rfl⟩
    obtain ⟨scope, token', hresolve, -, rfl⟩ := compiled?_eq_some_iff.mp hs
    simp [queryCalls, hresolve, htoken, queryText]

/-- What a run shows is the answer to the statement it compiled. -/
theorem completed_compiled {result : Completed R}
    (h : (perform services ringOf territory f).value.2 = .ok (.completed result)) :
    ∃ s, compiled? services territory f = some s ∧ result.shape = s.shape ∧
      result.statement = s.render := by
  obtain ⟨scope, token, hresolve, htoken, hquery⟩ := outcome_eq_completed h
  obtain ⟨hshape, hstatement, -⟩ := query_eq_ok hquery
  exact ⟨_, compiled?_eq_some_iff.mpr ⟨scope, token, hresolve, htoken, rfl⟩, hshape, hstatement⟩

end Run

/-! ## Forms in function mode -/

namespace Form

variable {f : Form R}

/-- In function mode a center is all that an area takes. -/
theorem resolve_of_function (hmode : f.mode = .function) {center : Point R}
    (hcenter : f.center = some center) (services : Services R) (territory : Territory) :
    (Run.resolve services territory f).value = .ok (.ready (.ofCondition none center)) := by
  simp only [Run.resolve, hmode, Traced.pure_value, Resolved.function, hcenter]

omit [Coordinate R] in
/-- The invariant keeps cells asked for, so the request of function mode is a call. -/
theorem Sound.request_of_function (h : f.Sound) (hmode : f.mode = .function) (scope : Scope R) :
    (Run.request f scope).cells = true ∧ (Run.request f scope).functionMode = true := by
  constructor
  · exact h.cells_of_function hmode
  · rw [Run.request, hmode]
    rfl

theorem Sound.compiled?_of_function (h : f.Sound) (hmode : f.mode = .function) {center : Point R}
    (hcenter : f.center = some center) (services : Services R) (territory : Territory)
    (s : Statement R) :
    Run.compiled? services territory f = some s ↔
      (∃ token, services.token = .ok token) ∧
        s = .function territory.functionDataset center f.meters f.resolution
          f.selection.forFunction := by
  have hresolve := resolve_of_function hmode hcenter services territory
  obtain ⟨hcells, hfunction⟩ := h.request_of_function hmode (.ofCondition none center)
  have hstatement := Request.statement_eq_functionCall hcells hfunction territory
  rw [Run.compiled?_eq_some_iff]
  constructor
  · rintro ⟨scope, token, hscope, htoken, rfl⟩
    rw [hresolve] at hscope
    cases hscope
    exact ⟨⟨token, htoken⟩, hstatement⟩
  · rintro ⟨⟨token, htoken⟩, rfl⟩
    exact ⟨_, token, hresolve, htoken, hstatement.symm⟩

/-- In any other mode the request is no call, whether cells are asked for or not. -/
theorem shape_ne_function (hmode : f.mode ≠ .function) {services : Services R}
    {territory : Territory} {s : Statement R}
    (hs : Run.compiled? services territory f = some s) : s.shape ≠ .function := by
  obtain ⟨scope, token, -, -, rfl⟩ := Run.compiled?_eq_some_iff.mp hs
  rw [Request.shape_statement, Ne, Features.shape_eq_function_iff]
  rintro ⟨-, hfunction⟩
  exact hmode (by simpa [Request.features, Run.request, Mode.isFunction] using hfunction)

/-- What runs of a form compile, in function mode and in the others. -/
structure FunctionConfined (ringOf : String → Option (List (Point R))) (f : Form R) : Prop where
  /-- With a center, function mode compiles the call for five filters of the form if
      there is a token, and nothing else. -/
  compiled_function : f.mode = .function → ∀ center, f.center = some center →
    ∀ services territory s, Run.compiled? services territory f = some s ↔
      (∃ token, services.token = .ok token) ∧
        s = .function territory.functionDataset center f.meters f.resolution
          f.selection.forFunction
  /-- It does so because its request asks for cells, in function mode. -/
  request_function : f.mode = .function → ∀ scope,
    (Run.request f scope).cells = true ∧ (Run.request f scope).functionMode = true
  resolution_function : f.mode = .function → 1 ≤ f.resolution ∧ f.resolution ≤ 8
  compiled_other : f.mode ≠ .function → ∀ services territory s,
    Run.compiled? services territory f = some s → s.shape ≠ .function
  /-- A run executes what it compiles. -/
  executed : ∀ services territory sql token,
    .execute sql token ∈ (Run.perform services ringOf territory f).events ↔
      ∃ s, Run.compiled? services territory f = some s ∧ services.token = .ok token ∧
        sql = s.render
  /-- A run shows the answer to what it compiles. -/
  completed : ∀ services territory result,
    (Run.perform services ringOf territory f).value.2 = .ok (.completed result) →
      ∃ s, Run.compiled? services territory f = some s ∧ result.shape = s.shape ∧
        result.statement = s.render

end Form

/-- Requests that agree on what the density function is told have one statement, the
    function call, and of all forms that edits and runs lead to, those in function
    mode compile such a statement and the others never do. -/
theorem History.functionConfined {ringOf : String → Option (List (Point R))}
    {territory : Territory} {defaults : FormDefaults} {log : List (Happening R)} {f : Form R}
    (h : History ringOf territory defaults log f) :
    (∀ (territory : Territory) (r s : Request R), r.cells = true → r.functionMode = true →
      s.cells = true → s.functionMode = true → r.FunctionAlike s →
        r.statement territory = s.statement territory ∧
          (r.statement territory).shape = .function) ∧
      f.FunctionConfined ringOf := by
  constructor
  · intro territory r s hrcells hrfunction hscells hsfunction halike
    rw [Request.statement_eq_functionCall hrcells hrfunction,
      Request.statement_eq_functionCall hscells hsfunction, halike.functionCall_eq]
    exact ⟨rfl, rfl⟩
  · exact {
      compiled_function := fun hmode center hcenter services territory s =>
        h.sound.compiled?_of_function hmode hcenter services territory s
      request_function := h.sound.request_of_function
      resolution_function := fun hmode =>
        ⟨h.sound.one_le_resolution, h.sound.resolution_le_of_function hmode⟩
      compiled_other := fun hmode services territory s hs => Form.shape_ne_function hmode hs
      executed := fun services territory sql token => Run.execute_mem_perform_iff
      completed := fun services territory result hresult => Run.completed_compiled hresult }

/-- Function mode with a brand, opening hours and cells switched off sends the call
    for its center. -/
theorem functionConfined_brands :
    let berlin : Territory := ⟨.sample, "Berlin, Germany", "de"⟩
    let answers := Services.withoutRows (Box.ofPoint (⟨.ofFloat 52.5, .ofFloat 13.4⟩ : Point Degrees))
    let center : Point Degrees := ⟨.ofFloat 52.5, .ofFloat 13.4⟩
    ∃ (log : List (Happening Degrees)) (f : Form Degrees),
      History (fun _ => none) berlin .standard log f ∧ f.selection.brandNames = ["Starbucks"] ∧
      f.FunctionConfined (fun _ => none) ∧
      Run.compiled? answers berlin f = some (.function berlin.functionDataset center f.meters
        f.resolution f.selection.forFunction) := by
  intro berlin answers center
  have hstart : History (fun _ => none) berlin .standard [] (Form.new (R := Degrees) .standard) :=
    .start
  have hcentered := (hstart.edit (.setMode .function)).edit (.setCenter center)
  have h := ((hcentered.edit (.addBrandName "Starbucks")).edit
    (.setHours (some ⟨.monday, none, none⟩))).edit (.setCells false)
  obtain ⟨-, hconfined⟩ := h.functionConfined
  have hcompiled := (hconfined.compiled_function (by decide +kernel) center (by decide +kernel)
    answers berlin _).mpr ⟨⟨_, rfl⟩, rfl⟩
  exact ⟨_, _, h, by decide +kernel, hconfined, hcompiled⟩

end PlaceSearch
