-- SUMMARY: The protocol of a run: which calls it makes in which order, and what it says about them.
import PlaceSearch.Proofs.Session.Invariant

/-!
# The protocol of a run

A run looks its area up, gets a token and sends its query, in this order and
each at most once; it stops as soon as one of them has failed. Lookups are
announced exactly when there are some. The announcement is decided before the
names are brought into their normal form, so this needs the invariant of forms:
a tag never has an empty normal form.
-/

namespace PlaceSearch

variable {R : Type}

/-! ## Lookups -/

namespace Form

/-- The form asks for a region: one of its tags or the typed name, in normal form. -/
def AsksFor (f : Form R) (name : String) : Prop :=
  f.mode = .region ∧ f.regionColumn.isSome = true ∧ name ≠ "" ∧
    ∃ text, (text ∈ f.regionTags ∨ text = f.regionInput) ∧ name = Resolved.regionName text

/-- The calls by which the area of a form is looked up: one for each region it
    asks for, or one for the route between its two ends, each made once. -/
structure LooksUp (territory : Territory) (f : Form R) (calls : List (Event R)) : Prop where
  mem_iff : ∀ e, e ∈ calls ↔
    (∃ name, f.AsksFor name ∧ e = .geocode (Resolved.regionAddress territory.label name)) ∨
      ∃ origin destination, f.mode = .route ∧ f.ends.origin = some origin ∧
        f.ends.destination = some destination ∧ e = .route origin destination
  nodup : calls.Nodup

/-- The lookups of a form, in order. -/
def lookups (territory : Territory) (f : Form R) : List (Event R) :=
  match f.mode with
  | .region =>
    if f.regionColumn.isSome then
      (Resolved.regionNames f.regionInput f.regionTags).map fun name =>
        .geocode (Resolved.regionAddress territory.label name)
    else []
  | .route =>
    match f.ends.both with
    | some (origin, destination) => [.route origin destination]
    | none => []
  | _ => []

/-- What is said before the lookups. -/
def announcement (f : Form R) : List String :=
  match f.mode with
  | .region =>
    if f.regionColumn.isSome && !((Text.trim f.regionInput).isEmpty && f.regionTags.isEmpty) then
      ["Geocoding regions..."]
    else []
  | .route => if f.ends.both.isSome then ["Calculating route..."] else []
  | _ => []

theorem both_eq_some_iff {ends : Endpoints R} {origin destination : Point R} :
    ends.both = some (origin, destination) ↔
      ends.origin = some origin ∧ ends.destination = some destination := by
  simp only [Endpoints.both, Option.bind_eq_some_iff, Option.map_eq_some_iff, Prod.mk.injEq]
  constructor
  · intro h
    obtain ⟨o, ho, d, hd, rfl, rfl⟩ := h
    exact ⟨ho, hd⟩
  · intro h
    obtain ⟨ho, hd⟩ := h
    exact ⟨origin, ho, destination, hd, rfl, rfl⟩

theorem mem_lookups_geocode {territory : Territory} {f : Form R} {address : String} :
    .geocode address ∈ f.lookups territory ↔
      ∃ name, f.AsksFor name ∧ address = Resolved.regionAddress territory.label name := by
  unfold lookups AsksFor
  cases f.mode with
  | region =>
    cases f.regionColumn with
    | none => simp
    | some column =>
      simp only [Option.isSome_some, if_true, List.mem_map, Event.geocode.injEq,
        Resolved.mem_regionNames, true_and]
      constructor
      · intro h
        obtain ⟨name, hname, rfl⟩ := h
        exact ⟨name, hname, rfl⟩
      · intro h
        obtain ⟨name, hname, rfl⟩ := h
        exact ⟨name, hname, rfl⟩
  | route => cases f.ends.both <;> simp
  | _ => simp

theorem mem_lookups_route {territory : Territory} {f : Form R} {origin destination : Point R} :
    .route origin destination ∈ f.lookups territory ↔
      f.mode = .route ∧ f.ends.origin = some origin ∧ f.ends.destination = some destination := by
  rw [← both_eq_some_iff]
  unfold lookups
  cases f.mode with
  | region => cases f.regionColumn <;> simp
  | route =>
    cases f.ends.both with
    | none => simp
    | some ends => simp [Prod.ext_iff, eq_comm]
  | _ => simp

theorem isLookup_of_mem_lookups {territory : Territory} {f : Form R} {e : Event R}
    (h : e ∈ f.lookups territory) : e.isLookup = true := by
  unfold lookups at h
  split at h
  · split at h
    · obtain ⟨name, -, rfl⟩ := List.mem_map.mp h
      rfl
    · cases h
  · split at h
    · rw [List.mem_singleton.mp h]
      rfl
    · cases h
  · cases h

theorem nodup_lookups (territory : Territory) (f : Form R) : (f.lookups territory).Nodup := by
  unfold lookups
  split
  · split
    · apply List.Pairwise.map _ _ (Resolved.nodup_regionNames _ _)
      intro name other hne heq
      exact hne (Resolved.regionAddress_injective _ (Event.geocode.inj heq))
    · exact List.nodup_nil
  · split <;> simp
  · exact List.nodup_nil

theorem looksUp_lookups (territory : Territory) (f : Form R) :
    f.LooksUp territory (f.lookups territory) where
  mem_iff e := by
    constructor
    · intro h
      have hlookup := isLookup_of_mem_lookups h
      cases e with
      | geocode address =>
        obtain ⟨name, hname, rfl⟩ := mem_lookups_geocode.mp h
        exact Or.inl ⟨name, hname, rfl⟩
      | route origin destination =>
        obtain ⟨hmode, horigin, hdestination⟩ := mem_lookups_route.mp h
        exact Or.inr ⟨origin, destination, hmode, horigin, hdestination, rfl⟩
      | _ => cases hlookup
    · rintro (⟨name, hname, rfl⟩ | ⟨origin, destination, hmode, horigin, hdestination, rfl⟩)
      · exact mem_lookups_geocode.mpr ⟨name, hname, rfl⟩
      · exact mem_lookups_route.mpr ⟨hmode, horigin, hdestination⟩
  nodup := nodup_lookups territory f

theorem exists_geocode_mem_lookups_iff {territory : Territory} {f : Form R} :
    (∃ address, .geocode address ∈ f.lookups territory) ↔
      f.mode = .region ∧ f.regionColumn.isSome = true ∧
        Resolved.regionNames f.regionInput f.regionTags ≠ [] := by
  unfold lookups
  cases f.mode with
  | region =>
    cases f.regionColumn with
    | none => simp
    | some column =>
      simp only [Option.isSome_some, if_true, List.mem_map, Event.geocode.injEq, true_and]
      constructor
      · rintro ⟨address, name, hname, -⟩ hnil
        rw [hnil] at hname
        cases hname
      · intro hne
        obtain ⟨name, hname⟩ := List.exists_mem_of_ne_nil _ hne
        exact ⟨_, name, hname, rfl⟩
  | route => cases f.ends.both <;> simp
  | _ => simp

theorem geocoding_mem_announcement_iff {f : Form R} :
    "Geocoding regions..." ∈ f.announcement ↔
      f.mode = .region ∧ f.regionColumn.isSome = true ∧
        ¬ ((Text.trim f.regionInput).isEmpty = true ∧ f.regionTags = []) := by
  unfold announcement
  generalize (Text.trim f.regionInput).isEmpty = blank
  cases f.mode with
  | region => cases f.regionColumn <;> cases blank <;> simp
  | route => cases f.ends.both <;> simp
  | _ => simp

/-- Geocoding is announced exactly when a name will be looked up. -/
theorem Sound.geocoding_announced_iff {f : Form R} (h : f.Sound) (territory : Territory) :
    "Geocoding regions..." ∈ f.announcement ↔ ∃ address, .geocode address ∈ f.lookups territory := by
  rw [geocoding_mem_announcement_iff, exists_geocode_mem_lookups_iff, Ne,
    Resolved.regionNames_eq_nil_iff_of_startsVisibly h.regionTags_startVisibly]

/-- Routing is announced exactly when a route will be computed. -/
theorem routing_announced_iff {f : Form R} (territory : Territory) :
    "Calculating route..." ∈ f.announcement ↔
      ∃ origin destination, .route origin destination ∈ f.lookups territory := by
  unfold announcement lookups
  cases f.mode with
  | region => cases f.regionColumn <;> simp
  | route =>
    cases f.ends.both with
    | none => simp
    | some ends => simp
  | _ => simp

theorem announcement_sublist (f : Form R) :
    f.announcement.Sublist ["Geocoding regions...", "Calculating route..."] := by
  unfold announcement
  split
  · split <;> simp
  · split <;> simp
  · simp

end Form

/-! ## What a run calls and says -/

namespace Run

variable [Coordinate R] {services : Services R} {ringOf : String → Option (List (Point R))}
  {territory : Territory} {f : Form R}

/-- Lookups follow their announcement, and nothing else happens while an area is resolved. -/
theorem resolve_events (services : Services R) (territory : Territory) (f : Form R) :
    (resolve services territory f).events =
      f.announcement.map (Event.status .info) ++ f.lookups territory := by
  unfold resolve Form.announcement Form.lookups
  cases f.mode with
  | region =>
    cases f.regionColumn with
    | none => simp [Resolved.region]
    | some column =>
      simp only [Option.isSome_some, Bool.true_and, if_true]
      split
      · simp [Resolved.region_events, say]
      · simp [Resolved.region_events]
  | route =>
    cases hends : f.ends.both with
    | none => simp [Resolved.route, hends]
    | some ends => simp [Resolved.route, hends, say]
  | _ => rfl

/-- Nothing but lookups is called while an area is resolved. -/
theorem calls_resolve (services : Services R) (territory : Territory) (f : Form R) :
    Event.calls (resolve services territory f).events = f.lookups territory := by
  have hlookups : Event.calls (f.lookups territory) = f.lookups territory := by
    apply Event.calls_eq_self
    intro e he
    exact Event.isCall_of_isLookup (Form.isLookup_of_mem_lookups he)
  have hannounced : Event.calls (f.announcement.map (Event.status (R := R) .info)) = [] := by
    simp [Event.calls, Event.isCall]
  rw [resolve_events, Event.calls_append, hannounced, hlookups, List.nil_append]

/-- The calls after the lookups: a token only for a resolved area, and the query
    only with a token. -/
def queryCalls (services : Services R) (territory : Territory) (f : Form R) : List (Event R) :=
  match (resolve services territory f).value, services.token with
  | .ok (.ready scope), .ok token => [.token, .execute (queryText territory f scope) token]
  | .ok (.ready _), .error _ => [.token]
  | _, _ => []

/-- Everything a run may say between its first and its last line, in order. -/
def progressLines (functionMode : Bool) : List String :=
  ["Geocoding regions...", "Calculating route...", "Checking authorization...",
    buildingLine functionMode, executingLine functionMode]

theorem Course.calls_eq {rest : List (Event R)} {outcome : Except Fault (Outcome R)}
    (h : Course services ringOf territory f rest outcome) :
    Event.calls rest = queryCalls services territory f := by
  unfold queryCalls
  cases h with
  | unresolved hresolve => rw [hresolve]; rfl
  | incomplete hresolve => rw [hresolve]; rfl
  | unauthorized hresolve htoken => rw [hresolve, htoken]; rfl
  | queried hresolve htoken => rw [hresolve, htoken]; rfl

theorem Course.lines_eq {rest : List (Event R)} {outcome : Except Fault (Outcome R)}
    (h : Course services ringOf territory f rest outcome) :
    ∃ said : List String, Event.lines rest = said.map (Prod.mk Level.info) ∧
      said.Sublist ["Checking authorization...", buildingLine f.mode.isFunction,
        executingLine f.mode.isFunction] := by
  cases h with
  | unresolved hresolve => exact ⟨[], rfl, by simp⟩
  | incomplete hresolve => exact ⟨[], rfl, by simp⟩
  | unauthorized hresolve htoken => exact ⟨["Checking authorization..."], rfl, by simp⟩
  | queried hresolve htoken => exact ⟨_, rfl, List.Sublist.refl _⟩

theorem Course.incomplete_iff {rest : List (Event R)} {outcome : Except Fault (Outcome R)}
    (h : Course services ringOf territory f rest outcome) (missing : Missing) :
    outcome = .ok (.incomplete missing) ↔
      (resolve services territory f).value = .ok (.incomplete missing) := by
  cases h with
  | unresolved hresolve => rw [hresolve]; simp
  | incomplete hresolve => rw [hresolve]; simp
  | unauthorized hresolve htoken => rw [hresolve]; simp
  | @queried scope token hresolve htoken =>
    rw [hresolve]
    cases (query services ringOf territory f scope token).value <;> simp [Except.map]

theorem calls_perform (services : Services R) (ringOf : String → Option (List (Point R)))
    (territory : Territory) (f : Form R) :
    Event.calls (perform services ringOf territory f).events =
      f.lookups territory ++ queryCalls services territory f := by
  obtain ⟨rest, hevents, hcourse⟩ := phases_course services ringOf territory f
  rw [perform_events, hevents]
  simp [calls_resolve, hcourse.calls_eq]

/-- Between the first line, which is said by every run, and the last one stand
    the announcement of the lookups and what is said of the phases after them. -/
theorem lines_phases (services : Services R) (ringOf : String → Option (List (Point R)))
    (territory : Territory) (f : Form R) :
    ∃ said : List String,
      Event.lines (phases services ringOf territory f).events =
        (f.announcement ++ said).map (Prod.mk Level.info) ∧
      said.Sublist ["Checking authorization...", buildingLine f.mode.isFunction,
        executingLine f.mode.isFunction] := by
  obtain ⟨rest, hevents, hcourse⟩ := phases_course services ringOf territory f
  obtain ⟨said, hsaid, hsublist⟩ := hcourse.lines_eq
  have hlookups : Event.lines (f.lookups territory) = [] := by
    apply Event.lines_eq_nil
    intro e he
    exact Event.isCall_of_isLookup (Form.isLookup_of_mem_lookups he)
  have hannounced : Event.lines (f.announcement.map (Event.status (R := R) .info)) =
      f.announcement.map (Prod.mk Level.info) := by
    simp [Event.lines, List.filterMap_map, Function.comp_def, Event.line?]
  refine ⟨said, ?_, hsublist⟩
  rw [hevents, resolve_events]
  simp [hlookups, hannounced, hsaid]

/-- The line of a lookup is said exactly when it stands in the announcement. -/
theorem announced_iff {text : String}
    (htext : text ∈ ["Geocoding regions...", "Calculating route..."]) :
    .status .info text ∈ (perform services ringOf territory f).events ↔ text ∈ f.announcement := by
  -- No other line has this text, neither the first nor the last nor one in between.
  have hother : ∀ functionMode, text ∉ ["Validating inputs...", Layer.noCells,
      "Checking authorization...", buildingLine functionMode, executingLine functionMode] := by
    intro functionMode
    simp only [List.mem_cons, List.not_mem_nil, or_false] at htext
    obtain rfl | rfl := htext <;> cases functionMode <;> decide
  obtain ⟨said, hlines, hsublist⟩ := lines_phases services ringOf territory f
  rw [← Event.mem_lines, perform_events]
  simp only [Event.lines_append, Event.lines_status_cons, Event.lines_nil, hlines, List.cons_append,
    List.mem_cons, List.mem_append, List.map_append, List.mem_map, Prod.mk.injEq, true_and,
    exists_eq_right, List.not_mem_nil, or_false]
  constructor
  · rintro (rfl | (hannounced | hsaid) | hfinal)
    · exact absurd List.mem_cons_self (hother true)
    · exact hannounced
    · have hmem := hsublist.subset hsaid
      exact absurd (List.mem_cons_of_mem _ (List.mem_cons_of_mem _ hmem)) (hother _)
    · have hlast := finalLine_info (Prod.ext hfinal.1.symm hfinal.2.symm)
      rw [hlast] at hother
      exact absurd (List.mem_cons_of_mem _ List.mem_cons_self) (hother true)
  · intro hannounced
    exact Or.inr (Or.inl (Or.inl hannounced))

/-- A run calls nothing but its lookups and what its query needs. -/
theorem mem_perform_iff {e : Event R} (he : e.isCall = true) :
    e ∈ (perform services ringOf territory f).events ↔
      e ∈ f.lookups territory ∨ e ∈ queryCalls services territory f := by
  rw [← List.mem_append, ← calls_perform services ringOf territory f, Event.mem_calls]
  exact (and_iff_left he).symm

theorem isLookup_of_mem_queryCalls {e : Event R} (h : e ∈ queryCalls services territory f) :
    e.isLookup = false := by
  unfold queryCalls at h
  split at h
  · obtain rfl | h := List.mem_cons.mp h
    · rfl
    · rw [List.mem_singleton.mp h]
      rfl
  · rw [List.mem_singleton.mp h]
    rfl
  · cases h

theorem lookup_mem_perform_iff {e : Event R} (he : e.isLookup = true) :
    e ∈ (perform services ringOf territory f).events ↔ e ∈ f.lookups territory := by
  rw [mem_perform_iff (Event.isCall_of_isLookup he), or_iff_left]
  intro h
  rw [isLookup_of_mem_queryCalls h] at he
  cases he

/-- Without a resolved area a run calls nothing but its lookups. -/
theorem notMem_perform_of_incomplete {missing : Missing}
    (hmissing : (resolve services territory f).value = .ok (.incomplete missing)) {e : Event R}
    (hcall : e.isCall = true) (hlookup : e.isLookup = false) :
    e ∉ (perform services ringOf territory f).events := by
  rw [mem_perform_iff hcall, queryCalls, hmissing]
  rintro (h | h)
  · rw [Form.isLookup_of_mem_lookups h] at hlookup
    cases hlookup
  · cases h

omit [Coordinate R] in
theorem finalLine_level (outcome : Except Fault (Outcome R)) :
    ((finalLine outcome).1 = .error ↔ ¬ IsCompleted outcome) ∧
      ((finalLine outcome).1 = .info ↔
        ∃ result, outcome = .ok (.completed result) ∧ result.display = .noCells) ∧
      ((finalLine outcome).1 = .success ↔
        ∃ result, outcome = .ok (.completed result) ∧ result.display ≠ .noCells) := by
  cases outcome with
  | error fault => simp [finalLine, IsCompleted]
  | ok outcome =>
    cases outcome with
    | incomplete missing => simp [finalLine, IsCompleted]
    | completed result => cases hdisplay : result.display <;> simp [finalLine, IsCompleted, hdisplay]

/-- What holds of every run of a form. -/
structure Protocol (services : Services R) (territory : Territory) (f : Form R)
    (run : Traced R (Form R × Except Fault (Outcome R))) : Prop where
  /-- The lookups come first, then the token, then the query. -/
  calls : ∃ lookups, f.LooksUp territory lookups ∧
    Event.calls run.events = lookups ++ queryCalls services territory f
  /-- A run lacks an input exactly when its area could not be resolved for lack of it. -/
  incomplete_iff : ∀ missing, run.value.2 = .ok (.incomplete missing) ↔
    (resolve services territory f).value = .ok (.incomplete missing)
  /-- A run that lacks an input asks neither for a token nor for an answer. -/
  incomplete_calls : ∀ missing, run.value.2 = .ok (.incomplete missing) →
    .token ∉ run.events ∧ ∀ sql token, .execute sql token ∉ run.events
  /-- Geocoding is announced exactly when an address is looked up. -/
  geocoding_iff : .status .info "Geocoding regions..." ∈ run.events ↔
    ∃ address, .geocode address ∈ run.events
  /-- Routing is announced exactly when a route is computed. -/
  routing_iff : .status .info "Calculating route..." ∈ run.events ↔
    ∃ origin destination, .route origin destination ∈ run.events
  /-- The first line is always the same, the last one tells how the run ended,
      and between them stands nothing but progress. -/
  log : ∃ middle level text,
    run.events = .status .info "Validating inputs..." :: middle ++ [.status level text] ∧
      (∃ progress : List String, Event.lines middle = progress.map (Prod.mk Level.info) ∧
        progress.Sublist (progressLines f.mode.isFunction)) ∧
      (level = .error ↔ ¬ IsCompleted run.value.2) ∧
      (level = .info ↔
        ∃ result, run.value.2 = .ok (.completed result) ∧ result.display = .noCells) ∧
      (level = .success ↔
        ∃ result, run.value.2 = .ok (.completed result) ∧ result.display ≠ .noCells)

end Run

/-- Every run of a form with a history follows the protocol, whatever the
    collaborators answer, in the territory of the history or in another one. -/
theorem History.perform_protocol [Coordinate R] {ringOf : String → Option (List (Point R))}
    {home : Territory} {defaults : FormDefaults} {log : List (Happening R)} {f : Form R}
    (h : History ringOf home defaults log f) (services : Services R) (territory : Territory) :
    Run.Protocol services territory f (Run.perform services ringOf territory f) where
  calls := ⟨f.lookups territory, Form.looksUp_lookups territory f,
    Run.calls_perform services ringOf territory f⟩
  incomplete_iff missing := by
    obtain ⟨rest, -, hcourse⟩ := Run.phases_course services ringOf territory f
    exact hcourse.incomplete_iff missing
  incomplete_calls missing hmissing := by
    obtain ⟨rest, -, hcourse⟩ := Run.phases_course services ringOf territory f
    have hresolve := (hcourse.incomplete_iff missing).mp hmissing
    constructor
    · exact Run.notMem_perform_of_incomplete hresolve rfl rfl
    · intro sql token
      exact Run.notMem_perform_of_incomplete hresolve rfl rfl
  geocoding_iff := by
    rw [Run.announced_iff (by simp), h.sound.geocoding_announced_iff territory]
    apply exists_congr
    intro address
    exact (Run.lookup_mem_perform_iff rfl).symm
  routing_iff := by
    rw [Run.announced_iff (by simp), Form.routing_announced_iff territory]
    apply exists_congr
    intro origin
    apply exists_congr
    intro destination
    exact (Run.lookup_mem_perform_iff rfl).symm
  log := by
    obtain ⟨said, hlines, hsublist⟩ := Run.lines_phases services ringOf territory f
    exact ⟨_, _, _, Run.perform_events, ⟨_, hlines, f.announcement_sublist.append hsublist⟩,
      Run.finalLine_level _⟩

/-- A region search for a tag and a typed name follows the protocol. -/
theorem perform_protocol_regionSearch :
    let berlin : Territory := ⟨.sample, "Berlin, Germany", "de"⟩
    let answers := Services.withoutRows (Box.ofPoint (⟨.ofFloat 52.5, .ofFloat 13.4⟩ : Point Degrees))
    ∃ (log : List (Happening Degrees)) (f : Form Degrees),
      History (fun _ => none) berlin .standard log f ∧ f.AsksFor "Mitte" ∧
        Run.Protocol answers berlin f (Run.perform answers (fun _ => none) berlin f) := by
  intro berlin answers
  let column : RegionColumn := ⟨⟨"locality_names", by decide⟩, .array⟩
  have hstart : History (fun _ => none) berlin .standard [] (Form.new (R := Degrees) .standard) :=
    .start
  have h := (((hstart.edit (.setMode .region)).edit (.setRegionColumn (some column))).edit
    (.addRegionTag "mitte")).edit (.setRegionInput " wedding ")
  have hmitte : "Mitte" = Resolved.regionName "Mitte" := by decide +kernel
  exact ⟨_, _, h, ⟨rfl, rfl, by decide, "Mitte", Or.inl (by decide +kernel), hmitte⟩,
    h.perform_protocol answers berlin⟩

end PlaceSearch
