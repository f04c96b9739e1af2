-- SUMMARY: Loading markers accounts for every place: each is looked up once, in order, and its answer counted once.
import PlaceSearch.Proofs.Search.Trace
import PlaceSearch.Search.Marker

/-!
# Loaded markers

Each answer of a locator goes into a batch in one of three ways: as a marker, as a
place without location, or as a failure. So a batch that has gone through a list of
places accounts for all of them, whatever was answered, and what is said about the
places of a cell is said about that batch.
-/

namespace PlaceSearch

variable {R : Type}

/-! ## Answers -/

namespace Locator

/-- The places of a list, asked for one after the other, each with what is answered for it. -/
def answers (locate : Locator R) (asked : List String) : List String → List (String × Located R)
  | [] => []
  | id :: rest => (id, locate asked id) :: answers locate (asked ++ [id]) rest

theorem map_fst_answers (locate : Locator R) (asked ids : List String) :
    (answers locate asked ids).map Prod.fst = ids := by
  induction ids generalizing asked with
  | nil => rfl
  | cons id rest ih => rw [answers, List.map_cons, ih]

theorem length_answers (locate : Locator R) (asked ids : List String) :
    (answers locate asked ids).length = ids.length := by
  rw [← List.length_map Prod.fst, map_fst_answers]

end Locator

/-- The marker of a place that has been found. -/
def Marker.ofAnswer? : String × Located R → Option (Marker R)
  | (id, .ok (some position)) => some ⟨id, position⟩
  | _ => none

/-- There is no location to show. -/
def Located.isNowhere : Located R → Bool
  | .ok none => true
  | _ => false

/-- Asking has failed. -/
def Located.hasFailed : Located R → Bool
  | .error _ => true
  | .ok _ => false

/-! ## One answer after the other -/

namespace MarkerBatch

/-- How many answers a batch has taken into account. -/
def counted (b : MarkerBatch R) : Nat := b.markers.length + b.failed + b.withoutLocation

/-- Take answers into account, one after the other. -/
def recordAll (b : MarkerBatch R) (answers : List (String × Located R)) : MarkerBatch R :=
  answers.foldl (fun b answer => b.record answer.1 answer.2) b

theorem recordAll_cons (b : MarkerBatch R) (answer : String × Located R)
    (rest : List (String × Located R)) :
    b.recordAll (answer :: rest) = (b.record answer.1 answer.2).recordAll rest := rfl

/-- An answer is counted once, whatever it is. -/
theorem counted_record (b : MarkerBatch R) (id : String) (answer : Located R) :
    (b.record id answer).counted = b.counted + 1 := by
  match answer with
  | .ok (some position) =>
    simp only [record, counted, List.length_append, List.length_singleton]
    omega
  | .ok none => simp only [record, counted]; omega
  | .error fault => simp only [record, counted]; omega

theorem requested_record (b : MarkerBatch R) (id : String) (answer : Located R) :
    (b.record id answer).requested = b.requested := by
  match answer with
  | .ok (some position) => rfl
  | .ok none => rfl
  | .error fault => rfl

theorem withoutLocation_record (b : MarkerBatch R) (id : String) (answer : Located R) :
    (b.record id answer).withoutLocation =
      b.withoutLocation + if answer.isNowhere then 1 else 0 := by
  match answer with
  | .ok (some position) => rfl
  | .ok none => rfl
  | .error fault => rfl

theorem failed_record (b : MarkerBatch R) (id : String) (answer : Located R) :
    (b.record id answer).failed = b.failed + if answer.hasFailed then 1 else 0 := by
  match answer with
  | .ok (some position) => rfl
  | .ok none => rfl
  | .error fault => rfl

/-- What each answer adds to a number by itself, all answers add by their count. -/
theorem number_recordAll {number : MarkerBatch R → Nat} (adds : Located R → Bool)
    (hrecord : ∀ b id answer,
      number (b.record id answer) = number b + if adds answer then 1 else 0)
    (b : MarkerBatch R) (answers : List (String × Located R)) :
    number (b.recordAll answers) = number b + answers.countP fun answer => adds answer.2 := by
  induction answers generalizing b with
  | nil => rfl
  | cons answer rest ih =>
    rw [recordAll_cons, ih, hrecord, List.countP_cons]
    omega

theorem counted_recordAll (b : MarkerBatch R) (answers : List (String × Located R)) :
    (b.recordAll answers).counted = b.counted + answers.length := by
  rw [number_recordAll (fun _ => true) counted_record, List.countP_true]

theorem requested_recordAll (b : MarkerBatch R) (answers : List (String × Located R)) :
    (b.recordAll answers).requested = b.requested := by
  rw [number_recordAll (fun _ => false) requested_record, List.countP_false]
  rfl

/-- The places found are shown in the order in which they were asked for. -/
theorem markers_recordAll (b : MarkerBatch R) (answers : List (String × Located R)) :
    (b.recordAll answers).markers = b.markers ++ answers.filterMap Marker.ofAnswer? := by
  induction answers generalizing b with
  | nil => exact (List.append_nil b.markers).symm
  | cons answer rest ih =>
    rw [recordAll_cons, ih]
    match answer with
    | (id, .ok (some position)) => exact List.append_assoc b.markers [⟨id, position⟩] _
    | (id, .ok none) => rfl
    | (id, .error fault) => rfl

/-! ## Loading -/

theorem gather_events (locate : Locator R) (asked : List String) (b : MarkerBatch R)
    (ids : List String) : (gather locate asked b ids).events = ids.map Event.locate := by
  induction ids generalizing asked b with
  | nil => rfl
  | cons id rest ih =>
    simp only [gather, Traced.bind_events, Traced.call_events, Traced.call_value, ih,
      List.singleton_append, List.map_cons]

theorem gather_value (locate : Locator R) (asked : List String) (b : MarkerBatch R)
    (ids : List String) :
    (gather locate asked b ids).value = b.recordAll (locate.answers asked ids) := by
  induction ids generalizing asked b with
  | nil => rfl
  | cons id rest ih =>
    simp only [gather, Traced.bind_value, Traced.call_value, ih, Locator.answers, recordAll_cons]

/-- What a load asks for, and what becomes of the answers. -/
structure AccountsForAll (locate : Locator R) (placeIds : List String) (limit : Nat) : Prop where
  /-- Each of the first places is looked up, in order, as often as it stands there, and
      nothing else happens. -/
  events : (load locate placeIds limit).events = (placeIds.take limit).map Event.locate
  requested : (load locate placeIds limit).value.requested = min placeIds.length limit
  /-- Every place asked for is shown, has no location, or has failed. -/
  complete :
    (load locate placeIds limit).value.markers.length + (load locate placeIds limit).value.failed +
      (load locate placeIds limit).value.withoutLocation =
        (load locate placeIds limit).value.requested
  /-- The markers are those of the places found, in order. -/
  markers : (load locate placeIds limit).value.markers =
    (locate.answers [] (placeIds.take limit)).filterMap Marker.ofAnswer?
  failed : (load locate placeIds limit).value.failed =
    (locate.answers [] (placeIds.take limit)).countP fun answer => answer.2.hasFailed
  withoutLocation : (load locate placeIds limit).value.withoutLocation =
    (locate.answers [] (placeIds.take limit)).countP fun answer => answer.2.isNowhere

theorem load_value (locate : Locator R) (placeIds : List String) (limit : Nat) :
    (load locate placeIds limit).value =
      recordAll { empty with requested := (placeIds.take limit).length }
        (locate.answers [] (placeIds.take limit)) :=
  gather_value locate [] _ _

theorem accountsForAll_load (locate : Locator R) (placeIds : List String) (limit : Nat) :
    AccountsForAll locate placeIds limit := by
  have hrequested : (load locate placeIds limit).value.requested =
      (placeIds.take limit).length := by
    rw [load_value, requested_recordAll]
  refine ⟨gather_events locate [] _ _, ?_, ?_, ?_, ?_, ?_⟩
  · rw [hrequested, List.length_take, Nat.min_comm]
  · have hcounted : (load locate placeIds limit).value.counted = (placeIds.take limit).length := by
      rw [load_value, counted_recordAll, Locator.length_answers]
      exact Nat.zero_add _
    rw [hrequested, ← hcounted]
    rfl
  · rw [load_value, markers_recordAll]
    rfl
  · rw [load_value, number_recordAll Located.hasFailed failed_record]
    exact Nat.zero_add _
  · rw [load_value, number_recordAll Located.isNowhere withoutLocation_record]
    exact Nat.zero_add _

/-! ## The places of a cell -/

/-- How the places of a cell are loaded, next to a load with the limit of the setup. -/
structure ReportsLoad (locate : Locator R) (defaults : FormDefaults) (cell : Hexagon R)
    (load : Traced R (MarkerBatch R)) : Prop where
  batch : (loadCell locate defaults cell).value = load.value
  /-- Without a place to ask for nothing happens and nothing is said. -/
  silent : load.value.requested = 0 → (loadCell locate defaults cell).events = []
  /-- Otherwise one line before the lookups tells their number, and one after them how many places
      are shown and how many have failed, if any. -/
  said : load.value.requested ≠ 0 →
    (loadCell locate defaults cell).events =
      .status .info s!"Fetching locations for {load.value.requested} places..." ::
        (load.events ++
          [.status .success (s!"Showing {load.value.markers.length} sample places." ++
            if 0 < load.value.failed then s!" {load.value.failed} could not be loaded." else "")])

theorem loadCell_of_count_eq_zero {locate : Locator R} {defaults : FormDefaults} {cell : Hexagon R}
    (h : min cell.placeIds.length defaults.markerLimit = 0) :
    loadCell locate defaults cell = pure empty := by
  simp only [loadCell, h, if_true]

theorem load_of_count_eq_zero {locate : Locator R} {placeIds : List String} {limit : Nat}
    (h : min placeIds.length limit = 0) : load locate placeIds limit = pure empty := by
  have hnil : placeIds.take limit = [] := by
    rw [← List.length_eq_zero_iff, List.length_take, Nat.min_comm, h]
  rw [load, hnil]
  rfl

theorem reportsLoad_loadCell (locate : Locator R) (defaults : FormDefaults) (cell : Hexagon R) :
    ReportsLoad locate defaults cell (load locate cell.placeIds defaults.markerLimit) := by
  have hrequested := (accountsForAll_load locate cell.placeIds defaults.markerLimit).requested
  by_cases hcount : min cell.placeIds.length defaults.markerLimit = 0
  · have hsilent : loadCell locate defaults cell = pure empty := loadCell_of_count_eq_zero hcount
    refine ⟨?_, fun _ => ?_, fun hsome => absurd (hrequested.trans hcount) hsome⟩
    · rw [hsilent, load_of_count_eq_zero hcount]
    · rw [hsilent]
      rfl
  · refine ⟨?_, fun hnone => absurd (hrequested.symm.trans hnone) hcount, fun _ => ?_⟩
    · simp only [loadCell, hcount, if_false]
      rfl
    · rw [hrequested]
      simp only [loadCell, hcount, if_false]
      rfl

/-- A load accounts for every place asked for, whatever the locator answers and
    however often a place is named; and the places of a cell are loaded and reported
    as such a load with the limit of the setup. -/
theorem accountsForPlaces (locate : Locator R) :
    (∀ placeIds limit, AccountsForAll locate placeIds limit) ∧
      ∀ defaults cell,
        ReportsLoad locate defaults cell (load locate cell.placeIds defaults.markerLimit) :=
  ⟨accountsForAll_load locate, reportsLoad_loadCell locate⟩

end MarkerBatch

end PlaceSearch
