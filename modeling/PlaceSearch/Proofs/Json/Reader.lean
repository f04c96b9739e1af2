-- SUMMARY: What readers of lists and records find in a tree: items in order, and the parts under the names of a record.
import Mathlib.Data.List.Forall2
import Mathlib.Data.Set.List
import PlaceSearch.Json.Reader

/-!
# Trees that readers accept

A record may be written as an object or as an array. Either way its fields are parts
of the tree: the member with the name of the field, or the item at its place. Whatever
a reader of records builds, it builds from these parts.
-/

namespace PlaceSearch.Json

/-- The member of an object with the given key. -/
def memberOf (members : List (Option String × Tree)) (name : String) : Option Tree :=
  (members.find? fun m => m.1 == some name).map Prod.snd

/-- All keys are texts, and none of the names is the key of two members. -/
def HoldsOnce (names : List String) (members : List (Option String × Tree)) : Prop :=
  (∀ m ∈ members, m.1 ≠ none) ∧
    ∀ name ∈ names, (members.filter fun m => m.1 == some name).length ≤ 1

theorem HoldsOnce.memberOf_eq_some {names : List String} {members : List (Option String × Tree)}
    (h : HoldsOnce names members) {name : String} (hname : name ∈ names) {t : Tree}
    (hmember : (some name, t) ∈ members) : memberOf members name = some t := by
  have hnamed : (some name, t) ∈ members.filter fun m => m.1 == some name :=
    List.mem_filter.mpr ⟨hmember, beq_self_eq_true _⟩
  have honly : members.filter (fun m => m.1 == some name) = [(some name, t)] := by
    obtain ⟨m, hm⟩ := List.length_eq_one_iff.mp
      (Nat.le_antisymm (h.2 name hname) (List.length_pos_of_mem hnamed))
    rw [hm, List.mem_singleton] at hnamed
    rw [hm, hnamed]
  rw [memberOf, ← List.head?_filter, honly]
  rfl

namespace Reader

variable {α : Type} {room : Nat} {t : Tree}

/-! ## Values -/

theorem mapM_eq_some_iff {α β : Type} {f : α → Option β} {xs : List α} {ys : List β} :
    xs.mapM f = some ys ↔ List.Forall₂ (fun x y => f x = some y) xs ys := by
  induction xs generalizing ys with
  | nil => cases ys <;> simp
  | cons x xs ih =>
    rw [List.mapM_cons]
    cases hx : f x with
    | none => cases ys <;> simp [hx]
    | some y =>
      cases hxs : xs.mapM f with
      | none => cases ys <;> simp [← ih, hxs]
      | some rest => cases ys <;> simp [← ih, hx, hxs]

theorem text_eq_some_iff {s : String} : text room t = some s ↔ t = .text (some s) := by
  cases t <;> simp [text]

theorem natUpTo_eq_some_iff {high k : Nat} :
    natUpTo high room t = some k ↔
      k ≤ high ∧ ∃ n, t = .number n ∧ n.number? = some (.int k) := by
  cases t with
  | number n =>
    rw [natUpTo]
    split
    · next i hi =>
      rw [Option.ite_none_right_eq_some]
      simp only [hi, Tree.number.injEq, exists_eq_left', Option.some.injEq, Number.int.injEq]
      omega
    · next hnone =>
      simpa using fun _ hint => hnone _ hint
  | _ => simp [natUpTo]

/-- A field that may be missing is accepted if it is, or is null, or is accepted itself. -/
theorem exists_optional_eq_some_iff {r : Reader α} {part : Option Tree} :
    (∃ x, optional r room part = some x) ↔ ∀ t ∈ part, t = .null ∨ ∃ x, r room t = some x := by
  cases part with
  | none => simp [optional, withDefault]
  | some t => cases t <;> simp [optional, withDefault, nullable]

/-! ## Records -/

/-- A member whose key is a text, among members whose keys need not be. -/
def keyedMember (m : String × Tree) : Option String × Tree := (some m.1, m.2)

theorem mem_range_keyedMember {m : Option String × Tree} :
    m ∈ Set.range keyedMember ↔ m.1 ≠ none := by
  obtain ⟨key, tree⟩ := m
  cases key <;> simp [keyedMember]

theorem keyed?_eq_some_iff {members : List (Option String × Tree)} {ms : List (String × Tree)} :
    keyed? members = some ms ↔ members = ms.map keyedMember := by
  have hkey : ∀ (m : Option String × Tree) (m' : String × Tree),
      (m.1.map fun key => (key, m.2)) = some m' ↔ m = keyedMember m' := by
    rintro ⟨key, tree⟩ ⟨key', tree'⟩
    cases key <;> simp [keyedMember]
  rw [keyed?, mapM_eq_some_iff, ← List.forall₂_eq_eq_eq, List.forall₂_map_right_iff]
  simp only [hkey]

/-- A field gets the only member with its name. -/
theorem only?_eq_some_iff {ms : List (String × Tree)} {name : String} {part : Option Tree} :
    only? ms name = some part ↔
      ((ms.map keyedMember).filter fun m => m.1 == some name).length ≤ 1 ∧
        memberOf (ms.map keyedMember) name = part := by
  have hname : ((fun m => m.1 == some name) ∘ keyedMember) = fun m => m.1 == name := by
    funext m
    exact Option.some_beq_some
  rw [only?, memberOf, ← List.head?_filter, List.filter_map, hname]
  cases hnamed : ms.filter fun m => m.1 == name with
  | nil => simp
  | cons m rest => cases rest <;> simp [keyedMember]

/-- The parts of an object are handed over unless a key is no text or a name is repeated. -/
theorem fields_object_eq_some_iff {names : List String} {members : List (Option String × Tree)}
    {parts : List (Option Tree)} :
    fields names (room + 1) (.object members) = some parts ↔
      HoldsOnce names members ∧ names.map (memberOf members) = parts := by
  have hkeys : (∀ m ∈ members, m.1 ≠ none) ↔ ∃ ms, List.map keyedMember ms = members := by
    rw [← Set.mem_range, Set.range_list_map]
    simp only [Set.mem_ofPred_eq, mem_range_keyedMember]
  have hparts (ms : List (String × Tree)) :
      names.mapM (only? ms) = some parts ↔
        (∀ name ∈ names, ((ms.map keyedMember).filter fun m => m.1 == some name).length ≤ 1) ∧
          names.map (memberOf (ms.map keyedMember)) = parts := by
    rw [mapM_eq_some_iff, ← List.forall₂_eq_eq_eq, List.forall₂_map_left_iff,
      ← List.forall₂_and_left]
    simp only [only?_eq_some_iff]
  rw [HoldsOnce, hkeys, fields, Option.bind_eq_some_iff]
  simp only [keyed?_eq_some_iff, hparts]
  constructor
  · rintro ⟨ms, rfl, honce, hparts⟩
    exact ⟨⟨⟨ms, rfl⟩, honce⟩, hparts⟩
  · rintro ⟨⟨⟨ms, rfl⟩, honce⟩, hparts⟩
    exact ⟨ms, rfl, honce, hparts⟩

end Reader

end PlaceSearch.Json
