-- SUMMARY: Which texts are selectors: a plain name, a bar and a type, and nothing else.
import PlaceSearch.Catalog.Region
import PlaceSearch.Text.Blank

/-!
# Selectors

A selector is cut at its first bar. In front of the bar stands a plain name, which
holds no bar, and behind it the name of a type, which holds none either. So the texts
that are taken are just the written selectors, each for one column.
-/

namespace PlaceSearch

/-! ## Plain names -/

namespace Sql

/-- A character of `[A-Za-z_]`. -/
def StartsName (c : Char) : Prop := 'A' ≤ c ∧ c ≤ 'Z' ∨ 'a' ≤ c ∧ c ≤ 'z' ∨ c = '_'

/-- A character of `[A-Za-z0-9_]`. -/
def ContinuesName (c : Char) : Prop := StartsName c ∨ '0' ≤ c ∧ c ≤ '9'

/-- The whole text matches `[A-Za-z_][A-Za-z0-9_]*`. -/
inductive MatchesName : List Char → Prop
  | intro {first : Char} {rest : List Char} (hfirst : StartsName first)
      (hrest : ∀ c ∈ rest, ContinuesName c) : MatchesName (first :: rest)

/-- A character that no plain name holds: a bar, white space or a line break, a quotation mark,
    or anything outside ASCII. -/
def BreaksName (c : Char) : Prop :=
  c = '|' ∨ Text.isBlank c = true ∨ c ∈ ['\'', '"', '`'] ∨ 128 ≤ c.toNat

theorem isNameStart_iff {c : Char} : isNameStart c = true ↔ StartsName c := by
  have halpha : c.isAlpha = (decide (c.val ≥ 65 ∧ c.val ≤ 90) ||
      decide (c.val ≥ 97) && decide (c.val ≤ 122)) := rfl
  simp only [isNameStart, StartsName, halpha, Bool.or_eq_true, decide_eq_true_eq,
    Bool.and_eq_true, beq_iff_eq, or_assoc]
  rfl

theorem isNamePart_iff {c : Char} : isNamePart c = true ↔ ContinuesName c := by
  rw [ContinuesName, ← isNameStart_iff]
  simp only [isNamePart, isNameStart, Char.isAlphanum, Bool.or_eq_true, beq_iff_eq, Char.isDigit,
    Bool.and_eq_true, decide_eq_true_eq]
  rw [or_right_comm]
  rfl

theorem isName_iff {cs : List Char} : isName cs = true ↔ MatchesName cs := by
  cases cs with
  | nil =>
    constructor
    · intro h
      cases h
    · intro h
      cases h
  | cons first rest =>
    rw [isName, Bool.and_eq_true, isNameStart_iff, List.all_eq_true]
    simp only [isNamePart_iff]
    constructor
    · rintro ⟨hfirst, hrest⟩
      exact .intro hfirst hrest
    · rintro ⟨hfirst, hrest⟩
      exact ⟨hfirst, hrest⟩

/-- Names are made of ASCII letters, digits and underscores. -/
theorem ContinuesName.toNat_mem {c : Char} (h : ContinuesName c) :
    48 ≤ c.toNat ∧ c.toNat ≤ 57 ∨ 65 ≤ c.toNat ∧ c.toNat ≤ 90 ∨ c.toNat = 95 ∨
      97 ≤ c.toNat ∧ c.toNat ≤ 122 := by
  simp only [ContinuesName, StartsName, Char.le_def, UInt32.le_iff_toNat_le] at h
  unfold Char.toNat
  rcases h with (h | h | rfl) | h
  · exact .inr (.inl h)
  · exact .inr (.inr (.inr h))
  · exact .inr (.inr (.inl rfl))
  · exact .inl h

theorem ContinuesName.not_breaksName {c : Char} (h : ContinuesName c) : ¬ BreaksName c := by
  have hrange := h.toNat_mem
  rintro (rfl | hblank | hquote | hhigh)
  · revert hrange
    decide
  · simp only [Text.isBlank, Bool.or_eq_true, Bool.and_eq_true, decide_eq_true_eq,
      beq_iff_eq] at hblank
    omega
  · simp only [List.mem_cons, List.not_mem_nil, or_false] at hquote
    revert hrange
    rcases hquote with rfl | rfl | rfl <;> decide
  · omega

theorem MatchesName.continuesName {cs : List Char} (h : MatchesName cs) {c : Char} (hc : c ∈ cs) :
    ContinuesName c := by
  obtain ⟨hfirst, hrest⟩ := h
  obtain rfl | hc := List.mem_cons.mp hc
  · exact .inl hfirst
  · exact hrest c hc

theorem Identifier.matchesName (i : Identifier) : MatchesName i.name.toList := isName_iff.mp i.isName

theorem Identifier.ofString?_eq_some_iff {name : String} {i : Identifier} :
    ofString? name = some i ↔ i.name = name := by
  constructor
  · intro h
    unfold ofString? at h
    split at h
    · cases h
      rfl
    · cases h
  · rintro rfl
    exact i.ofString?_name

end Sql

/-! ## Cutting at the bar -/

theorem splitAtBar_eq_some_iff {cs before after : List Char} :
    splitAtBar cs = some (before, after) ↔ '|' ∉ before ∧ cs = before ++ '|' :: after := by
  induction cs generalizing before with
  | nil => simp [splitAtBar]
  | cons c cs ih =>
    rw [splitAtBar]
    by_cases hc : c = '|'
    · rw [if_pos hc]
      constructor
      · intro h
        cases h
        exact ⟨List.not_mem_nil, by rw [hc]; rfl⟩
      · rintro ⟨hbefore, hcs⟩
        -- a part without a bar in front of the bar can only be empty
        cases before with
        | nil =>
          cases hcs
          rfl
        | cons d before =>
          cases hcs
          exact absurd (hc ▸ List.mem_cons_self) hbefore
    · rw [if_neg hc, Option.map_eq_some_iff]
      constructor
      · rintro ⟨⟨front, back⟩, hsplit, hpair⟩
        cases hpair
        obtain ⟨hfront, rfl⟩ := ih.mp hsplit
        exact ⟨List.not_mem_cons_of_ne_of_not_mem (Ne.symm hc) hfront, rfl⟩
      · rintro ⟨hbefore, hcs⟩
        cases before with
        | nil =>
          cases hcs
          exact absurd rfl hc
        | cons d before =>
          cases hcs
          exact ⟨(before, after), ih.mpr ⟨fun h => hbefore (List.mem_cons_of_mem _ h), rfl⟩, rfl⟩

theorem ColumnType.ofString?_eq_some_iff {text : String} {type : ColumnType} :
    ofString? text = some type ↔ text = type.render := by
  unfold ofString?
  constructor
  · intro h
    split at h
    · cases h
      assumption
    · split at h
      · cases h
        assumption
      · cases h
  · rintro rfl
    cases type <;> rfl

/-- A selector has a name without a bar, a bar, and the name of a type. -/
theorem parseSelector?_eq_some_iff {text name : String} {type : ColumnType} :
    parseSelector? text = some (name, type) ↔
      '|' ∉ name.toList ∧ text = name ++ "|" ++ type.render := by
  have htext : text.toList = name.toList ++ '|' :: type.render.toList ↔
      text = name ++ "|" ++ type.render := by
    rw [← String.toList_inj, String.toList_append, String.toList_append, List.append_assoc]
    rfl
  rw [parseSelector?, Option.bind_eq_some_iff]
  constructor
  · rintro ⟨⟨before, after⟩, hsplit, htype⟩
    obtain ⟨_, htype, hpair⟩ := Option.map_eq_some_iff.mp htype
    cases hpair
    obtain ⟨hbefore, hcs⟩ := splitAtBar_eq_some_iff.mp hsplit
    rw [ColumnType.ofString?_eq_some_iff] at htype
    rw [String.toList_ofList]
    refine ⟨hbefore, ?_⟩
    rw [← htext, String.toList_ofList, ← htype, String.toList_ofList, hcs]
  · rintro ⟨hname, rfl⟩
    refine ⟨(name.toList, type.render.toList), splitAtBar_eq_some_iff.mpr ⟨hname, htext.mpr rfl⟩, ?_⟩
    dsimp only
    rw [String.ofList_toList, String.ofList_toList, ColumnType.ofString?_eq_some_iff.mpr rfl]
    rfl

namespace RegionColumn

theorem not_breaksName_of_mem (column : RegionColumn) {c : Char}
    (h : c ∈ column.field.name.toList) : ¬ Sql.BreaksName c :=
  (column.field.matchesName.continuesName h).not_breaksName

theorem bar_notMem (column : RegionColumn) : '|' ∉ column.field.name.toList :=
  fun hmem => column.not_breaksName_of_mem hmem (.inl rfl)

/-- The texts that are taken for a column are its written selector. -/
theorem ofSelector_eq_ok_iff {text : String} {column : RegionColumn} :
    ofSelector text = .ok column ↔ text = column.selector := by
  unfold ofSelector
  constructor
  · intro h
    split at h
    · next field type hparse =>
      unfold ofParts at h
      split at h
      · next i hname =>
        cases h
        rw [Sql.Identifier.ofString?_eq_some_iff] at hname
        rw [(parseSelector?_eq_some_iff.mp hparse).2, selector, hname]
      · cases h
    · cases h
  · rintro rfl
    rw [selector, parseSelector?_eq_some_iff.mpr ⟨column.bar_notMem, rfl⟩]
    dsimp only
    rw [ofParts, column.field.ofString?_name]

/-- A selector is a plain name with the ending of its type. -/
theorem eq_selector_iff {text : String} {column : RegionColumn} :
    text = column.selector ↔
      ∃ name : String, Sql.MatchesName name.toList ∧ column.field.name = name ∧
        (text = name ++ "|STRING" ∧ column.type = .string ∨
          text = name ++ "|ARRAY" ∧ column.type = .array) := by
  obtain ⟨field, type⟩ := column
  rw [selector, String.append_assoc]
  constructor
  · rintro rfl
    refine ⟨field.name, field.matchesName, rfl, ?_⟩
    cases type with
    | string => exact .inl ⟨rfl, rfl⟩
    | array => exact .inr ⟨rfl, rfl⟩
  · rintro ⟨name, -, rfl, ⟨rfl, hstring⟩ | ⟨rfl, harray⟩⟩
    · cases hstring
      rfl
    · cases harray
      rfl

/-- Every plain name with one of the two endings is taken. -/
theorem exists_ofSelector_eq_ok_iff {text : String} :
    (∃ column, ofSelector text = .ok column) ↔
      ∃ name : String, Sql.MatchesName name.toList ∧
        (text = name ++ "|STRING" ∨ text = name ++ "|ARRAY") := by
  simp only [ofSelector_eq_ok_iff]
  constructor
  · rintro ⟨column, h⟩
    obtain ⟨name, hname, -, htext⟩ := eq_selector_iff.mp h
    exact ⟨name, hname, htext.imp And.left And.left⟩
  · rintro ⟨name, hname, htext⟩
    let field : Sql.Identifier := ⟨name, Sql.isName_iff.mpr hname⟩
    obtain htext | htext := htext
    · exact ⟨⟨field, .string⟩, eq_selector_iff.mpr ⟨name, hname, rfl, .inl ⟨htext, rfl⟩⟩⟩
    · exact ⟨⟨field, .array⟩, eq_selector_iff.mpr ⟨name, hname, rfl, .inr ⟨htext, rfl⟩⟩⟩

/-- A selector has one bar, and nothing else that breaks a name. -/
theorem selector_bars (column : RegionColumn) :
    column.selector.toList.count '|' = 1 ∧
      ∀ c ∈ column.selector.toList, c ≠ '|' → ¬ Sql.BreaksName c := by
  have hchars : column.selector.toList =
      column.field.name.toList ++ '|' :: column.type.render.toList := by
    rw [selector, String.toList_append, String.toList_append, List.append_assoc]
    rfl
  have hbars : column.type.render.toList.count '|' = 0 := by cases column.type <;> decide
  have hletters : ∀ c ∈ column.type.render.toList, Sql.ContinuesName c := by
    have hall : column.type.render.toList.all Sql.isNamePart = true := by
      cases column.type <;> decide
    exact fun c hc => Sql.isNamePart_iff.mp (List.all_eq_true.mp hall c hc)
  rw [hchars]
  constructor
  · rw [List.count_append, List.count_cons_self, List.count_eq_zero.mpr column.bar_notMem, hbars]
  · intro c hc hne
    rcases List.mem_append.mp hc with hc | hc
    · exact column.not_breaksName_of_mem hc
    · exact (hletters c ((List.mem_cons.mp hc).resolve_left hne)).not_breaksName

/-- So has every text that is taken. -/
theorem bars_of_ofSelector_eq_ok {text : String} {column : RegionColumn}
    (h : ofSelector text = .ok column) :
    text.toList.count '|' = 1 ∧ ∀ c ∈ text.toList, c ≠ '|' → ¬ Sql.BreaksName c := by
  rw [ofSelector_eq_ok_iff.mp h]
  exact column.selector_bars

end RegionColumn

end PlaceSearch
