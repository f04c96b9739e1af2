-- SUMMARY: Decoding undoes encoding, for cells of any nesting and for the tables made of them.
import PlaceSearch.Table.Reply

/-!
# Tables that survive the way

A cell is wrapped for the way and unwrapped on arrival. Wrapping puts every item
into an object of its own, so that an array of arrays, a record of nulls and an
empty list all arrive as what they were. The number of rows travels as a decimal
text and is read back digit by digit.
-/

namespace PlaceSearch

/-! ## Cells -/

namespace Cell

/-- An object whose only member is `v` is no record, and stands for that member. -/
theorem decode_wrapped (v : Json.Value) : decode (.object [("v", v)]) = decode v := by
  have hrecord : decodeRecord [("v", v)] = none := by
    cases v with
    | array items => simp [decodeRecord]
    | null | bool _ | number _ | text _ | object _ => simp [decodeRecord]
  simp [decode, hrecord, decodeWrapped]

/-- An object whose only member is a list `f` is a record. -/
theorem decode_record (items : List Json.Value) :
    decode (.object [("f", .array items)]) = .record (decodeFields items) := by
  simp [decode, decodeRecord]

-- The induction is on the cell; its lists of items and of fields are wrapped alike
-- but unwrapped by different functions, so each has a case of its own.
mutual

theorem decode_encode (c : Cell) : decode (encode c) = c := by
  cases c with
  | null => simp [encode, decode]
  | scalar text => simp [encode, decode]
  | array items => rw [encode, decode, decodeItems_encodeItems items]
  | record fields => rw [encode, decode_record, decodeFields_encodeItems fields]

theorem decodeItems_encodeItems (items : List Cell) : decodeItems (encodeItems items) = items := by
  cases items with
  | nil => simp [encodeItems, decodeItems]
  | cons c rest =>
    rw [encodeItems, decodeItems, decode_wrapped, decode_encode c, decodeItems_encodeItems rest]

theorem decodeFields_encodeItems (fields : List Cell) :
    decodeFields (encodeItems fields) = fields := by
  cases fields with
  | nil => simp [encodeItems, decodeFields]
  | cons c rest =>
    rw [encodeItems, decodeFields, decodeFields_encodeItems rest]
    simp [decodeWrapped, decode_encode c]

end

end Cell

/-! ## Decimal texts -/

/-- A digit has the value by which it counts in a decimal number. -/
theorem digitValue?_of_isDigit {c : Char} (h : c.isDigit = true) :
    digitValue? c = some (c.toNat - '0'.toNat) := by
  obtain ⟨hlow, hhigh⟩ := Char.isDigit_iff_toNat.mp h
  exact if_pos ⟨hlow, hhigh⟩

/-- Digits are taken to the last one. -/
theorem takeDigits_of_isDigit {cs : List Char} (h : ∀ c ∈ cs, c.isDigit = true) (acc count : Nat) :
    takeDigits acc count cs = (Nat.ofDigitChars 10 cs acc, count + cs.length, []) := by
  induction cs generalizing acc count with
  | nil => rfl
  | cons c rest ih =>
    have hrest := ih fun d hd => h d (List.mem_cons_of_mem c hd)
    rw [takeDigits, digitValue?_of_isDigit (h c List.mem_cons_self)]
    dsimp only
    rw [hrest, Nat.ofDigitChars_cons, List.length_cons]
    congr 2
    omega

theorem isDigit_of_mem_toDigits {n : Nat} {c : Char} (h : c ∈ Nat.toDigits 10 n) :
    c.isDigit = true :=
  Nat.isDigit_of_mem_toDigits (by decide) (by decide) h

/-- The digits of a natural number read back as the number. -/
theorem readNat?_toDigits (n : Nat) : readNat? (Nat.toDigits 10 n) = some n := by
  obtain ⟨c, rest, hdigits⟩ := List.exists_cons_of_ne_nil (Nat.toDigits_ne_nil (n := n) (b := 10))
  have htaken := takeDigits_of_isDigit (fun c hc => isDigit_of_mem_toDigits (n := n) hc) 0 0
  rw [Nat.ofDigitChars_ten_toDigits, hdigits, List.length_cons] at htaken
  rw [hdigits, readNat?, htaken]

/-- The text of a natural number reads back as the number, if it is not too large. -/
theorem readNatUpTo?_toString {n high : Nat} (h : n ≤ high) :
    readNatUpTo? high (toString n) = some n := by
  have hplus : '+' ∉ Nat.toDigits 10 n := by
    intro hmem
    have hdigit := isDigit_of_mem_toDigits hmem
    revert hdigit
    decide
  have hread := readNat?_toDigits n
  rw [readNatUpTo?, Nat.toString_eq_ofList_toDigits, String.toList_ofList]
  split
  · next rest hrest => exact absurd (hrest ▸ List.mem_cons_self) hplus
  · rw [hread, Option.bind_some, if_pos h]

/-! ## Tables -/

namespace Table

/-- The rows of a table arrive cell by cell. -/
theorem map_decode_encode (rows : List (List Cell)) :
    (rows.map fun row => row.map Cell.encode).map (fun row => row.map Cell.decode) = rows := by
  simp [Function.comp_def, Cell.decode_encode]

/-- The number of rows in all arrives, if it is known. -/
theorem totalRows_ofReply_toReply (t : Table) : (ofReply t.toReply).totalRows = t.totalRows := by
  cases htotal : t.totalRows with
  | none => simp [ofReply, toReply, htotal]
  | some total =>
    have hbound : total.toNat ≤ UInt64.size - 1 := Nat.le_sub_one_of_lt total.toNat_lt
    simp only [ofReply, toReply, htotal, Option.map_some, Option.bind_some,
      readNatUpTo?_toString hbound, Nat.toUInt64_eq, UInt64.ofNat_toNat]

/-- Every cell, whatever arrays and records it nests, and every table with its
    columns, rows and number of rows in all, arrives as it was sent. -/
theorem decoding_inverts_encoding :
    (∀ c : Cell, Cell.decode c.encode = c) ∧ (∀ t : Table, ofReply t.toReply = t) := by
  refine ⟨Cell.decode_encode, fun t => ?_⟩
  have hrows := map_decode_encode t.rows
  have htotal := totalRows_ofReply_toReply t
  cases t with
  | mk fields rows totalRows =>
    simp only [ofReply, toReply] at hrows htotal ⊢
    rw [hrows, htotal]

end Table

end PlaceSearch
