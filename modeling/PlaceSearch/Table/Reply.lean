-- SUMMARY: Query replies as they arrive, and the tables decoded from them.
import PlaceSearch.Json.Reader
import PlaceSearch.Table.Cell

/-!
# Tables

A reply to a query names its columns, carries some rows, and may say how many
rows there are in all and whether the job has finished. A table is what the
rest of the program sees of it.
-/

namespace PlaceSearch

open Json (Reader Value)

/-- A reply as it arrives, its cells still wrapped. -/
structure QueryReply where
  fields : List String
  rows : List (List Value)
  /-- The number of rows in all, as a decimal text. -/
  totalRows : Option String
  jobComplete : Option Bool

namespace QueryReply

/-- The name of a column; its type and mode may be given and are passed over. -/
def fieldReader : Reader String :=
  .record ["name", "type", "mode"] fun room fields => do
    let [name, type, mode] := fields | none
    let name ← Reader.required .text room name
    let _ ← Reader.optional .text room type
    let _ ← Reader.optional .text room mode
    return name

/-- The columns. -/
def schemaReader : Reader (List String) :=
  .record ["fields"] fun room fields => do
    let [names] := fields | none
    Reader.withDefault (.list fieldReader) [] room names

/-- A wrapped cell. -/
def cellReader : Reader Value :=
  .record ["v"] fun room fields => do
    let [value] := fields | none
    Reader.withDefault .value .null room value

/-- A row. -/
def rowReader : Reader (List Value) :=
  .record ["f"] fun room fields => do
    let [cells] := fields | none
    Reader.withDefault (.list cellReader) [] room cells

/-- A reply. -/
def reader : Reader QueryReply :=
  .record ["schema", "rows", "totalRows", "jobComplete"] fun room fields => do
    let [schema, rows, totalRows, jobComplete] := fields | none
    let schema ← Reader.optional schemaReader room schema
    let rows ← Reader.optional (.list rowReader) room rows
    let totalRows ← Reader.optional .text room totalRows
    let jobComplete ← Reader.optional .bool room jobComplete
    return ⟨schema.getD [], rows.getD [], totalRows, jobComplete⟩

end QueryReply

structure Table where
  fields : List String
  rows : List (List Cell)
  /-- The number of rows in all, which may exceed the rows at hand. -/
  totalRows : Option UInt64

namespace Table

/-- Decode a reply. A total that is no number of 64 bits is not known. -/
def ofReply (r : QueryReply) : Table where
  fields := r.fields
  rows := r.rows.map fun row => row.map Cell.decode
  totalRows := (r.totalRows.bind (readNatUpTo? (UInt64.size - 1))).map Nat.toUInt64

/-- The reply that carries a table. -/
def toReply (t : Table) : QueryReply where
  fields := t.fields
  rows := t.rows.map fun row => row.map Cell.encode
  totalRows := t.totalRows.map fun total => toString total.toNat
  jobComplete := none

/-- Decode the text of a reply. -/
def ofText? (text : String) : Option Table := (QueryReply.reader.run text).map ofReply

def isEmpty (t : Table) : Bool := t.rows.isEmpty

/-- The first column of a name, the case of ASCII letters aside. -/
def position? (t : Table) (name : String) : Option Nat :=
  let lower (s : String) : List Char := s.toList.map Char.toLower
  t.fields.findIdx? fun f => lower f == lower name

/-- Whether there are more rows than those at hand. -/
def isPartial (t : Table) : Bool :=
  match t.totalRows with
  | some total => t.rows.length < total.toNat
  | none => false

end Table

end PlaceSearch
