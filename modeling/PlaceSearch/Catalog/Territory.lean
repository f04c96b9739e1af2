-- SUMMARY: The places dataset: its two editions, the territories of each, and the tables behind them.
import PlaceSearch.Catalog.Region
import PlaceSearch.Text.Blank

/-!
# Territories

A project subscribes to one edition of the places dataset. The full edition is
divided by country, the sample edition holds one city of each. A territory is
the label the user picks together with where its data lives.
-/

namespace PlaceSearch

/-- The editions of the dataset. -/
inductive Edition where
  | full
  | sample
deriving DecidableEq, Repr

namespace Edition

def render : Edition → String
  | .full => "FULL"
  | .sample => "SAMPLE"

/-- Read the name of an edition in any letter case; blank means the full one.
    A name that is not known is given back as it was compared. -/
def ofString (text : String) : Except String Edition :=
  let name := String.ofList ((Text.trimChars text.toList).map Char.toUpper)
  if name = "FULL" ∨ name = "" then .ok .full
  else if name = "SAMPLE" then .ok .sample
  else .error s!"Unknown dataset kind '{name}', expected FULL or SAMPLE"

/-- Label and country code of every territory of an edition. -/
def territories : Edition → List (String × String)
  | .full => [
      ("Australia", "au"), ("Brazil", "br"), ("Canada", "ca"), ("France", "fr"),
      ("Germany", "de"), ("India", "in"), ("Indonesia", "id"), ("Italy", "it"),
      ("Japan", "jp"), ("Mexico", "mx"), ("Spain", "es"), ("Switzerland", "ch"),
      ("United Kingdom", "gb"), ("United States", "us")]
  | .sample => [
      ("Sydney, Australia", "au"), ("Sao Paulo, Brazil", "br"), ("Toronto, Canada", "ca"),
      ("Paris, France", "fr"), ("Berlin, Germany", "de"), ("Mumbai, India", "in"),
      ("Jakarta, Indonesia", "id"), ("Rome, Italy", "it"), ("Tokyo, Japan", "jp"),
      ("Mexico City, Mexico", "mx"), ("Madrid, Spain", "es"), ("Zurich, Switzerland", "ch"),
      ("London, United Kingdom", "gb"), ("New York City, United States", "us")]

/-- All labels of an edition in alphabetical order. -/
def labels (e : Edition) : List String :=
  (e.territories.map Prod.fst).mergeSort fun a b => decide (a ≤ b)

/-- The start of the names of an edition's datasets for a country. -/
def datasetName (e : Edition) (country : String) : String :=
  match e with
  | .full => s!"places_insights___{country}"
  | .sample => s!"places_insights___{country}___sample"

end Edition

/-- A territory that can be searched. -/
structure Territory where
  edition : Edition
  label : String
  country : String
deriving DecidableEq, Repr

namespace Territory

/-- Find a territory by its label, a country or a city as the edition has it. -/
def lookup? (edition : Edition) (label : String) : Option Territory :=
  (edition.territories.find? fun entry => entry.1 == label).map fun (label, country) =>
    ⟨edition, label, country⟩

/-- The dataset that holds the table functions. -/
def functionDataset (t : Territory) : String := t.edition.datasetName t.country

/-- The table of places. -/
def placesTable (t : Territory) : String :=
  t.functionDataset ++ (match t.edition with
    | .full => ".places"
    | .sample => ".places_sample")

/-- The table of brands. Brands are published with the United States only. -/
def brandsTable (t : Territory) : String := t.edition.datasetName "us" ++ ".brands"

/-- Whether brand filters make sense here. -/
def hasBrands (t : Territory) : Bool := t.country == "us"

/-- The region columns on offer. -/
def regionFields (t : Territory) : List RegionField := RegionField.ofCountry t.country

end Territory

end PlaceSearch
