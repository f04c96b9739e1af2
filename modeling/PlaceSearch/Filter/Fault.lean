-- SUMMARY: What can be wrong with a filter input.

/-!
# Filter faults
-/

namespace PlaceSearch

inductive FilterFault where
  | invalidIdentifier (text : String)
  | invalidTime (text : String)
  | unknownDay (text : String)
  | unknownStatus (text : String)
deriving DecidableEq, Repr

def FilterFault.message : FilterFault → String
  | .invalidIdentifier text => s!"'{text}' is not a valid column name"
  | .invalidTime text => s!"'{text}' is not a valid time, expected HH:MM"
  | .unknownDay text => s!"Unknown day of week '{text}'"
  | .unknownStatus text => s!"Unknown business status '{text}'"

end PlaceSearch
