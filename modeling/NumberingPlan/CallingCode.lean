import NumberingPlan.Territory

/-! Calling codes and the regions that share them. -/
namespace NumberingPlan

/-- Regions under their calling codes, one entry a code. -/
abbrev RegionsByCode := List (Int × List String)

namespace RegionsByCode

/-- The regions of a code that its first territory gives: an empty id is no region. -/
def opening (t : Territory) : List String := if t.id = "" then [] else [t.id]

/-- The regions of a code after one more of its territories: the main one goes to the front. -/
def joined (t : Territory) (regions : List String) : List String :=
  if t.isMain then t.id :: regions else regions ++ [t.id]

/-- Adds a territory under its calling code and keeps the codes ascending. -/
def add (t : Territory) : RegionsByCode → RegionsByCode
  | [] => [(t.countryCode, opening t)]
  | (code, regions) :: rest =>
    if t.countryCode < code then (t.countryCode, opening t) :: (code, regions) :: rest
    else if t.countryCode = code then (code, joined t regions) :: rest
    else (code, regions) :: add t rest

/-- The regions of a collection under their calling codes, codes ascending. Regions keep the order
of the collection, but for a code's second and later territories a main one goes to the front. -/
def ofTerritories (territories : List Territory) : RegionsByCode :=
  territories.foldl (fun codes t => codes.add t) []

end RegionsByCode

end NumberingPlan
