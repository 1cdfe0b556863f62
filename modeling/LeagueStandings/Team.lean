import LeagueStandings.Json.Decoder

/-!
# Teams

A franchise as the catalogue lists it, and the shorter record of it that is written to the team
list.
-/

namespace LeagueStandings

/-- A franchise. -/
structure Team where
  id : Int64
  fullName : String
  abbreviation : String
  nickname : String
  city : String
  state : String
  yearFounded : Int32
deriving DecidableEq, Repr

/-- What the team list keeps of a franchise. -/
structure TeamRecord where
  id : Int64
  abbreviation : String
  city : String
  name : String
deriving DecidableEq, Repr

/-- The record of a franchise, under its full name. -/
def Team.record (team : Team) : TeamRecord where
  id := team.id
  abbreviation := team.abbreviation
  city := team.city
  name := team.fullName

namespace Team

/-- The franchise as a JSON record. -/
def toJson (team : Team) : Json :=
  .obj [("id", .int64 team.id), ("full_name", .str team.fullName),
    ("abbreviation", .str team.abbreviation), ("nickname", .str team.nickname),
    ("city", .str team.city), ("state", .str team.state),
    ("year_founded", .int64 team.yearFounded.toInt64)]

/-- Franchises as a JSON list. -/
def listToJson (teams : List Team) : Json := .arr (teams.map toJson)

end Team

namespace TeamRecord

/-- The keys of a written record, in order. -/
def keys : List String := ["id", "abbreviation", "city", "name"]

/-- The record as JSON. -/
def toJson (record : TeamRecord) : Json :=
  .obj [("id", .int64 record.id), ("abbreviation", .str record.abbreviation),
    ("city", .str record.city), ("name", .str record.name)]

/-- The team list as JSON. -/
def listToJson (records : List TeamRecord) : Json := .arr (records.map toJson)

open JsonTree in
/-- Reads a record. -/
def decoder? : Decoder TeamRecord := record? keys fun depth fields ↦ do
  let id ← required? int64? depth fields "id"
  let abbreviation ← required? string? depth fields "abbreviation"
  let city ← required? string? depth fields "city"
  let name ← required? string? depth fields "name"
  return { id, abbreviation, city, name }

/-- Reads a team list. -/
def listDecoder? : JsonTree.Decoder (List TeamRecord) := JsonTree.list? decoder?

end TeamRecord

end LeagueStandings
