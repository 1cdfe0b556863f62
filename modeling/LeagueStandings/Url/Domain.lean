import LeagueStandings.Text.Utf8
import LeagueStandings.Url.DomainLabel
import LeagueStandings.Url.Percent

/-!
# Domain names

The host of a web address is a domain name, and the domain name system knows ASCII only. A name is
brought into small letters and composed, and each label beyond ASCII is encoded. Names that cannot
be are refused, and so are names with characters that would end the host in an address.
-/

namespace LeagueStandings.Domain

/-- A character that no domain may hold. -/
def isForbidden (n : Nat) : Bool :=
  n ≤ 0x20 || n == 0x7F || ("#/:<>?@[\\]^|%".toList.map Char.toNat).contains n

/-- The labels of a name, in small letters and composed. -/
def labels? (name : List Nat) : Option (List (List Nat)) := do
  let mapped ← name.mapM DomainMapping.mapChar?
  let labels := Text.splitAt (· == '.') ((Composition.compose mapped.flatten).map Char.ofNat)
  some (labels.map (·.map Char.toNat))

/-- The name in ASCII. -/
def toAscii? (name : List Nat) : Option (List Nat) := do
  let labels ← labels? name
  let decoded ← labels.mapM DomainLabel.decode?
  let readable := decoded.all fun label ↦ label.all (· < 0x80) || DomainLabel.isReadable label
  let oneWay := !decoded.any DomainLabel.runsRight || decoded.all DomainLabel.isOneWay
  let ascii := [0x2E].intercalate (labels.map DomainLabel.encode)
  if readable && oneWay && !ascii.any isForbidden then some ascii else none

/-- The domain name that the text of a host means. -/
def ofHost? (host : List Char) : Option (List Char) := do
  let name ← Utf8.decode? (Percent.decode (Utf8.encode (String.ofList host)))
  let ascii ← toAscii? (name.toList.map Char.toNat)
  some (ascii.map Char.ofNat)

end LeagueStandings.Domain
