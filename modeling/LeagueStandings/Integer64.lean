/-!
# Integers of 64 bits

Identifiers and counts are integers of 64 bits with sign. An integer becomes one only if it fits
(`ofInt?_eq_some_iff`), so that none is silently changed.
-/

namespace LeagueStandings.Integer64

/-- The 64-bit integer of the same value, if there is one. -/
def ofInt? (n : Int) : Option Int64 :=
  if (Int64.ofInt n).toInt = n then some (Int64.ofInt n) else none

/-- The answer has the same value, and every integer of 64 bits is an answer. -/
theorem ofInt?_eq_some_iff {n : Int} {i : Int64} : ofInt? n = some i ↔ i.toInt = n := by
  unfold ofInt?
  constructor
  · intro h
    split at h
    · next hn => exact Option.some.inj h ▸ hn
    · cases h
  · rintro rfl
    simp

/-- A 64-bit integer is the one of its value. -/
@[simp] theorem ofInt?_toInt (i : Int64) : ofInt? i.toInt = some i := ofInt?_eq_some_iff.mpr rfl

end LeagueStandings.Integer64
