import LeagueStandings.Url.Ipv4

/-!
# IPv6 addresses

Eight groups of up to four hexadecimal digits. One run of zero groups may be left out, between two
colons, and the last two groups may be written as four decimal numbers. An address is written back
without leading zeros, with the first of its longest runs of at least two zero groups left out.
-/

namespace LeagueStandings.Ipv6

/-- A group of one to four hexadecimal digits. -/
def group? (cs : List Char) : Option Nat :=
  if cs ≠ [] ∧ cs.length ≤ 4 then Ipv4.ofDigits? 16 cs else none

/-- A decimal number below 256 without superfluous zeros. -/
def byte? (cs : List Char) : Option Nat :=
  if cs ≠ [] ∧ (cs.head? = some '0' → cs.length = 1) then
    (Ipv4.ofDigits? 10 cs).filter (· < 256)
  else none

/-- The last two groups, written as four decimal numbers. -/
def dotted? (cs : List Char) : Option (List Nat) := do
  let [a, b, c, d] ← (Text.splitAt (· == '.') cs).mapM byte? | none
  some [a * 256 + b, c * 256 + d]

/-- The groups of a part of an address; only the end of the whole may be decimal. -/
def groups? (atEnd : Bool) (cs : List Char) : Option (List Nat) :=
  if cs = [] then some []
  else go (Text.splitAt (· == ':') cs)
where
  /-- The groups that pieces between colons spell. -/
  go : List (List Char) → Option (List Nat)
    | [] => some []
    | [last] =>
      if atEnd && last.contains '.' then dotted? last else (group? last).map ([·])
    | piece :: rest => do
      let first ← group? piece
      let rest ← go rest
      some (first :: rest)

/-- What stands before and after the first two neighbouring colons. -/
def cutAtGap : List Char → Option (List Char × List Char)
  | ':' :: ':' :: rest => some ([], rest)
  | c :: rest => (cutAtGap rest).map fun (before, after) ↦ (c :: before, after)
  | [] => none

/-- The eight groups of an address. -/
def ofChars? (cs : List Char) : Option (List Nat) :=
  match cutAtGap cs with
  | none => (groups? true cs).filter (·.length = 8)
  | some (before, after) => do
    let before ← groups? false before
    let after ← groups? true after
    let present := before.length + after.length
    if present ≤ 7 then some (before ++ List.replicate (8 - present) 0 ++ after) else none

/-- The number of zero groups at the front. -/
def leadingZeros (groups : List Nat) : Nat := (groups.takeWhile (· == 0)).length

/-- Where the longest run of zero groups starts, the first of several, and its length. -/
def longestRun (groups : List Nat) : Nat × Nat :=
  (List.range groups.length).foldl
    (fun best start ↦
      let length := leadingZeros (groups.drop start)
      if best.2 < length then (start, length) else best)
    (0, 0)

/-- Groups with colons between them. -/
def groupChars (groups : List Nat) : List Char :=
  [':'].intercalate (groups.map (Nat.toDigits 16))

/-- The address in brackets. -/
def chars (groups : List Nat) : List Char :=
  let (start, length) := longestRun groups
  let body :=
    if length < 2 then groupChars groups
    else groupChars (groups.take start) ++ ':' :: ':' :: groupChars (groups.drop (start + length))
  '[' :: body ++ [']']

end LeagueStandings.Ipv6
