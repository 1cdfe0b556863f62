import LeagueStandings.Text.Integer
import LeagueStandings.Text.Split

/-!
# IPv4 addresses

A host whose last label is a number is an IPv4 address. It is written with up to four numbers, in
decimal, in octal after a leading zero or in hexadecimal after `0x`; the last number fills all the
bytes that the numbers before it leave.
-/

namespace LeagueStandings.Ipv4

/-- The value of a digit in some base. -/
def digitValue? (base : Nat) (c : Char) : Option Nat :=
  let value? :=
    if c.isDigit then some (c.toNat - '0'.toNat)
    else if 'a' ≤ c ∧ c ≤ 'f' then some (c.toNat - 'a'.toNat + 10)
    else if 'A' ≤ c ∧ c ≤ 'F' then some (c.toNat - 'A'.toNat + 10)
    else none
  value?.filter (· < base)

/-- The number that digits in some base spell. -/
def ofDigits? (base : Nat) (cs : List Char) : Option Nat :=
  cs.foldlM (fun value c ↦ (digitValue? base c).map (value * base + ·)) 0

/-- A number of an address: hexadecimal after `0x`, octal after another zero, else decimal. Nothing
after the mark is zero. -/
def number? : List Char → Option Nat
  | [] => none
  | '0' :: 'x' :: digits => ofDigits? 16 digits
  | '0' :: 'X' :: digits => ofDigits? 16 digits
  | '0' :: digit :: digits => ofDigits? 8 (digit :: digits)
  | digits => ofDigits? 10 digits

/-- The labels of a host, without the empty one behind a final dot. -/
def labels (host : List Char) : List (List Char) :=
  let labels := Text.splitAt (· == '.') host
  if 1 < labels.length ∧ labels.getLast? = some [] then labels.dropLast else labels

/-- The last label of the host is a number, so that the host can only be an address. -/
def endsInNumber (host : List Char) : Bool :=
  match (labels host).getLast? with
  | none => false
  | some last => (last != [] && last.all Char.isDigit) || (number? last).isSome

/-- The address that numbers make: one byte each, and the last fills the rest. -/
def ofNumbers? : (missing : Nat) → List Nat → Option Nat
  | missing, [last] => if last < 1 <<< (8 * missing) then some last else none
  | missing + 1, n :: rest =>
    if n < 256 then (ofNumbers? missing rest).map (n <<< (8 * missing) + ·) else none
  | _, _ => none

/-- The address that a host is. -/
def ofHost? (host : List Char) : Option Nat :=
  let labels := labels host
  if labels.length ≤ 4 then (labels.mapM number?).bind (ofNumbers? 4) else none

/-- The address as four decimal numbers. -/
def chars (address : Nat) : List Char :=
  Text.integerChars (address >>> 24 % 256 : Nat) ++
    '.' :: Text.integerChars (address >>> 16 % 256 : Nat) ++
    '.' :: Text.integerChars (address >>> 8 % 256 : Nat) ++
    '.' :: Text.integerChars (address % 256 : Nat)

end LeagueStandings.Ipv4
