import LeagueStandings.Text.Utf8

/-!
# Percent encoding

A character that a part of a URL does not keep is written as its UTF-8 bytes, each as `%` and two
hexadecimal digits. What is kept differs from part to part. Characters beyond ASCII and control
characters are never kept.
-/

namespace LeagueStandings.Percent

/-- A hexadecimal digit in upper case. -/
def upperHexDigit (n : Nat) : Char := (Nat.digitChar (n % 16)).toUpper

/-- A byte as `%` and two hexadecimal digits. -/
def encodeByte (b : UInt8) : List Char :=
  ['%', upperHexDigit (b.toNat / 16), upperHexDigit b.toNat]

/-- A character, encoded unless it is kept. -/
def encodeChar (keep : Char → Bool) (c : Char) : List Char :=
  if keep c then [c] else (String.utf8EncodeChar c).flatMap encodeByte

/-- A text, with every character encoded that is not kept. -/
def encode (keep : Char → Bool) (cs : List Char) : List Char := cs.flatMap (encodeChar keep)

/-- The value of a hexadecimal digit in either case. -/
def hexValue? (b : UInt8) : Option UInt8 :=
  if 0x30 ≤ b ∧ b ≤ 0x39 then some (b - 0x30)
  else if 0x41 ≤ b ∧ b ≤ 0x46 then some (b - 0x37)
  else if 0x61 ≤ b ∧ b ≤ 0x66 then some (b - 0x57)
  else none

/-- The bytes with every encoded byte replaced; a `%` that encodes nothing stands for itself. -/
def decode : List UInt8 → List UInt8
  | [] => []
  | b :: rest =>
    match b, rest with
    | 0x25, high :: low :: tail =>
      match hexValue? high, hexValue? low with
      | some high, some low => (16 * high + low) :: decode tail
      | _, _ => 0x25 :: decode (high :: low :: tail)
    | b, rest => b :: decode rest

/-- The visible characters of ASCII and the blank. -/
def isPlain (c : Char) : Bool := 0x20 ≤ c.val && c.val < 0x7F

/-- Kept in a fragment. -/
def keptInFragment (c : Char) : Bool :=
  isPlain c && !(c == ' ' || c == '"' || c == '<' || c == '>' || c == '\x60')

/-- Kept in a query; URLs of the well-known schemes encode the apostrophe too. -/
def keptInQuery (special : Bool) (c : Char) : Bool :=
  isPlain c && !(c == ' ' || c == '"' || c == '#' || c == '<' || c == '>') &&
    !(special && c == '\x27')

/-- Kept in a segment of a path. -/
def keptInPath (c : Char) : Bool :=
  keptInFragment c && !(c == '#' || c == '?' || c == '\x7b' || c == '\x7d')

/-- Kept in a user name or a password. -/
def keptInUserInfo (c : Char) : Bool :=
  keptInPath c && !(c == '/' || c == ':' || c == ';' || c == '=' || c == '@' || c == '[' ||
    c == '\\' || c == ']' || c == '^' || c == '|')

end LeagueStandings.Percent
