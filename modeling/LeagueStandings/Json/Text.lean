import LeagueStandings.Json.Token
import LeagueStandings.Text.Utf8

/-!
# The strings of JSON

The bytes between the quotes of a string become a text: escapes are replaced by the characters they
name, two escaped surrogates by the one character they make together, and all the bytes must then
be UTF-8. A surrogate without its partner names no character, so such a string is refused.
-/

namespace LeagueStandings.JsonText

/-- A byte of a string, or a UTF-16 unit that an escape of six bytes names. -/
inductive Piece
  | byte (b : UInt8)
  | unit (n : Nat)

/-- The value of a hexadecimal digit. -/
def hexValue? (b : UInt8) : Option Nat :=
  if 0x30 ≤ b ∧ b ≤ 0x39 then some (b.toNat - 0x30)
  else if 0x41 ≤ b ∧ b ≤ 0x46 then some (b.toNat - 0x37)
  else if 0x61 ≤ b ∧ b ≤ 0x66 then some (b.toNat - 0x57)
  else none

/-- The byte that an escape of two bytes names. -/
def shortEscape? (b : UInt8) : Option UInt8 :=
  if b = 0x22 ∨ b = 0x5C ∨ b = 0x2F then some b
  else if b = 0x62 then some 0x08
  else if b = 0x66 then some 0x0C
  else if b = 0x6E then some 0x0A
  else if b = 0x72 then some 0x0D
  else if b = 0x74 then some 0x09
  else none

/-- Resolves the escapes of a string. -/
def pieces? : List UInt8 → Option (List Piece)
  | [] => some []
  | 0x5C :: 0x75 :: a :: b :: c :: d :: rest => do
    let a ← hexValue? a
    let b ← hexValue? b
    let c ← hexValue? c
    let d ← hexValue? d
    let rest ← pieces? rest
    some (.unit (((a * 16 + b) * 16 + c) * 16 + d) :: rest)
  | 0x5C :: b :: rest => do
    let b ← shortEscape? b
    let rest ← pieces? rest
    some (.byte b :: rest)
  | b :: rest => if b = 0x5C then none else (pieces? rest).map (.byte b :: ·)

/-- The unit is the first half of a pair. -/
def isHighSurrogate (n : Nat) : Bool := 0xD800 ≤ n && n < 0xDC00

/-- The unit is the second half of a pair. -/
def isLowSurrogate (n : Nat) : Bool := 0xDC00 ≤ n && n < 0xE000

/-- Writes the pieces as bytes, joining surrogates. -/
def join? : List Piece → Option (List UInt8)
  | [] => some []
  | .byte b :: rest => (join? rest).map (b :: ·)
  | [.unit n] =>
    if isHighSurrogate n || isLowSurrogate n then none
    else some (String.utf8EncodeChar (Char.ofNat n))
  | .unit n :: .byte b :: rest =>
    if isHighSurrogate n || isLowSurrogate n then none
    else (join? rest).map (String.utf8EncodeChar (Char.ofNat n) ++ b :: ·)
  | .unit n :: .unit m :: rest =>
    if isHighSurrogate n then
      if isLowSurrogate m then
        let c := Char.ofNat (0x10000 + (n - 0xD800) * 0x400 + (m - 0xDC00))
        (join? rest).map (String.utf8EncodeChar c ++ ·)
      else none
    else if isLowSurrogate n then none
    else (join? (.unit m :: rest)).map (String.utf8EncodeChar (Char.ofNat n) ++ ·)

/-- The text of a string, given the bytes between its quotes. -/
def decode? (spelling : List UInt8) : Option String :=
  ((pieces? spelling).bind join?).bind Utf8.decode?

end LeagueStandings.JsonText
