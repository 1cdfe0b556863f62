/-!
# The tokens of a JSON text

A text is cut into brackets, commas, colons, words and strings. A word is any run of bytes without
blanks, brackets, commas, colons and quotes: which words mean something is decided later. A string
is checked here only as far as its end must be found: control characters are refused, a backslash
must start one of the known escapes, and `u` takes four hexadecimal digits. Whether the escapes
name characters is a matter of the string's reader, because strings that are skipped are never
asked.

The scanner consumes one byte at a time, so that scanning a concatenation is scanning its parts in
turn.
-/

namespace LeagueStandings

/-- A token; words and strings keep their bytes as they are spelled. -/
inductive JsonToken
  | openList
  | closeList
  | openRecord
  | closeRecord
  | comma
  | colon
  | word (spelling : List UInt8)
  | text (spelling : List UInt8)
deriving DecidableEq, Repr

namespace JsonToken

/-- The four bytes that JSON knows as blanks. -/
def isSpace (b : UInt8) : Bool := b == 0x20 || b == 0x09 || b == 0x0A || b == 0x0D

/-- The token of a single byte. -/
def punctuation? (b : UInt8) : Option JsonToken :=
  if b = 0x5B then some openList
  else if b = 0x5D then some closeList
  else if b = 0x7B then some openRecord
  else if b = 0x7D then some closeRecord
  else if b = 0x2C then some comma
  else if b = 0x3A then some colon
  else none

/-- A hexadecimal digit in either case. -/
def isHexDigit (b : UInt8) : Bool :=
  (0x30 ≤ b && b ≤ 0x39) || (0x41 ≤ b && b ≤ 0x46) || (0x61 ≤ b && b ≤ 0x66)

/-- The letters and signs that make an escape of two bytes. -/
def isShortEscape (b : UInt8) : Bool :=
  b == 0x22 || b == 0x5C || b == 0x2F || b == 0x62 || b == 0x66 || b == 0x6E || b == 0x72 ||
    b == 0x74

/-- Where in a token the scanner stands; the bytes of the token come last first. -/
inductive Position
  | between
  | word (spelling : List UInt8)
  | text (spelling : List UInt8)
  | escape (spelling : List UInt8)
  | unicode (missing : Nat) (spelling : List UInt8)

/-- The scanner: the tokens so far, last first, and the position. -/
structure Scanner where
  tokens : List JsonToken
  position : Position

namespace Scanner

/-- Takes a byte that stands between two tokens. -/
def start (tokens : List JsonToken) (b : UInt8) : Scanner :=
  if isSpace b then ⟨tokens, .between⟩
  else if b = 0x22 then ⟨tokens, .text []⟩
  else match punctuation? b with
    | some token => ⟨token :: tokens, .between⟩
    | none => ⟨tokens, .word [b]⟩

/-- The byte ends a word. -/
def endsWord (b : UInt8) : Bool := isSpace b || b == 0x22 || (punctuation? b).isSome

/-- Takes one byte. -/
def step (s : Scanner) (b : UInt8) : Option Scanner :=
  match s.position with
  | .between => some (start s.tokens b)
  | .word spelling =>
    if endsWord b then some (start (.word spelling.reverse :: s.tokens) b)
    else some ⟨s.tokens, .word (b :: spelling)⟩
  | .text spelling =>
    if b = 0x22 then some ⟨.text spelling.reverse :: s.tokens, .between⟩
    else if b = 0x5C then some ⟨s.tokens, .escape (b :: spelling)⟩
    else if b < 0x20 then none
    else some ⟨s.tokens, .text (b :: spelling)⟩
  | .escape spelling =>
    if b = 0x75 then some ⟨s.tokens, .unicode 3 (b :: spelling)⟩
    else if isShortEscape b then some ⟨s.tokens, .text (b :: spelling)⟩
    else none
  | .unicode missing spelling =>
    if isHexDigit b then
      match missing with
      | 0 => some ⟨s.tokens, .text (b :: spelling)⟩
      | missing + 1 => some ⟨s.tokens, .unicode missing (b :: spelling)⟩
    else none

/-- The tokens in order, unless the input ends within a string. -/
def finish (s : Scanner) : Option (List JsonToken) :=
  match s.position with
  | .between => some s.tokens.reverse
  | .word spelling => some (.word spelling.reverse :: s.tokens).reverse
  | _ => none

end Scanner

/-- The tokens of a list of bytes, unless a string in it is malformed. -/
def scan? (bytes : List UInt8) : Option (List JsonToken) :=
  (bytes.foldlM Scanner.step ⟨[], .between⟩).bind Scanner.finish

end JsonToken

end LeagueStandings
