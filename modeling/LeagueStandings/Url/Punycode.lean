/-!
# Punycode

The encoding of characters beyond ASCII by letters, digits and hyphens. The ASCII characters come
first; the others are inserted in ascending order, each by the distance from the place of the one
before, and the distances are written in digits whose weights adapt to them.
-/

namespace LeagueStandings.Punycode

/-- The weight at which a digit is the last one. -/
def threshold (position bias : Nat) : Nat :=
  if position ≤ bias then 1 else if bias + 26 ≤ position then 26 else position - bias

theorem threshold_pos (position bias : Nat) : 1 ≤ threshold position bias := by
  unfold threshold
  split <;> try split
  all_goals omega

theorem threshold_le (position bias : Nat) : threshold position bias ≤ 26 := by
  unfold threshold
  split <;> try split
  all_goals omega

/-- Brings a distance down to at most 455, counting positions. -/
def shrink (delta position : Nat) : Nat × Nat :=
  if 455 < delta then shrink (delta / 35) (position + 36) else (delta, position)
termination_by delta
decreasing_by omega

/-- The next bias, after a distance for the last of `count` characters. -/
def adapt (delta count : Nat) (first : Bool) : Nat :=
  let delta := if first then delta / 700 else delta / 2
  let (delta, position) := shrink (delta + delta / count) 0
  position + 36 * delta / (delta + 38)

/-- A digit as a letter or a decimal digit. -/
def digit (n : Nat) : Nat := if n < 26 then 0x61 + n else 0x30 + (n - 26)

/-- The value of a digit. -/
def digitValue? (n : Nat) : Option Nat :=
  if 0x61 ≤ n ∧ n ≤ 0x7A then some (n - 0x61)
  else if 0x41 ≤ n ∧ n ≤ 0x5A then some (n - 0x41)
  else if 0x30 ≤ n ∧ n ≤ 0x39 then some (n - 0x30 + 26)
  else none

/-- The digits of a distance from a position on. -/
def digits (bias position delta : Nat) : List Nat :=
  let t := threshold position bias
  if delta < t then [digit delta]
  else digit (t + (delta - t) % (36 - t)) :: digits bias (position + 36) ((delta - t) / (36 - t))
termination_by delta
decreasing_by
  have := threshold_pos position bias
  have := threshold_le position bias
  exact Nat.lt_of_le_of_lt (Nat.div_le_self _ _) (by omega)

/-- The state of encoding. -/
structure Encoder where
  output : List Nat
  delta : Nat
  bias : Nat
  /-- How many characters have been handled. -/
  handled : Nat

/-- Passes one character on the way through the text, inserting it if it is the one that is due. -/
def Encoder.step (basic due : Nat) (e : Encoder) (n : Nat) : Encoder :=
  if n < due then { e with delta := e.delta + 1 }
  else if n = due then
    { output := e.output ++ digits e.bias 36 e.delta
      delta := 0
      bias := adapt e.delta (e.handled + 1) (e.handled == basic)
      handled := e.handled + 1 }
  else e

/-- Inserts the due characters in turn; `passed` is the first code point that may still come. -/
def encodeFrom (text : List Nat) (basic : Nat) (passed : Nat) (e : Encoder) :
    List Nat → List Nat
  | [] => e.output
  | due :: rest =>
    let e := { e with delta := e.delta + (due - passed) * (e.handled + 1) }
    let e := text.foldl (Encoder.step basic due) e
    encodeFrom text basic (due + 1) { e with delta := e.delta + 1 } rest

/-- Puts a number into an ascending list, unless it is there. -/
def insertDistinct (n : Nat) : List Nat → List Nat
  | [] => [n]
  | m :: rest => if n < m then n :: m :: rest else if n = m then m :: rest
    else m :: insertDistinct n rest

/-- The encoded text. -/
def encode (text : List Nat) : List Nat :=
  let basic := text.filter (· < 0x80)
  let due := (text.filter (0x80 ≤ ·)).foldl (fun due n ↦ insertDistinct n due) []
  let start := if basic = [] then [] else basic ++ [0x2D]
  encodeFrom text basic.length 0x80 ⟨start, 0, 72, basic.length⟩ due

/-- Reads a distance and adds it to `index`, the digits so far having the weight `weight`. -/
def readDelta? (bias : Nat) : (position weight index : Nat) → List Nat → Option (Nat × List Nat)
  | _, _, _, [] => none
  | position, weight, index, n :: rest => do
    let value ← digitValue? n
    let index := index + value * weight
    let t := threshold position bias
    if value < t then some (index, rest)
    else readDelta? bias (position + 36) (weight * (36 - t)) index rest

/-- Inserts characters as the distances say, until nothing is left. -/
def decodeFrom? : (steps : Nat) → (output : List Nat) → (index bias due : Nat) → List Nat →
    Option (List Nat)
  | _, output, _, _, _, [] => some output
  | 0, _, _, _, _, _ => none
  | steps + 1, output, index, bias, due, text => do
    let (next, rest) ← readDelta? bias 36 1 index text
    let count := output.length + 1
    let due := due + next / count
    if due.isValidChar then
      decodeFrom? steps (output.insertIdx (next % count) due) (next % count + 1)
        (adapt (next - index) count (index == 0)) due rest
    else none

/-- The decoded text, if it is one. The last hyphen parts the ASCII characters from the distances;
without ASCII characters there is none. -/
def decode? (text : List Nat) : Option (List Nat) :=
  let tail := (text.reverse.takeWhile (· != 0x2D)).reverse
  let basic := text.take (text.length - tail.length - 1)
  if text.all (· < 0x80) && (basic != [] || tail == text) then
    decodeFrom? tail.length basic 0 72 0x80 tail
  else none

end LeagueStandings.Punycode
