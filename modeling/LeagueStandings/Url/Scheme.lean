import LeagueStandings.Text.Split

/-!
# Schemes

A URL begins with a scheme, and the scheme decides how the rest is read: which characters separate
the segments of a path, and which port number need not be written.

## Breaks

Tabs and line breaks count nowhere in a URL, with one exception: in the path of a file they set a
drive letter apart from what follows it. So they are not taken out of the text as a whole but of
each part when it is read.
-/

namespace LeagueStandings

/-- How the text behind a scheme is read. -/
inductive SchemeKind
  /-- A well-known scheme with the port number that it implies. -/
  | web (portNumber : Nat)
  | file
  | other
deriving DecidableEq, Repr

namespace SchemeKind

/-- The kind of a scheme. -/
def ofScheme (scheme : List Char) : SchemeKind :=
  if scheme = "http".toList ∨ scheme = "ws".toList then web 80
  else if scheme = "https".toList ∨ scheme = "wss".toList then web 443
  else if scheme = "ftp".toList then web 21
  else if scheme = "file".toList then file
  else other

/-- A scheme for which the standard has rules of its own. -/
def isSpecial (kind : SchemeKind) : Bool := kind != other

/-- The character separates the segments of a path. -/
def isSlash (kind : SchemeKind) (c : Char) : Bool := c == '/' || (kind.isSpecial && c == '\\')

/-- The port number that the scheme implies. -/
def impliedPortNumber? : SchemeKind → Option Nat
  | web n => some n
  | _ => none

end SchemeKind

namespace Url

/-- Blanks and control characters at the ends of the text do not count. -/
def trim (cs : List Char) : List Char :=
  let blank := fun c : Char ↦ decide (c.val ≤ 0x20)
  ((cs.dropWhile blank).reverse.dropWhile blank).reverse

/-- A tab or a line break. -/
def isBreak (c : Char) : Bool := c == '\t' || c == '\n' || c == '\r'

/-- The text as it is read: tabs and line breaks do not count. -/
def withoutBreaks (cs : List Char) : List Char := cs.filter (!isBreak ·)

/-- What follows the slash at the beginning, if there is one. -/
def afterSlash? (kind : SchemeKind) (cs : List Char) : Option (List Char) :=
  match cs.dropWhile isBreak with
  | c :: rest => if kind.isSlash c then some rest else none
  | [] => none

/-- The scheme, in lower case, and what follows its colon. -/
def cutScheme? (cs : List Char) : Option (List Char × List Char) :=
  let (scheme, rest) := Text.cutAt ':' cs
  match withoutBreaks scheme, rest with
  | c :: scheme, some rest =>
    if c.isAlpha && scheme.all (fun c ↦ c.isAlphanum || c == '+' || c == '-' || c == '.') then
      some ((c :: scheme).map Char.toLower, rest)
    else none
  | _, _ => none

end Url

end LeagueStandings
