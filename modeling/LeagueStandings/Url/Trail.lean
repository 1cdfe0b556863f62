import LeagueStandings.Url.Percent
import LeagueStandings.Url.Scheme

/-!
# Following paths

A path is followed segment by segment. A dot stays where it is, two dots lead one level up, and
every other segment leads one level down.

## Drives

A letter with a colon or a bar behind it may be the letter of a drive. No path leads up from a
drive, whatever the scheme. At the beginning of the path of a file the letter is written with a
colon, and the file is on this machine, so that there is no host.
-/

namespace LeagueStandings

namespace Url

/-! ## Kinds of segments -/

/-- A segment that stays where it is. -/
def isDot (segment : List Char) : Bool :=
  let segment := segment.map Char.toLower
  segment == ".".toList || segment == "%2e".toList

/-- A segment that leads one level up. -/
def isDoubleDot (segment : List Char) : Bool :=
  let segment := segment.map Char.toLower
  ["..", ".%2e", "%2e.", "%2e%2e"].any (·.toList == segment)

/-! ## Drive letters -/

/-- A letter with a colon or a bar behind it. -/
def isDriveLetter : List Char → Bool
  | [c, mark] => c.isAlpha && (mark == ':' || mark == '|')
  | _ => false

/-- The segment stands for a drive: its letter is all of it, or a backslash follows. -/
def isDrive (segment : List Char) : Bool :=
  isDriveLetter (segment.take 2) && (segment.drop 2).head?.all (· == '\\')

/-- Leaves the last segment, last first; a drive is never left. -/
def leave : List (List Char) → List (List Char)
  | [] => []
  | segment :: before => if isDrive segment then segment :: before else before

/-- A drive letter that a break sets apart, and what follows the break. -/
def cutDriveLetter? (segment : List Char) : Option (List Char × List Char) :=
  match segment.dropWhile isBreak with
  | [] => none
  | letter :: rest =>
    match rest.dropWhile isBreak with
    | ':' :: mark :: rest =>
      let rest := withoutBreaks rest
      if letter.isAlpha && isBreak mark && rest != [] then some ([letter, ':'], rest) else none
    | _ => none

/-! ## Trails -/

/-- How far a path has been followed. -/
structure Trail where
  /-- The segments that lead here, as they are written, last first. -/
  segments : List (List Char) := []
  /-- A drive letter stood at the beginning of the path of a file, where no host can be. -/
  onDrive : Bool := false
deriving DecidableEq, Repr

namespace Trail

/-- Stays at a place; a path that ends there ends with an empty segment. -/
def rest (trail : Trail) (isLast : Bool) : Trail :=
  if isLast then { trail with segments := [] :: trail.segments } else trail

/-- Enters a segment that means a place below. -/
def descend (trail : Trail) (segment : List Char) : Trail :=
  { trail with segments := Percent.encode Percent.keptInPath segment :: trail.segments }

/-- Follows one segment. At the beginning of the path of a file a drive letter gets a colon, and
one that a break sets apart is a segment of its own, with a plain one behind it. -/
def follow (kind : SchemeKind) (trail : Trail) (segment : List Char) (isLast : Bool) : Trail :=
  let atStart := decide (kind = .file) && trail.segments.isEmpty
  match if atStart then cutDriveLetter? segment else none with
  | some (drive, below) => (trail.descend drive).descend below
  | none =>
    let segment := withoutBreaks segment
    if isDoubleDot segment then { trail with segments := leave trail.segments }.rest isLast
    else if isDot segment then trail.rest isLast
    else if atStart && isDriveLetter segment then
      { trail.descend (segment.take 1 ++ [':']) with onDrive := true }
    else trail.descend segment

/-- Follows the segments of a path. -/
def followAll (kind : SchemeKind) (trail : Trail) : List (List Char) → Trail
  | [] => trail
  | segment :: rest => followAll kind (trail.follow kind segment rest.isEmpty) rest

/-- The trail of a path, given what follows its first slash. -/
def ofPath (kind : SchemeKind) (cs : List Char) : Trail :=
  followAll kind {} (Text.splitAt kind.isSlash cs)

end Trail

/-- The segments of a path, whose first slash may be missing. -/
def segments (kind : SchemeKind) (cs : List Char) : List (List Char) :=
  (Trail.ofPath kind ((afterSlash? kind cs).getD cs)).segments.reverse

end Url

end LeagueStandings
