import LeagueStandings.Url.Ipv6

/-!
# URLs

A URL by its parts, each part in the encoded form in which it is written. The address of the
statistics service is one; parameters are added to its query.
-/

namespace LeagueStandings

/-- Where a URL points. -/
inductive Host
  /-- A domain name, or any other name of a host; it may be empty. -/
  | name (chars : List Char)
  | ipv4 (address : Nat)
  | ipv6 (groups : List Nat)
deriving DecidableEq, Repr

namespace Host

/-- The host as it is written. -/
def chars : Host → List Char
  | name chars => chars
  | ipv4 address => Ipv4.chars address
  | ipv6 groups => Ipv6.chars groups

end Host

/-- Who asks and whom: what stands behind the two slashes. -/
structure Authority where
  username : List Char
  password : List Char
  host : Host
  /-- The port number, unless it is the one that the scheme implies. -/
  portNumber : Option Nat
deriving DecidableEq, Repr

namespace Authority

/-- The authority as it is written. -/
def chars (a : Authority) : List Char :=
  a.username ++ (if a.password = [] then [] else ':' :: a.password) ++
    (if a.username = [] ∧ a.password = [] then [] else ['@']) ++ a.host.chars ++
    match a.portNumber with
    | none => []
    | some n => ':' :: Nat.toDigits 10 n

end Authority

/-- What follows the authority. -/
inductive UrlPath
  /-- Segments, each behind a slash. -/
  | segments (segments : List (List Char))
  /-- Anything that a scheme without hierarchy means. -/
  | text (chars : List Char)
deriving DecidableEq, Repr

/-- A URL. -/
structure Url where
  scheme : List Char
  authority : Option Authority
  path : UrlPath
  query : Option (List Char)
  fragment : Option (List Char)
deriving DecidableEq, Repr

namespace Url

/-- The URL without a user name and a password. -/
def withoutCredentials (u : Url) : Url :=
  { u with authority := u.authority.map fun a : Authority ↦
      { a with username := [], password := [] } }

/-- The path as it is written. Without an authority an empty first segment would read as one, so a
dot segment is put before it. -/
def pathChars (u : Url) : List Char :=
  match u.path with
  | .text chars => chars
  | .segments segments =>
    let slashed := segments.flatMap ('/' :: ·)
    match u.authority, segments with
    | none, [] :: _ :: _ => '/' :: '.' :: slashed
    | _, _ => slashed

/-- The URL as it is written. -/
def chars (u : Url) : List Char :=
  u.scheme ++ ':' ::
    (match u.authority with
      | none => []
      | some authority => '/' :: '/' :: authority.chars) ++
    u.pathChars ++
    (match u.query with
      | none => []
      | some query => '?' :: query) ++
    match u.fragment with
    | none => []
    | some fragment => '#' :: fragment

/-- The text of the URL. -/
def toText (u : Url) : String := String.ofList u.chars

end Url

end LeagueStandings
