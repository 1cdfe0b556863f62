import LeagueStandings.Failure
import LeagueStandings.Url.Basic
import LeagueStandings.Url.Domain
import LeagueStandings.Url.Trail

/-!
# Reading URLs

The reading of absolute URLs as the URL standard lays it down. The text is cut from the outside
inwards: the fragment behind the first `#`, the query behind the first `?`, the scheme before the
first colon. What remains is read by the kind of the scheme. The well-known schemes of the web take
a backslash for a slash and do without the two slashes before the host; `file` has a host that may
be missing and a path that may start with a drive letter; any other scheme has an authority only
behind two slashes.
-/

namespace LeagueStandings

namespace Url

/-! ## Hosts -/

/-- An address in brackets, given what follows the opening one. -/
def bracketedHost? (cs : List Char) : Except UrlError Host :=
  if cs.getLast? = some ']' then
    match Ipv6.ofChars? cs.dropLast with
    | some groups => .ok (.ipv6 groups)
    | none => .error .invalidIpv6
  else .error .invalidIpv6

/-- A host of a special scheme: an address or a domain name. -/
def specialHost? : List Char → Except UrlError Host
  | '[' :: rest => bracketedHost? rest
  | cs =>
    match Domain.ofHost? cs with
    | none => .error .invalidDomain
    | some [] => .error .emptyHost
    | some name =>
      if Ipv4.endsInNumber name then
        match Ipv4.ofHost? name with
        | some address => .ok (.ipv4 address)
        | none => .error .invalidIpv4
      else .ok (.name name)

/-- A host of another scheme: an address in brackets or any name. -/
def otherHost? : List Char → Except UrlError Host
  | '[' :: rest => bracketedHost? rest
  | cs =>
    if cs.any fun c ↦ "\x00\t\n\r #/:<>?@[\\]^|".toList.contains c then
      .error .invalidHostCharacter
    else .ok (.name (Percent.encode Percent.isPlain cs))

/-! ## Authorities -/

/-- The host and what follows it: the first colon outside brackets ends it. -/
def cutHost (inBrackets : Bool) : List Char → List Char × List Char
  | [] => ([], [])
  | c :: rest =>
    if c = ':' ∧ inBrackets = false then ([], c :: rest)
    else
      let inBrackets := if c = '[' then true else if c = ']' then false else inBrackets
      let (host, rest) := cutHost inBrackets rest
      (c :: host, rest)

/-- The port number behind a colon and what follows it. A backslash ends the digits; nothing else
can follow them. -/
def portNumber? (kind : SchemeKind) (cs : List Char) :
    Except UrlError (Option Nat × List Char) :=
  let digits := cs.takeWhile Char.isDigit
  let rest := cs.dropWhile Char.isDigit
  let n := Nat.ofDigitChars 10 digits 0
  if 65535 < n ∨ (rest ≠ [] ∧ rest.head? ≠ some '\\') then .error .invalidPortNumber
  else .ok (if digits = [] ∨ kind.impliedPortNumber? = some n then none else some n, rest)

/-- The user name and the password before the last `@`, if there is one, and what follows it. -/
def cutUserInfo (cs : List Char) : Option (List Char) × List Char :=
  if cs.contains '@' then
    let reversed := cs.reverse
    (some ((reversed.dropWhile (· != '@')).drop 1).reverse,
      (reversed.takeWhile (· != '@')).reverse)
  else (none, cs)

/-- Reads an authority, and gives what the port number leaves of it. Credentials need a host, and so
does a port number. -/
def authority? (kind : SchemeKind) (cs : List Char) :
    Except UrlError (Authority × List Char) := do
  let (userInfo, hostAndPort) := cutUserInfo cs
  let (username, password) := Text.cutAt ':' (userInfo.getD [])
  let username := Percent.encode Percent.keptInUserInfo username
  let password := Percent.encode Percent.keptInUserInfo (password.getD [])
  let (hostText, rest) := cutHost false hostAndPort
  let given := username ≠ [] ∨ password ≠ []
  if hostText = [] ∧ (kind.isSpecial ∨ given ∨ rest ≠ [] ∨ userInfo = some []) then
    throw .emptyHost
  let host ← if kind.isSpecial then specialHost? hostText else otherHost? hostText
  let (portNumber, rest) ← portNumber? kind (rest.drop 1)
  return ({ username, password, host, portNumber }, rest)

/-! ## The three kinds of URLs -/

/-- The host of a file: none for the local machine. -/
def fileHost? (cs : List Char) : Except UrlError Host := do
  if cs = [] then return .name []
  let host ← specialHost? cs
  return if host = .name "localhost".toList then .name [] else host

/-- Reads what follows the scheme of a file. Without a host the slash behind the place of the host
belongs to the path, as an empty segment before all others. Empty segments at the front of the path
do not count in the end, and a host before a drive letter is dropped. -/
def fileParts? (cs : List Char) : Except UrlError (Option Authority × UrlPath) := do
  let isSlash := SchemeKind.file.isSlash
  let (host, path) ←
    match afterSlash? .file cs with
    | none => pure (Host.name [], cs)
    | some behindOne =>
      match afterSlash? .file behindOne with
      | none => pure (.name [], behindOne)
      | some behindTwo =>
        let hostText := withoutBreaks (behindTwo.takeWhile (!isSlash ·))
        if isDriveLetter hostText then pure (.name [], behindTwo)
        else
          let host ← fileHost? hostText
          let path := behindTwo.dropWhile (!isSlash ·)
          pure (host, if host = .name [] then path else path.drop 1)
  let trail := Trail.ofPath .file path
  let host := if trail.onDrive then .name [] else host
  let segments :=
    match trail.segments.reverse.dropWhile (· == []) with
    | [] => [[]]
    | kept => kept
  return (some ⟨[], [], host, none⟩, .segments segments)

/-- Reads what follows the scheme: the authority and the path. -/
def parts? (kind : SchemeKind) (cs : List Char) :
    Except UrlError (Option Authority × UrlPath) :=
  match kind with
  | .file => fileParts? cs
  | .web _ => do
    let cs := (withoutBreaks cs).dropWhile kind.isSlash
    let (authority, _) ← authority? kind (cs.takeWhile (!kind.isSlash ·))
    return (some authority, .segments (segments kind (cs.dropWhile (!kind.isSlash ·))))
  | .other =>
    match withoutBreaks cs with
    | '/' :: '/' :: rest => do
      let (authority, afterPort) ← authority? kind (rest.takeWhile (· != '/'))
      let path := afterPort ++ rest.dropWhile (· != '/')
      return (some authority, .segments (if path = [] then [] else segments kind path))
    | '/' :: rest => return (none, .segments (segments kind ('/' :: rest)))
    | cs => return (none, .text (Percent.encode Percent.isPlain cs))

/-- Reads an absolute URL. -/
def ofText? (text : String) : Except UrlError Url := do
  let (beforeFragment, fragment) := Text.cutAt '#' (trim text.toList)
  let (beforeQuery, query) := Text.cutAt '?' beforeFragment
  match cutScheme? beforeQuery with
  | none => throw .relativeWithoutBase
  | some (scheme, rest) =>
    let kind := SchemeKind.ofScheme scheme
    let (authority, path) ← parts? kind rest
    return {
      scheme, authority, path
      query := query.map fun cs ↦
        Percent.encode (Percent.keptInQuery kind.isSpecial) (withoutBreaks cs)
      fragment := fragment.map fun cs ↦ Percent.encode Percent.keptInFragment (withoutBreaks cs) }

end Url

end LeagueStandings
