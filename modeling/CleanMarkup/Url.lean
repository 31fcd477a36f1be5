import CleanMarkup.Event
import CleanMarkup.Host
import CleanMarkup.Settings

/-!
# Addresses

An address is a scheme, `://` and a host, with perhaps a user before the host and a number after it,
and then a path, a query and a fragment. An address is absolute if it is written without blanks,
controls, quotes, brackets, backslashes and backticks, has one of the schemes given, and names a
host. The check is `AbsoluteUrl.passes`, which takes the reading of the host as a parameter;
`AbsoluteUrl.check` is the one in use.
-/

namespace CleanMarkup

namespace Url

/-- The schemes of the web, whose addresses have to have a host. -/
def webSchemes : List Text := ["http", "https", "ws", "wss", "ftp"].map String.toList

/-- A character that ends the part of an address before the path. -/
def endsAuthority (c : Char) : Bool := c == '/' || c == '?' || c == '#'

/-- A colon and a number below 2¹⁶, or nothing, and then the path. -/
def isPort (s : Text) : Bool :=
  match s with
  | ':' :: r =>
    let digits := r.takeWhile Text.isDigit
    Text.decimalValue digits < 65536 && (r.dropWhile Text.isDigit).head?.all endsAuthority
  | _ => true

/-- How far the host reaches: to a colon outside brackets or to the path. `inside` says that a
bracket is open; the characters before are `host` (newest first). -/
def cutHost (inside : Bool) (host : Text) : Text → Text × Text
  | [] => (host.reverse, [])
  | c :: r =>
    if endsAuthority c || (c == ':' && !inside) then (host.reverse, c :: r)
    else cutHost (if c == '[' then true else if c == ']' then false else inside) (c :: host) r

/-- What follows the user, whose sign is the last before the path. -/
def afterUser (s : Text) : Text :=
  s.drop ((s.takeWhile (!endsAuthority ·)).reverse.dropWhile (· != '@')).length

/-- What follows the slashes names a host, on the web or elsewhere. -/
def authorityNamesHost (onWeb : Bool) (s : Text) : Bool :=
  let (host, rest) := cutHost false [] (afterUser s)
  !host.isEmpty && (if onWeb then (Host.webHost? host).isSome else Host.isOtherHost host) &&
    isPort rest

/-- A letter with a colon or a bar, as drives are written. -/
def isDrive (s : Text) : Bool :=
  match s with
  | [c, d] => c.isAlpha && (d == ':' || d == '|')
  | _ => false

/-- The segment means staying where one is. -/
def isDot (s : Text) : Bool := Text.asciiLower s == ['.'] || Text.asciiLower s == "%2e".toList

/-- The segment means going one up. -/
def isDoubleDot (s : Text) : Bool :=
  ["..", ".%2e", "%2e.", "%2e%2e"].any (Text.asciiLower s == ·.toList)

/-- The first segment of a path of files is a drive, once dots are resolved. A first segment that
begins with a drive keeps its place. The segments before are `below`, nearest first. -/
def leadsToDrive (below : List Text) : List Text → Bool
  | [] => false
  | s :: rest =>
    if isDoubleDot s then
      leadsToDrive (match below with
        | [] => []
        | [bottom] => if isDrive bottom then [bottom] else []
        | _ :: below => below) rest
    else if isDot s then leadsToDrive below rest
    else if below.isEmpty && isDrive s then true
    else if below.isEmpty && isDrive (s.take 2) && s[1]? == some ':' then
      leadsToDrive [s.drop 2, s.take 2] rest
    else leadsToDrive (s :: below) rest

/-- What follows the scheme of a file names a host that is not this one. -/
def fileNamesHost (s : Text) : Bool :=
  match s with
  | '/' :: '/' :: r =>
    let host := r.takeWhile (!endsAuthority ·)
    let rest := r.dropWhile (!endsAuthority ·)
    let path := (if rest.head? == some '/' then rest.drop 1 else rest).takeWhile fun c =>
      c != '?' && c != '#'
    !isDrive host && (Host.webHost? host).any (· != "localhost".toList) &&
      !leadsToDrive [] (Text.splitAt (· == '/') path)
  | _ => false

/-- The address can be read and names a host. -/
def namesHost (s : Text) : Bool :=
  let scheme := Text.asciiLower (s.takeWhile (· != ':'))
  match s.dropWhile (· != ':') with
  | [] => false
  | _ :: rest =>
    if !Settings.isScheme scheme then false
    else if scheme == "file".toList then fileNamesHost rest
    else if webSchemes.contains scheme then authorityNamesHost true (rest.dropWhile (· == '/'))
    else match rest with
      | '/' :: '/' :: r => authorityNamesHost false r
      | _ => false

end Url

namespace AbsoluteUrl

/-- Controls of ASCII and Latin-1. -/
def isControl (c : Char) : Bool := c.toNat < 32 || (127 ≤ c.toNat && c.toNat < 160)

/-- Characters that no absolute address is written with. -/
def isRefused (c : Char) : Bool :=
  isBlank c || isControl c || c == '"' || c == '\'' || c == '<' || c == '>' || c == '\\' ||
    c == '\x60'

/-- The address is absolute and has one of the schemes, given what names a host. -/
def passes (namesHost : Text → Bool) (candidate : Text) (schemes : List Text) : Bool :=
  !candidate.any isRefused &&
    match Text.splitOnce? "://".toList candidate with
    | none => false
    | some (scheme, rest) =>
      schemes.any (Text.sameIgnoringCase · scheme) && rest.head?.any (· != '/') &&
        namesHost candidate

/-- The check of addresses where no other is given. -/
def check : UrlCheck := passes Url.namesHost

end AbsoluteUrl

end CleanMarkup
