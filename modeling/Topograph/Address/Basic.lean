import Topograph.Address.Host
import Topograph.Codec.Base64
import Topograph.Number.Entry

/-!
# Addresses

An address names a resource by a scheme, an authority of user, host and port, a path, a query and a
fragment, each of which may be absent. Reading brings it into one written form: scheme and host in
lower case, the usual port of the scheme left out, dot segments of the path resolved, and escapes
for characters that may not stand as they are. An address with a scheme and a host stands on its
own; any other is taken from the root of some host.
-/
namespace Topograph
open Topograph.Number

structure Address where
  scheme : String := ""
  user : String := ""
  host : String := ""
  port : Option Int := none
  path : String := ""
  query : Option String := none
  fragment : Option String := none
  deriving DecidableEq, Repr, Inhabited

namespace Address

/-! ## The characters of each part -/

/-- A printable ASCII character that is not among the given ones. -/
def isPrintableBut (others : String) (c : Char) : Bool :=
  0x21 ≤ c.toNat && c.toNat ≤ 0x7E && !others.toList.contains c

def isQueryChar : Char → Bool := isPrintableBut "\"#<>"

def isPathChar : Char → Bool := isPrintableBut "\"#<>?`\x7b\x7d"

def isUserChar : Char → Bool := isPrintableBut "\"#<>?`\x7b\x7d/;=@[\\]^|"

def isFragmentChar : Char → Bool := isPrintableBut "\"<>`"

def escaped (isSafe : Char → Bool) (cs : List Char) : String :=
  String.ofList (Text.Utf8.escape isSafe cs)

/-! ## Splitting -/

def isLetter (c : Char) : Bool :=
  (65 ≤ c.toNat && c.toNat ≤ 90) || (97 ≤ c.toNat && c.toNat ≤ 122)

def isSchemeChar (c : Char) : Bool :=
  isLetter c || Numeral.isDigit c || c == '+' || c == '-' || c == '.'

/-- The scheme in front of a colon, and the rest. A scheme begins with a letter, or is empty. -/
def splitScheme (cs : List Char) : List Char × List Char :=
  let name := cs.takeWhile isSchemeChar
  match cs.dropWhile isSchemeChar with
  | ':' :: rest => if name.head?.all isLetter then (name, rest) else ([], cs)
  | _ => ([], cs)

/-- The authority after two slashes, and the rest. -/
def splitAuthority : List Char → List Char × List Char
  | '/' :: '/' :: rest =>
    let isInside c := c != '/' && c != '?' && c != '#'
    (rest.takeWhile isInside, rest.dropWhile isInside)
  | cs => ([], cs)

/-- What follows a mark, up to the given end, and the rest. -/
def splitAfter (mark : Char) (isInside : Char → Bool) :
    List Char → Option (List Char) × List Char
  | [] => (none, [])
  | c :: rest =>
    if c = mark then (some (rest.takeWhile isInside), rest.dropWhile isInside)
    else (none, c :: rest)

/-- What stands before the last occurrence of a character, if there is one, and what follows. -/
def splitLast (c : Char) (cs : List Char) : Option (List Char) × List Char :=
  if cs.contains c then
    let after := (cs.reverse.takeWhile (· != c)).reverse
    (some (cs.take (cs.length - after.length - 1)), after)
  else (none, cs)

/-- The host of an authority without its user, and what follows; a bracket is closed by the last
one that can close it. -/
def splitHost (cs : List Char) : List Char × List Char :=
  match cs.head?, splitLast ']' cs with
  | some '[', (some inner, after) => (inner ++ [']'], after)
  | _, _ => (cs.takeWhile (· != ':'), cs.dropWhile (· != ':'))

/-! ## Ports and paths -/

def usualPorts : List (String × Int) :=
  [("ftp", 21), ("http", 80), ("https", 443), ("ws", 80), ("wss", 443)]

/-- The port that is written after a colon or nothing; none inside for the usual one of a scheme
spelled like this. -/
def port? (scheme : String) (cs : List Char) : Option (Option Int) :=
  match (match cs with | ':' :: rest => rest | rest => rest) with
  | [] => some none
  | ds => (Entry.int? (String.ofList ds)).map fun n =>
    if usualPorts.lookup scheme = some n then none else some n

/-- Segments without those that stay at a place or go back to the one before. -/
def resolveDots (segments : List (List Char)) : List (List Char) :=
  segments.foldl (fun done s =>
    if s = ['.'] then done
    else if s = ['.', '.'] then (if done = [[]] then done else done.dropLast)
    else done ++ [s]) []

/-- A path with its dot segments resolved. -/
def resolved (path : List Char) : List Char :=
  ['/'].intercalate (resolveDots (path.splitOn '/'))

/-- A path can stand with or without an authority in front of it, or without a scheme. -/
def isPathAllowed (hasScheme hasAuthority : Bool) (path : List Char) : Bool :=
  if hasAuthority then path.isEmpty || path.head? == some '/'
  else hasScheme || (path.take 2 != ['/', '/'] && path.head? != some ':')

/-! ## Reading -/

/-- The longest address that is read. -/
def lengthLimit : Nat := 65536

def isControl (c : Char) : Bool := c.toNat < 0x20 || c.toNat == 0x7F

/-- Read an address, if the characters are one. -/
def read? (s : String) : Option Address := do
  let cs := s.toList
  if lengthLimit < cs.length || cs.any isControl then none
  else do
    let (scheme, afterScheme) := splitScheme cs
    let (authority, afterAuthority) := splitAuthority afterScheme
    let isPath c := c != '?' && c != '#'
    let (query, afterQuery) :=
      splitAfter '?' (· != '#') (afterAuthority.dropWhile isPath)
    let (fragment, _) := splitAfter '#' (fun _ => true) afterQuery
    let (user, place) := splitLast '@' authority
    let (hostChars, afterHost) := splitHost place
    let host ← if hostChars.isEmpty then some [] else Host.write? hostChars
    let port ← port? (String.ofList scheme) afterHost
    let user := user.getD []
    let path := afterAuthority.takeWhile isPath
    let hasScheme := !scheme.isEmpty
    let hasAuthority := !user.isEmpty || !host.isEmpty || port.isSome
    if isPathAllowed hasScheme hasAuthority path then
      return {
        scheme := String.ofList (scheme.map Written.lower)
        user := escaped isUserChar user
        host := String.ofList host
        port
        path := escaped isPathChar (if hasScheme || hasAuthority then resolved path else path)
        query := query.map (escaped isQueryChar)
        fragment := fragment.map (escaped isFragmentChar) }
    else none

/-- The address stands on its own. -/
def isAbsolute (a : Address) : Bool := a.scheme != "" && a.host != ""

/-- The path from the root. -/
def rooted (path : String) : List Char := '/' :: path.toList.dropWhile (· == '/')

/-- The address as a request takes it: one that does not stand on its own is a path from the root,
and perhaps a query. -/
def forRequest (a : Address) : Address :=
  if a.isAbsolute then a
  else { path := String.ofList (rooted a.path), query := a.query }

/-- The path of a request to some host. -/
def pathAtHost (a : Address) : String :=
  if a.isAbsolute then a.path else String.ofList (resolved (rooted a.path))

/-! ## Writing -/

/-- The authority as it is written. -/
def authority (a : Address) : String :=
  (if a.user = "" then "" else a.user ++ "@")
    ++ (if a.host.toList.contains ':' then "[" ++ a.host ++ "]" else a.host)
    ++ (match a.port with
      | some n => ":" ++ integerText n
      | none => "")

/-- The written form of an address. -/
def text (a : Address) : String :=
  let part (mark : String) (s : Option String) : String :=
    match s with
    | some s => mark ++ s
    | none => ""
  (if a.scheme = "" then "" else a.scheme ++ ":")
    ++ (if a.authority = "" then "" else "//" ++ a.authority)
    ++ a.path ++ part "?" a.query ++ part "#" a.fragment

/-- A text with escapes, read as UTF-8. -/
def unescaped (s : String) : String := Text.Utf8.decode (Text.Utf8.unescape s.toList)

/-- The name and the password of the user, if either is there. -/
def credentials? (a : Address) : Option (String × String) :=
  let cs := a.user.toList
  let name := unescaped (String.ofList (cs.takeWhile (· != ':')))
  let password := unescaped (String.ofList ((cs.dropWhile (· != ':')).drop 1))
  if name = "" ∧ password = "" then none else some (name, password)

end Address
end Topograph
