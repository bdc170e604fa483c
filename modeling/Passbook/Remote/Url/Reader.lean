import Passbook.Remote.Url
/-!
Reading an address on the network. Blanks around it and ends of lines in it are passed over. In
the schemes that are known to name hosts a backslash is as good as a slash, and so is any number of
slashes before the host.
-/

namespace Passbook.Url

/-- What a scheme says about the addresses in it. -/
inductive Family where
  /-- They name a host. -/
  | hosted
  /-- They name a file, mostly without a host. -/
  | file
  /-- They are not known. -/
  | other
  deriving DecidableEq, Repr

namespace Family

def ofScheme (scheme : String) : Family :=
  if scheme = "file" then .file
  else if (usualServices.lookup scheme).isSome then .hosted
  else .other

def isSlash (family : Family) (char : Char) : Bool :=
  char == '/' || (char == '\\' && family != .other)

end Family

def isMargin (char : Char) : Bool := char.toNat ≤ 0x20

def trimmed (text : List Char) : List Char :=
  ((text.dropWhile isMargin).reverse.dropWhile isMargin).reverse

def cleaned (text : List Char) : List Char :=
  (trimmed text).filter fun char => char != '\t' && char != '\n' && char != '\r'

def isSchemeChar (char : Char) : Bool :=
  char.isAlphanum || char == '+' || char == '-' || char == '.'

/-- The scheme before the first colon, which begins with a letter, and what follows. -/
def scheme? (text : List Char) : Option (String × List Char) :=
  let name := text.takeWhile isSchemeChar
  match text.dropWhile isSchemeChar with
  | ':' :: rest =>
      if name.head?.any Char.isAlpha then some (String.ofList (name.map Char.toLower), rest)
      else none
  | _ => none

/-- What stands before the first of a character, and what behind it if there is one. -/
def cut (mark : Char) (text : List Char) : List Char × Option (List Char) :=
  match text.dropWhile (· != mark) with
  | [] => (text, none)
  | _ :: rest => (text.takeWhile (· != mark), some rest)

def isWrittenInFragment (char : Char) : Bool :=
  Percent.isControl char || " \"<>\x60".toList.contains char

def isWrittenInPath (char : Char) : Bool :=
  isWrittenInFragment char || "#?\x7b\x7d".toList.contains char

def isWrittenInUser (char : Char) : Bool :=
  isWrittenInPath char || "/:;=@[\\]^|".toList.contains char

def isWrittenInQuery (family : Family) (char : Char) : Bool :=
  Percent.isControl char || " \"#<>".toList.contains char || (char == '\'' && family != .other)

/-- What stands before the last of a character, if there is one, and what behind it. -/
def cutLast (mark : Char) (text : List Char) : Option (List Char) × List Char :=
  let (after, before) := cut mark text.reverse
  (before.map List.reverse, after.reverse)

/-- A user with an optional password. An at sign with nothing before it and no host behind it is
refused unless it ends the whole text. -/
def user? (isEnd : Bool) (text host : List Char) : Option (List Char × Option (List Char)) :=
  if text = [] ∧ host = [] ∧ !isEnd then none
  else
    let (user, password) := cut ':' text
    let encode := Percent.encode isWrittenInUser
    some (encode user, (password.filter (· ≠ [])).map encode)

/-- Splits a text at its first colon outside brackets. -/
def cutService (isInside : Bool) : List Char → List Char × Option (List Char)
  | [] => ([], none)
  | char :: rest =>
      if char = ':' ∧ !isInside then ([], some rest)
      else
        let split := cutService (char == '[' || (isInside && char != ']')) rest
        (char :: split.1, split.2)

/-- The number of a service. The usual service of a scheme is not told, nor is none. -/
def service? (scheme : String) : Option (List Char) → Option (Option UInt16)
  | none | some [] => some none
  | some digits =>
      (Decimal.natural? digits).bind fun number =>
        if number < UInt16.size then
          some ((some (UInt16.ofNat number)).filter (usualServices.lookup scheme != some ·))
        else none

/-- An authority, and what stands behind it where a backslash ends the number of the service. A host
may be left out only where a user and a service are. -/
def authority? (family : Family) (scheme : String) (isEnd : Bool) (text : List Char) :
    Option (Authority × List Char) := do
  let (before, after) := cutLast '@' text
  let (user, password) ← match before with
    | none => some ([], none)
    | some before => user? isEnd before after
  let (name, number) := cutService false after
  let service ← service? scheme (number.map (·.takeWhile (· != '\\')))
  let rest := (number.getD []).dropWhile (· != '\\')
  if name ≠ [] then
    let host ← if family = .other then Host.ofPlain? name else Host.ofText? name
    return ({ user, password, host := some host, service }, rest)
  else if family = .other ∧ user = [] ∧ password = none ∧ number = none then
    return ({ host := none }, rest)
  else none

def isSelf (segment : List Char) : Bool :=
  [".", "%2e"].contains (String.ofList (segment.map Char.toLower))

def isParent (segment : List Char) : Bool :=
  ["..", ".%2e", "%2e.", "%2e%2e"].contains (String.ofList (segment.map Char.toLower))

/-- A letter with a colon or a bar names a drive. -/
def isDrive : List Char → Bool
  | [letter, mark] => letter.isAlpha && (mark == ':' || mark == '|')
  | _ => false

/-- Leaves the segment that was reached last; a drive is not left. -/
def parent : List (List Char) → List (List Char)
  | [] => []
  | last :: rest => if isDrive last then last :: rest else rest

/-- Follows segments from those that are reached, of which the last stands first. Among files a
first segment that names a drive does so with a colon. -/
def follow (family : Family) (reached : List (List Char)) :
    List (List Char) → List (List Char)
  | [] => reached.reverse
  | segment :: rest =>
      let closed (reached : List (List Char)) := if rest = [] then [] :: reached else reached
      if isParent segment then follow family (closed (parent reached)) rest
      else if isSelf segment then follow family (closed reached) rest
      else if family = .file ∧ reached = [] ∧ isDrive segment then
        follow family [segment.take 1 ++ [':']] rest
      else follow family (segment :: reached) rest

/-- The segments of a path after its first slash. -/
def segments (family : Family) (text : List Char) : List (List Char) :=
  follow family [] ((text.splitOnP family.isSlash).map (Percent.encode isWrittenInPath))

def pathOf (family : Family) (text : List Char) : Path :=
  match text, family with
  | [], .other => .rooted []
  | [], _ => .rooted [[]]
  | _ :: rest, _ => .rooted (segments family rest)

/-- A host, if one is named, and the path behind it. Without a host of its own a file is on this
one, and a slash before its path is part of the path. -/
def fileHost? (text : List Char) : Option (Option Host × List Char) :=
  let name := text.takeWhile (!Family.file.isSlash ·)
  if name = [] ∨ isDrive name then some (none, text)
  else do
    let host ← Host.ofText? name
    let rest := text.dropWhile (!Family.file.isSlash ·)
    if host = .named "localhost" then some (none, rest) else some (some host, rest.drop 1)

/-- A path to a file begins with its first segment that is not empty. A file whose path begins with
a drive is on no host. -/
def file? (text : List Char) : Option (Authority × Path) := do
  let isSlash := Family.file.isSlash
  let (host, rest) ← match text with
    | first :: second :: rest =>
        if isSlash first && isSlash second then fileHost? rest
        else some (none, if isSlash first then second :: rest else text)
    | _ => some (none, text.dropWhile isSlash)
  let all := segments .file rest
  let named := match all.dropWhile (· == []) with
    | [] => [[]]
    | named => named
  return ({ host := if all.head?.any isDrive then none else host }, .rooted named)

def ofText? (text : String) : Option Url := do
  let (scheme, rest) ← scheme? (cleaned text.toList)
  let family := Family.ofScheme scheme
  let (rest, fragment) := cut '#' rest
  let (body, query) := cut '?' rest
  let (authority, path) ← match family, body with
    | .file, _ => (file? body).map fun file => (some file.1, file.2)
    | .hosted, _ => do
        let body := body.dropWhile family.isSlash
        let (authority, _) ←
          authority? family scheme false (body.takeWhile (!family.isSlash ·))
        some (some authority, pathOf family (body.dropWhile (!family.isSlash ·)))
    | .other, '/' :: '/' :: body => do
        let behind := body.dropWhile (!family.isSlash ·)
        let isEnd := behind = [] ∧ query = none ∧ fragment = none
        let (authority, rest) ←
          authority? family scheme isEnd (body.takeWhile (!family.isSlash ·))
        let path := if rest = [] then behind else '/' :: rest ++ behind
        some (some authority, pathOf family path)
    | .other, '/' :: _ => some (none, pathOf family body)
    | .other, _ => some (none, .plain (Percent.encode Percent.isControl body))
  let written (isWritten : Char → Bool) (part : List Char) : String :=
    String.ofList (Percent.encode isWritten part)
  return {
    scheme, authority, path
    query := query.map (written (isWrittenInQuery family))
    fragment := fragment.map (written isWrittenInFragment) }

end Passbook.Url
