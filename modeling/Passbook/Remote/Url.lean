import Passbook.Remote.Host
/-!
Addresses on the network by their parts, and their texts. All parts are kept as they are written
in a text, with characters that may not stand there spelled by their bytes.
-/

namespace Passbook

namespace Url

/-- Who is asked for, where, and at which service. -/
structure Authority where
  user : List Char := []
  password : Option (List Char) := none
  host : Option Host
  service : Option UInt16 := none
  deriving DecidableEq, Repr, Inhabited

inductive Path where
  /-- A slash stands before each segment. -/
  | rooted (segments : List (List Char))
  | plain (text : List Char)
  deriving DecidableEq, Repr, Inhabited

end Url

structure Url where
  scheme : String
  authority : Option Url.Authority
  path : Url.Path
  query : Option String
  fragment : Option String
  deriving DecidableEq, Repr, Inhabited

namespace Url

/-- The schemes whose addresses always name a host, and their usual services. -/
def usualServices : List (String × UInt16) :=
  [("http", 80), ("https", 443), ("ws", 80), ("wss", 443), ("ftp", 21)]

namespace Authority

/-- The user with an at sign, if any is named. -/
def userText (authority : Authority) : String :=
  let user := String.ofList authority.user
  match authority.password with
  | some password => user ++ ":" ++ String.ofList password ++ "@"
  | none => if user = "" then "" else user ++ "@"

def hostText (authority : Authority) : String :=
  ((authority.host.map Host.text).getD "") ++
    ((authority.service.map fun service => ":" ++ toString service.toNat).getD "")

def text (authority : Authority) : String := authority.userText ++ authority.hostText

end Authority

def Path.text : Path → String
  | .rooted segments => String.ofList (segments.flatMap ('/' :: ·))
  | .plain text => String.ofList text

/-- Keeps a path whose first segment is empty from being taken for an authority. -/
def pathMark : Path → String
  | .rooted ([] :: _ :: _) => "/."
  | _ => ""

def markedText (mark : String) (part : Option String) : String :=
  (part.map (mark ++ ·)).getD ""

/-- The path and what is asked of it. -/
def target (url : Url) : String := url.path.text ++ markedText "?" url.query

def text (url : Url) : String :=
  let front := match url.authority with
    | some authority => "//" ++ authority.text
    | none => pathMark url.path
  url.scheme ++ ":" ++ front ++ url.target ++ markedText "#" url.fragment

def host (url : Url) : Option Host := url.authority.bind Authority.host

def withForm (url : Url) (fields : List (String × String)) : Url :=
  let before := match url.query with
    | none | some "" => ""
    | some query => query ++ "&"
  { url with query := some (before ++ Percent.form fields) }

/-- A user that can be read is told in another way than in the address. -/
def withoutUser (url : Url) : Url :=
  match url.authority with
  | none => url
  | some authority =>
      let password := authority.password.bind Percent.decoded?
      if (Percent.decoded? authority.user).isSome && (authority.user ≠ [] || password.isSome) then
        { url with authority := some { authority with user := [], password := none } }
      else url

end Url

end Passbook
