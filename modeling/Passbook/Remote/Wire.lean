import Passbook.Remote.Exchange
import Passbook.Text.Decimal
/-!
Requests and answers as they go over a connection. A request asks that the connection be closed
after the answer and that the answer come in one piece, so the content ends where its stated
length or else the connection does.
-/

namespace Passbook

namespace Url

/-- The host and the number of its service, which is the usual one of the scheme unless stated. -/
def endpoint? (url : Url) : Option (String × UInt16) := do
  let authority ← url.authority
  let host ← authority.host
  let service ← authority.service <|> usualServices.lookup url.scheme
  return (host.bareText, service)

end Url

namespace NetRequest

def verbName : Verb → String
  | .get => "GET"
  | .post _ => "POST"

/-- The last lines of a request: what it carries, behind an empty line. -/
def load : Verb → List String
  | .get => ["", ""]
  | .post content => [
      "Content-Type: application/json",
      "Content-Length: " ++ toString content.utf8ByteSize,
      "",
      content]

def wire (request : NetRequest) : String :=
  "\r\n".intercalate ([
    verbName request.verb ++ " " ++ request.url.target ++ " HTTP/1.0",
    "Host: " ++ (request.url.authority.map Url.Authority.hostText).getD "",
    "Accept: */*"] ++ load request.verb)

end NetRequest

namespace NetResponse

/-- The bytes before the first empty line and those after it. -/
def headAndRest? : List UInt8 → Option (List UInt8 × List UInt8)
  | [] => none
  | 13 :: 10 :: 13 :: 10 :: rest => some ([], rest)
  | byte :: rest => (headAndRest? rest).map fun split => (byte :: split.1, split.2)

def status? (line : String) : Option Nat :=
  match line.splitOn " " with
  | version :: code :: _ =>
      if "HTTP/1.".toList.isPrefixOf version.toList && code.length == 3 then
        Decimal.natural? code.toList
      else none
  | _ => none

def lengthOf? (line : String) : Option Nat :=
  match line.splitOn ":" with
  | [name, value] =>
      if name.toLower = "content-length" then Decimal.natural? value.trimAscii.toString.toList
      else none
  | _ => none

/-- An answer that breaks off before its stated length is none. -/
def ofWire? (bytes : List UInt8) : Option NetResponse := do
  let (head, rest) ← headAndRest? bytes
  let lines := (String.ofList (head.map fun byte => Char.ofNat byte.toNat)).splitOn "\r\n"
  let status ← lines.head?.bind status?
  let length := (lines.findSome? lengthOf?).getD rest.length
  if length ≤ rest.length then
    some ⟨status, (String.fromUTF8? (rest.take length).toByteArray).getD ""⟩
  else none

end NetResponse

end Passbook
