import Passbook.Remote.Retry
import Passbook.Remote.Url.Reader
/-!
One request and its answer on the network. Only an answer of success has content that is looked at.
-/

namespace Passbook

open Retry (Question)

inductive Verb where
  | get
  | post (content : String)
  deriving DecidableEq, Repr

structure NetRequest where
  verb : Verb
  url : Url
  deriving DecidableEq, Repr

structure NetResponse where
  status : Nat
  content : String
  deriving DecidableEq, Repr

/-- Sends a request; there may be no answer. -/
abbrev Transport (m : Type → Type) := NetRequest → m (Option NetResponse)

namespace NetResponse

/-- The registered names of statuses. -/
def reasons : List (Nat × String) := [
  (100, "Continue"), (101, "Switching Protocols"), (102, "Processing"),
  (200, "OK"), (201, "Created"), (202, "Accepted"), (203, "Non Authoritative Information"),
  (204, "No Content"), (205, "Reset Content"), (206, "Partial Content"), (207, "Multi-Status"),
  (208, "Already Reported"), (226, "IM Used"),
  (300, "Multiple Choices"), (301, "Moved Permanently"), (302, "Found"), (303, "See Other"),
  (304, "Not Modified"), (305, "Use Proxy"), (307, "Temporary Redirect"),
  (308, "Permanent Redirect"),
  (400, "Bad Request"), (401, "Unauthorized"), (402, "Payment Required"), (403, "Forbidden"),
  (404, "Not Found"), (405, "Method Not Allowed"), (406, "Not Acceptable"),
  (407, "Proxy Authentication Required"), (408, "Request Timeout"), (409, "Conflict"),
  (410, "Gone"), (411, "Length Required"), (412, "Precondition Failed"),
  (413, "Payload Too Large"), (414, "URI Too Long"), (415, "Unsupported Media Type"),
  (416, "Range Not Satisfiable"), (417, "Expectation Failed"), (418, "I'm a teapot"),
  (421, "Misdirected Request"), (422, "Unprocessable Entity"), (423, "Locked"),
  (424, "Failed Dependency"), (425, "Too Early"), (426, "Upgrade Required"),
  (428, "Precondition Required"), (429, "Too Many Requests"),
  (431, "Request Header Fields Too Large"), (451, "Unavailable For Legal Reasons"),
  (500, "Internal Server Error"), (501, "Not Implemented"), (502, "Bad Gateway"),
  (503, "Service Unavailable"), (504, "Gateway Timeout"), (505, "HTTP Version Not Supported"),
  (506, "Variant Also Negotiates"), (507, "Insufficient Storage"), (508, "Loop Detected"),
  (510, "Not Extended"), (511, "Network Authentication Required")]

def statusText (status : Nat) : String :=
  toString status ++ " " ++ (reasons.lookup status).getD "<unknown status code>"

def isSuccess (response : NetResponse) : Bool := 200 ≤ response.status && response.status < 300

/-- The content, if the answer is one of success. -/
def content? (response : NetResponse) : Except Fault String :=
  if response.isSuccess then .ok response.content
  else .error (.api ("HTTP error: " ++ statusText response.status))

end NetResponse

namespace Fault

def unbuilt : Fault := .http "builder error"

def unbuiltFor (url : Url) : Fault := .http ("builder error for url (" ++ url.text ++ ")")

def unsent (url : Url) : Fault := .http ("error sending request for url (" ++ url.text ++ ")")

def undecodable : Fault := .http "error decoding response body"

end Fault

namespace Url

/-- An address that names a host. Its user is not shown. -/
def located (text : String) : Except Fault Url :=
  match ofText? text with
  | none => .error .unbuilt
  | some url => if url.host.isSome then .ok url.withoutUser else .error (.unbuiltFor url)

/-- Characters that may stand in the name of a host, but not in that of a server. -/
def isUnserved (char : Char) : Bool := "\"\x60\x7b\x7d".toList.contains char

/-- Whether requests can be sent to an address: it is that of a web server and not too long. -/
def isWeb (url : Url) : Bool :=
  (url.scheme == "http" || url.scheme == "https") &&
    !url.host.any (·.text.toList.any isUnserved) &&
    url.text.utf8ByteSize + 1 < UInt16.size

end Url

namespace NetRequest

/-- What comes of a request: the content of an answer of success, or what went wrong. -/
def outcome (request : NetRequest) : Option NetResponse → Except Fault String
  | none => .error (.unsent request.url)
  | some response => response.content?

end NetRequest

def exchange {m : Type → Type} [Monad m] (transport : Transport m) (request : NetRequest) :
    Question m String :=
  if request.url.isWeb then ExceptT.mk (request.outcome <$> transport request)
  else throw (.unbuiltFor request.url)

end Passbook
