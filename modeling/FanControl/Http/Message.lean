import FanControl.Json.Printer
import FanControl.Text.Bytes

/-!
# Requests and responses

The parts of HTTP that the device and its clients use: a method, a path with a query behind it, one
header that says what the body is, and a body.
-/

namespace FanControl.Http

/-- What is to be done with a path. -/
inductive Method where
  | get
  | head
  | post
  | other (name : String)
deriving DecidableEq, Repr

namespace Method

/-- The method with a name. -/
def ofName (s : String) : Method :=
  if s = "GET" then get
  else if s = "HEAD" then head
  else if s = "POST" then post
  else other s

/-- The name of a method. -/
def name : Method → String
  | get => "GET"
  | head => "HEAD"
  | post => "POST"
  | other s => s

end Method

/-- A request. -/
structure Request where
  method : Method
  path : String
  /-- What follows the question mark, if there is one. -/
  query : String
  contentType : Option String
  body : Bytes
deriving DecidableEq, Repr

/-- The path and the query of a target; what follows a number sign belongs to neither. -/
def splitTarget (target : String) : String × String :=
  let cs := target.toList.takeWhile (· ≠ '#')
  let (path, query) := cs.span (· ≠ '?')
  (String.ofList path, String.ofList (query.drop 1))

/-- A response. -/
structure Response where
  status : Nat
  contentType : Option String
  body : Bytes
deriving DecidableEq, Repr

namespace Response

/-- A response without a body of its own. -/
def bare (status : Nat) : Response := ⟨status, none, []⟩

/-- A response with a JSON body. -/
def json (status : Nat) (v : Json.Value) : Response :=
  ⟨status, some "application/json", Text.bytes v.render⟩

/-- Whether the status says that the request was carried out. -/
def isSuccess (r : Response) : Bool := decide (200 ≤ r.status ∧ r.status < 300)

end Response

/-- The phrase that belongs to a status. -/
def reason? (status : Nat) : Option String := reasons.lookup status
where
  /-- The registered phrases. -/
  reasons : List (Nat × String) := [
    (100, "Continue"), (101, "Switching Protocols"), (102, "Processing"), (103, "Early Hints"),
    (200, "OK"), (201, "Created"), (202, "Accepted"), (203, "Non Authoritative Information"),
    (204, "No Content"), (205, "Reset Content"), (206, "Partial Content"), (207, "Multi-Status"),
    (208, "Already Reported"), (226, "IM Used"),
    (300, "Multiple Choices"), (301, "Moved Permanently"), (302, "Found"), (303, "See Other"),
    (304, "Not Modified"), (305, "Use Proxy"), (307, "Temporary Redirect"),
    (308, "Permanent Redirect"),
    (400, "Bad Request"), (401, "Unauthorized"), (402, "Payment Required"), (403, "Forbidden"),
    (404, "Not Found"), (405, "Method Not Allowed"), (406, "Not Acceptable"),
    (407, "Proxy Authentication Required"), (408, "Request Timeout"), (409, "Conflict"),
    (410, "Gone"), (411, "Length Required"), (412, "Precondition Failed"),
    (413, "Payload Too Large"), (414, "URI Too Long"), (415, "Unsupported Media Type"),
    (416, "Range Not Satisfiable"), (417, "Expectation Failed"), (418, "I'm a teapot"),
    (421, "Misdirected Request"), (422, "Unprocessable Entity"), (423, "Locked"),
    (424, "Failed Dependency"), (425, "Too Early"), (426, "Upgrade Required"),
    (428, "Precondition Required"), (429, "Too Many Requests"),
    (431, "Request Header Fields Too Large"), (451, "Unavailable For Legal Reasons"),
    (500, "Internal Server Error"), (501, "Not Implemented"), (502, "Bad Gateway"),
    (503, "Service Unavailable"), (504, "Gateway Timeout"), (505, "HTTP Version Not Supported"),
    (506, "Variant Also Negotiates"), (507, "Insufficient Storage"), (508, "Loop Detected"),
    (510, "Not Extended"), (511, "Network Authentication Required")]

/-- A status in words. -/
def statusText (status : Nat) : String :=
  toString status ++ " " ++ (reason? status).getD "<unknown status code>"

end FanControl.Http
