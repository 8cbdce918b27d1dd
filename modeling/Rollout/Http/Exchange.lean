import Rollout.Json.Reader
import Rollout.Text.Utf8

namespace Rollout.Http

/-! Requests to interfaces on the network and the responses to them. -/

inductive Method where
  | get
  | post
  | put
  | patch
  | delete
deriving Repr, DecidableEq

def Method.name : Method → String
  | .get => "GET"
  | .post => "POST"
  | .put => "PUT"
  | .patch => "PATCH"
  | .delete => "DELETE"

inductive Body where
  | empty
  | json (value : Json)
  | text (content : String)
deriving Repr

/-- A request as it is handed to the client: the text of its address, which the client has yet
to parse, the parameters of its query before any escaping, and the headers that are set for it,
named in lower case. -/
structure Request where
  method : Method
  url : String
  query : List (String × String) := []
  headers : List (String × String) := []
  body : Body := .empty
deriving Repr

structure Response where
  status : Nat
  body : List UInt8
deriving Repr, DecidableEq

namespace Response

def isSuccess (response : Response) : Bool := 200 ≤ response.status && response.status < 300

def text (response : Response) : String := Text.Utf8.textOf response.body

def decode? {α : Type} (read : Json → Option α) (response : Response) : Option α := do
  read (← Json.ofBytes? response.body)

end Response

section Statuses

def reasons : List (Nat × String) :=
  [(100, "Continue"), (101, "Switching Protocols"), (102, "Processing"), (103, "Early Hints"),
    (200, "OK"), (201, "Created"), (202, "Accepted"), (203, "Non Authoritative Information"),
    (204, "No Content"), (205, "Reset Content"), (206, "Partial Content"), (207, "Multi-Status"),
    (208, "Already Reported"), (226, "IM Used"), (300, "Multiple Choices"),
    (301, "Moved Permanently"), (302, "Found"), (303, "See Other"), (304, "Not Modified"),
    (305, "Use Proxy"), (307, "Temporary Redirect"), (308, "Permanent Redirect"),
    (400, "Bad Request"), (401, "Unauthorized"), (402, "Payment Required"), (403, "Forbidden"),
    (404, "Not Found"), (405, "Method Not Allowed"), (406, "Not Acceptable"),
    (407, "Proxy Authentication Required"), (408, "Request Timeout"), (409, "Conflict"),
    (410, "Gone"), (411, "Length Required"), (412, "Precondition Failed"),
    (413, "Payload Too Large"), (414, "URI Too Long"), (415, "Unsupported Media Type"),
    (416, "Range Not Satisfiable"), (417, "Expectation Failed"), (418, "I'm a teapot"),
    (421, "Misdirected Request"), (422, "Unprocessable Entity"), (423, "Locked"),
    (424, "Failed Dependency"), (425, "Too Early"), (426, "Upgrade Required"),
    (428, "Precondition Required"), (429, "Too Many Requests"),
    (431, "Request Header Fields Too Large"), (451, "Unavailable For Legal Reasons"),
    (500, "Internal Server Error"), (501, "Not Implemented"), (502, "Bad Gateway"),
    (503, "Service Unavailable"), (504, "Gateway Timeout"), (505, "HTTP Version Not Supported"),
    (506, "Variant Also Negotiates"), (507, "Insufficient Storage"), (508, "Loop Detected"),
    (510, "Not Extended"), (511, "Network Authentication Required")]

def statusText (status : Nat) : String :=
  let reason := (reasons.lookup status).getD "<unknown status code>"
  s!"{status} {reason}"

end Statuses

def undecodable : String := "<decode error>"

def bearer (token : String) : String × String := ("authorization", s!"Bearer {token}")

section Forms

/-! Parameters as forms encode them: letters, digits and a few marks stay, a space
becomes a plus sign, and every other byte is written as a percent sign and two
hexadecimal digits. -/

private def hexDigit (value : Nat) : Char :=
  (Nat.digitChar value).toUpper

private def escaped (byte : UInt8) : List Char :=
  let char := Char.ofNat byte.toNat
  if char.isAlphanum || char ∈ ['*', '-', '.', '_'] then [char]
  else if char = ' ' then ['+']
  else ['%', hexDigit (byte.toNat / 16), hexDigit (byte.toNat % 16)]

def formEncode (text : String) : String :=
  String.ofList ((Text.Utf8.bytesOf text).flatMap escaped)

def urlWithQuery (url : String) (query : List (String × String)) : String :=
  if query.isEmpty then url
  else
    let parameters := query.map fun (name, value) => s!"{formEncode name}={formEncode value}"
    url ++ "?" ++ "&".intercalate parameters

end Forms

end Rollout.Http
