import CertRenewal.Cluster.Failure
import CertRenewal.Json.Parser
import CertRenewal.Server.Layout
import CertRenewal.Server.Request

/-!
# Reading responses

The body of a response must be a text. A status from 400 to 599 says that the request is refused;
the body then tells why, and where it does not, a refusal is made up from the status and the body.
Otherwise the body is a document of the kind that was asked for.
-/

namespace CertRenewal.Server

open CertRenewal.Cluster (Failure Refusal)

def statusMeanings : List (Nat × String) :=
  [(400, "Bad Request"), (401, "Unauthorized"), (402, "Payment Required"), (403, "Forbidden"),
    (404, "Not Found"), (405, "Method Not Allowed"), (406, "Not Acceptable"),
    (407, "Proxy Authentication Required"), (408, "Request Timeout"), (409, "Conflict"),
    (410, "Gone"), (411, "Length Required"), (412, "Precondition Failed"),
    (413, "Payload Too Large"), (414, "URI Too Long"), (415, "Unsupported Media Type"),
    (416, "Range Not Satisfiable"), (417, "Expectation Failed"), (418, "I'm a teapot"),
    (421, "Misdirected Request"), (422, "Unprocessable Entity"), (423, "Locked"),
    (424, "Failed Dependency"), (426, "Upgrade Required"), (428, "Precondition Required"),
    (429, "Too Many Requests"), (431, "Request Header Fields Too Large"),
    (451, "Unavailable For Legal Reasons"), (500, "Internal Server Error"),
    (501, "Not Implemented"), (502, "Bad Gateway"), (503, "Service Unavailable"),
    (504, "Gateway Timeout"), (505, "HTTP Version Not Supported"),
    (506, "Variant Also Negotiates"), (507, "Insufficient Storage"), (508, "Loop Detected"),
    (510, "Not Extended"), (511, "Network Authentication Required")]

def statusText (status : Nat) : String :=
  toString status ++ " " ++ (statusMeanings.lookup status).getD "<unknown status code>"

/-- Reads the refusal in a body. -/
def refusalOf? (body : List Char) : Option Refusal := do
  let message ← Layout.refusal.read (← Json.parse body)
  match message.get? "code" with
  | some (.number (.integer code)) =>
    return {
      status := ← message.getString? "status"
      message := ← message.getString? "message"
      reason := ← message.getString? "reason"
      code := code.toNat }
  | _ => none

/-- The refusal for a body that does not tell why. -/
def unexplained (status : Nat) (body : List Char) : Refusal where
  status := statusText status
  message := Text.quote (String.ofList body)
  reason := "Failed to parse error data"
  code := status

def isRefusal (status : Nat) : Bool := 400 ≤ status && status < 600

/-- The text of a response, unless the request is refused. -/
def Response.text (r : Response) : Except Failure (List Char) :=
  match Text.Utf8.decode r.body with
  | .error fault => .error (.notText fault)
  | .ok body =>
    if isRefusal r.status then
      .error (.refused ((refusalOf? body).getD (unexplained r.status body)))
    else .ok body

/-- The object in a response, read by a given reader. -/
def Response.object (read : Json → Option α) (r : Response) : Except Failure α := do
  match (Json.parse (← r.text)).bind read with
  | some value => return value
  | none => throw .unreadable

end CertRenewal.Server
