import Failover.Table
import Failover.Text

-- A web server as a client sees it.

namespace Failover.Http

/-! ## Status codes and their standard phrases -/

def phrases : List (Nat × String) :=
  [ (100, "Continue"), (101, "Switching Protocols"), (102, "Processing"), (103, "Early Hints")
  , (200, "OK"), (201, "Created"), (202, "Accepted"), (203, "Non Authoritative Information")
  , (204, "No Content"), (205, "Reset Content"), (206, "Partial Content"), (207, "Multi-Status")
  , (208, "Already Reported"), (226, "IM Used")
  , (300, "Multiple Choices"), (301, "Moved Permanently"), (302, "Found"), (303, "See Other")
  , (304, "Not Modified"), (305, "Use Proxy"), (307, "Temporary Redirect")
  , (308, "Permanent Redirect")
  , (400, "Bad Request"), (401, "Unauthorized"), (402, "Payment Required"), (403, "Forbidden")
  , (404, "Not Found"), (405, "Method Not Allowed"), (406, "Not Acceptable")
  , (407, "Proxy Authentication Required"), (408, "Request Timeout"), (409, "Conflict")
  , (410, "Gone"), (411, "Length Required"), (412, "Precondition Failed")
  , (413, "Payload Too Large"), (414, "URI Too Long"), (415, "Unsupported Media Type")
  , (416, "Range Not Satisfiable"), (417, "Expectation Failed"), (418, "I'm a teapot")
  , (421, "Misdirected Request"), (422, "Unprocessable Entity"), (423, "Locked")
  , (424, "Failed Dependency"), (425, "Too Early"), (426, "Upgrade Required")
  , (428, "Precondition Required"), (429, "Too Many Requests")
  , (431, "Request Header Fields Too Large"), (451, "Unavailable For Legal Reasons")
  , (500, "Internal Server Error"), (501, "Not Implemented"), (502, "Bad Gateway")
  , (503, "Service Unavailable"), (504, "Gateway Timeout"), (505, "HTTP Version Not Supported")
  , (506, "Variant Also Negotiates"), (507, "Insufficient Storage"), (508, "Loop Detected")
  , (510, "Not Extended"), (511, "Network Authentication Required") ]

def phrase (status : Nat) : String :=
  match phrases.find? fun p => p.1 == status with
  | some (_, text) => text
  | none => "<unknown status code>"

/-- The code with its phrase. -/
def statusText (status : Nat) : String := toString status ++ " " ++ phrase status

def isSuccess (status : Nat) : Bool := 200 ≤ status && status < 300

/-! ## Servers -/

/-- What came back from a server. -/
structure Reply where
  status : Nat
  body : String
  deriving Repr, DecidableEq

/-- The answers of a server by path, or nothing when no server listens. -/
abbrev Web := Option (Table Reply)

/-- Answers of these kinds never have a body. -/
def hasBody (status : Nat) : Bool := status != 204 && status != 304 && 200 ≤ status

/-- Codes that end the wait for an answer. The other informational ones only
announce one, and a code has three digits. -/
def isFinal (status : Nat) : Bool := status == 101 || (200 ≤ status && status < 1000)

/-- The scheme as a client reads it: blanks in front and line breaks do not
count, and neither does the case. -/
def schemeOf (scheme : String) : String :=
  let cs := scheme.toList.dropWhile fun c => c.toNat ≤ 0x20
  Text.asciiLower (String.ofList (cs.filter fun c => c != '\t' && c != '\n' && c != '\r'))

/-- Asks a server for a path. A path without an answer of its own is not
found. Only plain HTTP gets through to a server, and only a final answer
comes back. -/
def Web.get? (web : Web) (scheme path : String) : Option Reply :=
  if schemeOf scheme == "http" then
    web.bind fun replies =>
      match replies.get? path with
      | some r =>
        if !isFinal r.status then none
        else some (if hasBody r.status then r else { r with body := "" })
      | none => some ⟨404, ""⟩
  else none

end Failover.Http
