import ScriptGrader.Web.Header

/-!
# Requests and answers

What goes over the wire when results are posted: a request, and what
becomes of it. A request is answered with a status, headers and a body, or it
fails on the way. Only an answer with a status of the two hundreds is a
success.
-/

namespace ScriptGrader.Web

/-- A request as it is sent. -/
structure Request where
  method : String
  /-- The address in its normal form. -/
  address : String
  contentType : String
  body : String
  deriving DecidableEq, Repr

/-- What becomes of a request. -/
inductive Answer
  | response (status : Int) (headers : List Header) (body : List UInt8)
  /-- The request fails on the way. -/
  | failure (message : String)
  /-- Something fails that is no matter of the way, such as a time to wait that is no number. -/
  | raised (kind message : String)
  deriving Repr

namespace Answer

/-- The answer to a request for which nothing else was laid down. -/
def standard : Answer := response 200 [] []

end Answer

namespace Status

def isSuccess (status : Int) : Bool := 200 ≤ status && status < 300

/-- Does a status ask for a request to another place, if one is given? -/
def redirects (status : Int) : Bool := [301, 302, 303, 307, 308].contains status

/-- The standard phrases for statuses. -/
def phrases : List (Int × String) :=
  [(100, "Continue"), (101, "Switching Protocols"), (102, "Processing"), (103, "Early Hints"),
    (200, "OK"), (201, "Created"), (202, "Accepted"), (203, "Non-Authoritative Information"),
    (204, "No Content"), (205, "Reset Content"), (206, "Partial Content"), (207, "Multi-Status"),
    (208, "Already Reported"), (226, "IM Used"), (300, "Multiple Choices"),
    (301, "Moved Permanently"), (302, "Found"), (303, "See Other"), (304, "Not Modified"),
    (305, "Use Proxy"), (307, "Temporary Redirect"), (308, "Permanent Redirect"),
    (400, "Bad Request"), (401, "Unauthorized"), (402, "Payment Required"), (403, "Forbidden"),
    (404, "Not Found"), (405, "Method Not Allowed"), (406, "Not Acceptable"),
    (407, "Proxy Authentication Required"), (408, "Request Timeout"), (409, "Conflict"),
    (410, "Gone"), (411, "Length Required"), (412, "Precondition Failed"),
    (413, "Request Entity Too Large"), (414, "Request-URI Too Long"),
    (415, "Unsupported Media Type"), (416, "Requested Range Not Satisfiable"),
    (417, "Expectation Failed"), (418, "I'm a teapot"), (421, "Misdirected Request"),
    (422, "Unprocessable Entity"), (423, "Locked"), (424, "Failed Dependency"), (425, "Too Early"),
    (426, "Upgrade Required"), (428, "Precondition Required"), (429, "Too Many Requests"),
    (431, "Request Header Fields Too Large"), (451, "Unavailable For Legal Reasons"),
    (500, "Internal Server Error"), (501, "Not Implemented"), (502, "Bad Gateway"),
    (503, "Service Unavailable"), (504, "Gateway Timeout"), (505, "HTTP Version Not Supported"),
    (506, "Variant Also Negotiates"), (507, "Insufficient Storage"), (508, "Loop Detected"),
    (510, "Not Extended"), (511, "Network Authentication Required")]

/-- The phrase for a status; empty for one that has none. -/
def phrase (status : Int) : String := (phrases.lookup status).getD ""

/-- What a status that is no success is called. -/
def className (status : Int) : String :=
  match status.fdiv 100 with
  | 1 => "Informational response"
  | 3 => "Redirect response"
  | 4 => "Client error"
  | 5 => "Server error"
  | _ => "Invalid status code"

end Status
end ScriptGrader.Web
