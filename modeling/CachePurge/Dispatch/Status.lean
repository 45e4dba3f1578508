/-!
# Status codes

The reason phrases of the statuses that a server answers with, and what a status means for a
request: from 200 to 299 it succeeded, and some statuses from 300 to 399 name another place.
-/

namespace CachePurge.Dispatch

/-- The standard reason phrases. -/
def phrases : List (Int × String) := [
  (100, "Continue"), (101, "Switching Protocols"), (102, "Processing"), (103, "Early Hints"),
  (200, "OK"), (201, "Created"), (202, "Accepted"), (203, "Non-Authoritative Information"),
  (204, "No Content"), (205, "Reset Content"), (206, "Partial Content"), (207, "Multi-Status"),
  (208, "Already Reported"), (226, "IM Used"), (300, "Multiple Choices"),
  (301, "Moved Permanently"), (302, "Found"), (303, "See Other"), (304, "Not Modified"),
  (305, "Use Proxy"), (307, "Temporary Redirect"), (308, "Permanent Redirect"),
  (400, "Bad Request"), (401, "Unauthorized"), (402, "Payment Required"), (403, "Forbidden"),
  (404, "Not Found"), (405, "Method Not Allowed"), (406, "Not Acceptable"),
  (407, "Proxy Authentication Required"), (408, "Request Timeout"), (409, "Conflict"),
  (410, "Gone"), (411, "Length Required"), (412, "Precondition Failed"),
  (413, "Request Entity Too Large"), (414, "Request-URI Too Long"),
  (415, "Unsupported Media Type"), (416, "Requested Range Not Satisfiable"),
  (417, "Expectation Failed"), (418, "I'm a teapot"), (421, "Misdirected Request"),
  (422, "Unprocessable Entity"), (423, "Locked"), (424, "Failed Dependency"), (425, "Too Early"),
  (426, "Upgrade Required"), (428, "Precondition Required"), (429, "Too Many Requests"),
  (431, "Request Header Fields Too Large"), (451, "Unavailable For Legal Reasons"),
  (500, "Internal Server Error"), (501, "Not Implemented"), (502, "Bad Gateway"),
  (503, "Service Unavailable"), (504, "Gateway Timeout"), (505, "HTTP Version Not Supported"),
  (506, "Variant Also Negotiates"), (507, "Insufficient Storage"), (508, "Loop Detected"),
  (510, "Not Extended"), (511, "Network Authentication Required")]

/-- The reason phrase of a status, empty if it has none. -/
def phrase (status : Int) : String := (phrases.lookup status).getD ""

/-- Whether a status says that the request succeeded. -/
def isSuccess (status : Int) : Bool := 200 ≤ status && status < 300

/-- Whether a status, together with a location, sends the client elsewhere. -/
def redirects (status : Int) : Bool := [301, 302, 303, 307, 308].contains status

/-- What messages call the class of a status. -/
def className (status : Int) : String :=
  match status.fdiv 100 with
  | 1 => "Informational response"
  | 3 => "Redirect response"
  | 4 => "Client error"
  | 5 => "Server error"
  | _ => "Invalid status code"

/-- The text of the failure of a request to `url` with a status that is not a success. -/
def statusMessage (status : Int) (location : Option String) (url : String) : String :=
  let elsewhere :=
    match redirects status, location with
    | true, some place => "Redirect location: '" ++ place ++ "'\n"
    | _, _ => ""
  className status ++ " '" ++ toString status ++ " " ++ phrase status ++ "' for url '" ++ url ++
    "'\n" ++ elsewhere ++ "For more information check: " ++
    "https://developer.mozilla.org/en-US/docs/Web/HTTP/Status/" ++ toString status

end CachePurge.Dispatch
