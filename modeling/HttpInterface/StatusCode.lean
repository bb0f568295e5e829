/-!
# `HttpInterface.StatusCode`: what the status of a reply says

A reply has a status, a whole number. Its first digit says what sort of reply this is, and
the known ones have a phrase.
-/

set_option autoImplicit false

namespace HttpInterface.StatusCode

/-- The phrases of the known status codes. -/
def phrases : List (Int × String) :=
  [(100, "Continue"), (101, "Switching Protocols"), (102, "Processing"), (103, "Early Hints"),
   (200, "OK"), (201, "Created"), (202, "Accepted"), (203, "Non-Authoritative Information"),
   (204, "No Content"), (205, "Reset Content"), (206, "Partial Content"), (207, "Multi-Status"),
   (208, "Already Reported"), (226, "IM Used"), (300, "Multiple Choices"),
   (301, "Moved Permanently"), (302, "Found"), (303, "See Other"), (304, "Not Modified"),
   (305, "Use Proxy"), (307, "Temporary Redirect"), (308, "Permanent Redirect"),
   (400, "Bad Request"), (401, "Unauthorized"), (402, "Payment Required"), (403, "Forbidden"),
   (404, "Not Found"), (405, "Method Not Allowed"), (406, "Not Acceptable"),
   (407, "Proxy Authentication Required"), (408, "Request Timeout"), (409, "Conflict"),
   (410, "Gone"), (411, "Length Required"), (412, "Precondition Failed"),
   (413, "Request Entity Too Large"), (414, "Request-URI Too Long"),
   (415, "Unsupported Media Type"), (416, "Requested Range Not Satisfiable"),
   (417, "Expectation Failed"), (418, "I'm a teapot"), (421, "Misdirected Request"),
   (422, "Unprocessable Entity"), (423, "Locked"), (424, "Failed Dependency"), (425, "Too Early"),
   (426, "Upgrade Required"), (428, "Precondition Required"), (429, "Too Many Requests"),
   (431, "Request Header Fields Too Large"), (451, "Unavailable For Legal Reasons"),
   (500, "Internal Server Error"), (501, "Not Implemented"), (502, "Bad Gateway"),
   (503, "Service Unavailable"), (504, "Gateway Timeout"), (505, "HTTP Version Not Supported"),
   (506, "Variant Also Negotiates"), (507, "Insufficient Storage"), (508, "Loop Detected"),
   (510, "Not Extended"), (511, "Network Authentication Required")]

/-- The phrase of a status code; an unknown one has an empty phrase. -/
def phrase (code : Int) : String := (phrases.lookup code).getD ""

/-- The sort of a reply. -/
inductive ReplySort where
  | informational
  | success
  | redirect
  | clientError
  | serverError
  deriving DecidableEq, Repr

/-- The sort that a status code says. -/
def sort? (code : Int) : Option ReplySort :=
  [(1, ReplySort.informational), (2, .success), (3, .redirect), (4, .clientError),
   (5, .serverError)].lookup (code / 100)

/-- The status codes of replies that lead somewhere else. -/
def leadingElsewhere : List Int := [301, 302, 303, 307, 308]

end HttpInterface.StatusCode
