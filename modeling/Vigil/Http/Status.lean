import Vigil.Text.Numeral

/-!
# Response Statuses

A status is a number of three digits; the registered ones have a phrase that goes with them.
-/

namespace Vigil

/-- The status of a response. -/
structure Status where
  code : Nat
  code_ge : 100 ≤ code
  code_lt : code < 1000
  deriving DecidableEq, Repr

namespace Status

/-- The status of a number of three digits. -/
def ofNat? (n : Nat) : Option Status :=
  if h : 100 ≤ n ∧ n < 1000 then some ⟨n, h.1, h.2⟩ else none

/-- No content. -/
def noContent : Status := ⟨204, by decide, by decide⟩

/-- Not modified. -/
def notModified : Status := ⟨304, by decide, by decide⟩

/-- Service unavailable. -/
def serviceUnavailable : Status := ⟨503, by decide, by decide⟩

/-- Whether a status says that more is to come. -/
def isInformational (s : Status) : Bool := s.code < 200

/-- Whether a status means success. -/
def isSuccess (s : Status) : Bool := 200 ≤ s.code && s.code < 300

/-- Whether a status sends the client elsewhere. -/
def isRedirect (s : Status) : Bool := [301, 302, 303, 307, 308].contains s.code

/-- Whether a status means that credentials were not accepted. -/
def isAuthRejection (s : Status) : Bool := s.code == 401 || s.code == 403

/-- The phrases of the registered statuses. -/
def phrases : List (Nat × String) :=
  [(100, "Continue"), (101, "Switching Protocols"), (102, "Processing"), (200, "OK"), (201, "Created"),
    (202, "Accepted"), (203, "Non Authoritative Information"), (204, "No Content"),
    (205, "Reset Content"), (206, "Partial Content"), (207, "Multi-Status"),
    (208, "Already Reported"), (226, "IM Used"), (300, "Multiple Choices"),
    (301, "Moved Permanently"), (302, "Found"), (303, "See Other"), (304, "Not Modified"),
    (305, "Use Proxy"), (307, "Temporary Redirect"), (308, "Permanent Redirect"), (400, "Bad Request"),
    (401, "Unauthorized"), (402, "Payment Required"), (403, "Forbidden"), (404, "Not Found"),
    (405, "Method Not Allowed"), (406, "Not Acceptable"), (407, "Proxy Authentication Required"),
    (408, "Request Timeout"), (409, "Conflict"), (410, "Gone"), (411, "Length Required"),
    (412, "Precondition Failed"), (413, "Payload Too Large"), (414, "URI Too Long"),
    (415, "Unsupported Media Type"), (416, "Range Not Satisfiable"), (417, "Expectation Failed"),
    (418, "I'm a teapot"), (421, "Misdirected Request"), (422, "Unprocessable Entity"),
    (423, "Locked"), (424, "Failed Dependency"), (425, "Too Early"), (426, "Upgrade Required"),
    (428, "Precondition Required"), (429, "Too Many Requests"),
    (431, "Request Header Fields Too Large"), (451, "Unavailable For Legal Reasons"),
    (500, "Internal Server Error"), (501, "Not Implemented"), (502, "Bad Gateway"),
    (503, "Service Unavailable"), (504, "Gateway Timeout"), (505, "HTTP Version Not Supported"),
    (506, "Variant Also Negotiates"), (507, "Insufficient Storage"), (508, "Loop Detected"),
    (510, "Not Extended"), (511, "Network Authentication Required")]

/-- The phrase of a status. -/
def phrase (s : Status) : String := (phrases.lookup s.code).getD "<unknown status code>"

/-- A status with its phrase. -/
def text (s : Status) : String := Text.decimal s.code ++ " " ++ s.phrase

end Status

end Vigil
