/-!
# `DeviceRegistry.Status`: status codes and whose fault they report

A `Status` is a code that a response can carry. Codes from 400 to 499 blame the request, codes from
500 to 599 the service; `StatusClass.of?` tells the two apart and knows no class for any other code.
-/

set_option autoImplicit false

namespace DeviceRegistry

/-! ### Codes of responses -/

/-- The status code of a response. -/
structure Status where
  code : Nat
  three_digits : 100 ≤ code ∧ code < 1000 := by decide
  deriving DecidableEq, Repr

namespace Status

/-- Every code is below a thousand, the half of its range that has to be stated when the code of a
status is compared with the codes that messages can show. -/
theorem code_lt (s : Status) : s.code < 1000 := s.three_digits.2

/-- The status with a code. -/
def of? (code : Nat) : Option Status :=
  if h : 100 ≤ code ∧ code < 1000 then some ⟨code, h⟩ else none

/-- The request was answered. -/
def ok : Status := ⟨200, by decide⟩

/-- The request is at fault. -/
def badRequest : Status := ⟨400, by decide⟩

/-- The resource does not know the method. -/
def methodNotAllowed : Status := ⟨405, by decide⟩

/-- The body of the request is too long. -/
def payloadTooLarge : Status := ⟨413, by decide⟩

/-- The service failed. -/
def internalServerError : Status := ⟨500, by decide⟩

/-- What the service relies on answered badly. -/
def badGateway : Status := ⟨502, by decide⟩

/-- Whether a code reports success. -/
def isSuccess (s : Status) : Bool := 200 ≤ s.code && s.code < 300

/-- Whether a code reports an error, of either side. -/
def isError (s : Status) : Bool := 400 ≤ s.code && s.code < 600

/-- The registered phrase for a code. -/
def phrase? : Nat → Option String
  | 100 => "Continue"
  | 101 => "Switching Protocols"
  | 102 => "Processing"
  | 200 => "OK"
  | 201 => "Created"
  | 202 => "Accepted"
  | 203 => "Non Authoritative Information"
  | 204 => "No Content"
  | 205 => "Reset Content"
  | 206 => "Partial Content"
  | 207 => "Multi-Status"
  | 208 => "Already Reported"
  | 226 => "IM Used"
  | 300 => "Multiple Choices"
  | 301 => "Moved Permanently"
  | 302 => "Found"
  | 303 => "See Other"
  | 304 => "Not Modified"
  | 305 => "Use Proxy"
  | 307 => "Temporary Redirect"
  | 308 => "Permanent Redirect"
  | 400 => "Bad Request"
  | 401 => "Unauthorized"
  | 402 => "Payment Required"
  | 403 => "Forbidden"
  | 404 => "Not Found"
  | 405 => "Method Not Allowed"
  | 406 => "Not Acceptable"
  | 407 => "Proxy Authentication Required"
  | 408 => "Request Timeout"
  | 409 => "Conflict"
  | 410 => "Gone"
  | 411 => "Length Required"
  | 412 => "Precondition Failed"
  | 413 => "Payload Too Large"
  | 414 => "URI Too Long"
  | 415 => "Unsupported Media Type"
  | 416 => "Range Not Satisfiable"
  | 417 => "Expectation Failed"
  | 418 => "I'm a teapot"
  | 421 => "Misdirected Request"
  | 422 => "Unprocessable Entity"
  | 423 => "Locked"
  | 424 => "Failed Dependency"
  | 425 => "Too Early"
  | 426 => "Upgrade Required"
  | 428 => "Precondition Required"
  | 429 => "Too Many Requests"
  | 431 => "Request Header Fields Too Large"
  | 451 => "Unavailable For Legal Reasons"
  | 500 => "Internal Server Error"
  | 501 => "Not Implemented"
  | 502 => "Bad Gateway"
  | 503 => "Service Unavailable"
  | 504 => "Gateway Timeout"
  | 505 => "HTTP Version Not Supported"
  | 506 => "Variant Also Negotiates"
  | 507 => "Insufficient Storage"
  | 508 => "Loop Detected"
  | 510 => "Not Extended"
  | 511 => "Network Authentication Required"
  | _ => none

/-- A status as a message shows it: the code and its phrase. -/
def text (s : Status) : String :=
  Nat.repr s.code ++ " " ++ (phrase? s.code).getD "<unknown status code>"

end Status

/-! ### Classes of errors -/

/-- Which side of the conversation an error is attributed to. -/
inductive StatusClass where
  /-- The request is at fault. -/
  | client
  /-- The service is at fault. -/
  | server
  deriving DecidableEq, Repr

namespace StatusClass

/-- The name of a class. -/
def name : StatusClass → String
  | client => "client"
  | server => "server"

/-- The least code of a class. -/
def least : StatusClass → Nat
  | client => 400
  | server => 500

/-- The code that follows the greatest one of a class. -/
def bound (c : StatusClass) : Nat := c.least + 100

/-- Whether a code belongs to a class. -/
def Holds (c : StatusClass) (code : Nat) : Prop := c.least ≤ code ∧ code < c.bound

instance (c : StatusClass) (code : Nat) : Decidable (c.Holds code) :=
  inferInstanceAs (Decidable (_ ∧ _))

/-- The class of a code, or none when it does not report an error. -/
def of? (code : Nat) : Option StatusClass :=
  if client.Holds code then some client else if server.Holds code then some server else none

end StatusClass

/-- Why a code cannot report an error as it was asked to. -/
inductive Misclassified where
  /-- The code belongs to another class, or to none. -/
  | outOfRange (side : StatusClass) (code : Nat)
  /-- The code reports no error. -/
  | notAnError (code : Nat)
  deriving DecidableEq, Repr

/-- The text of a misclassification. -/
def Misclassified.message : Misclassified → String
  | outOfRange c code => s!"{c.name} error code must be >= {c.least} and < {c.bound}, got {code}"
  | notAnError code => s!"status code {code} does not denote an error"

/-- A code of a class, checked. -/
def StatusClass.check (c : StatusClass) (code : Nat) : Except Misclassified Nat :=
  if c.Holds code then .ok code else .error (.outOfRange c code)

end DeviceRegistry
