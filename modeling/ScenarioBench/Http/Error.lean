/-! Why an exchange gave no usable answer. -/

set_option autoImplicit false

namespace ScenarioBench.Http

/-- Why an exchange gave no usable answer. Errors name the address they are about where one is
known. -/
inductive Error where
  | unusable (address : Option String)
  | noAnswer (address : String)
  | refused (status : Nat) (address : String)
  | unreadable
  deriving DecidableEq, Repr

def phrases : List (Nat × String) :=
  [(400, "Bad Request"), (401, "Unauthorized"), (402, "Payment Required"), (403, "Forbidden"),
   (404, "Not Found"), (405, "Method Not Allowed"), (406, "Not Acceptable"),
   (407, "Proxy Authentication Required"), (408, "Request Timeout"), (409, "Conflict"),
   (410, "Gone"), (411, "Length Required"), (412, "Precondition Failed"),
   (413, "Payload Too Large"), (414, "URI Too Long"), (415, "Unsupported Media Type"),
   (416, "Range Not Satisfiable"), (417, "Expectation Failed"), (418, "I'm a teapot"),
   (421, "Misdirected Request"), (422, "Unprocessable Entity"), (423, "Locked"),
   (424, "Failed Dependency"), (425, "Too Early"), (426, "Upgrade Required"),
   (428, "Precondition Required"), (429, "Too Many Requests"),
   (431, "Request Header Fields Too Large"), (451, "Unavailable For Legal Reasons"),
   (500, "Internal Server Error"), (501, "Not Implemented"), (502, "Bad Gateway"),
   (503, "Service Unavailable"), (504, "Gateway Timeout"), (505, "HTTP Version Not Supported"),
   (506, "Variant Also Negotiates"), (507, "Insufficient Storage"), (508, "Loop Detected"),
   (510, "Not Extended"), (511, "Network Authentication Required")]

def statusText (status : Nat) : String :=
  toString status ++ " " ++ (phrases.lookup status).getD "<unknown status code>"

namespace Error

def about (address : String) : String :=
  " for url (" ++ address ++ ")"

def message : Error → String
  | unusable address => "builder error" ++ (address.map about).getD ""
  | noAnswer address => "error sending request" ++ about address
  | refused status address =>
    (if status < 500 then "HTTP status client error (" else "HTTP status server error (")
      ++ statusText status ++ ")" ++ about address
  | unreadable => "error decoding response body"

end Error

end ScenarioBench.Http
