import ScenarioBench.Http.Message
import ScenarioBench.Http.Url

/-! How requests carry files and credentials. -/

set_option autoImplicit false

namespace ScenarioBench.Http

def base64Digit (value : Nat) : Char :=
  ("ABCDEFGHIJKLMNOPQRSTUVWXYZabcdefghijklmnopqrstuvwxyz0123456789+/".toList[value]?).getD '='

def base64 : Octets → List Char
  | a :: b :: c :: rest =>
    let value := (a.toNat * 256 + b.toNat) * 256 + c.toNat
    [base64Digit (value / 262144), base64Digit (value / 4096 % 64), base64Digit (value / 64 % 64),
      base64Digit (value % 64)] ++ base64 rest
  -- What is missing of the last three octets counts as zeros and is marked.
  | [a, b] =>
    let value := (a.toNat * 256 + b.toNat) * 256
    [base64Digit (value / 262144), base64Digit (value / 4096 % 64),
      base64Digit (value / 64 % 64), '=']
  | [a] =>
    let value := a.toNat * 65536
    [base64Digit (value / 262144), base64Digit (value / 4096 % 64), '=', '=']
  | [] => []

def basic (user password : String) : String :=
  "Basic " ++ String.ofList (base64 (Octets.ofText (user ++ ":" ++ password)))

def bearer (token : String) : String :=
  "Bearer " ++ token

/-- Whether an authorization can be sent: controls other than the tabulator cannot. -/
def isSendable (authorization : String) : Bool :=
  authorization.toList.all fun character =>
    character = '\t' || (0x20 ≤ character.toNat && character.toNat ≠ 0x7F)

def fileNameText (name : String) : String :=
  String.ofList (name.toList.flatMap fun character =>
    if "\\\"\r\n".toList.contains character then ['\\', character] else [character])

def filePart (field fileName : String) (content : Octets) : Part :=
  { headers :=
      ["Content-Disposition: form-data; name=\"" ++ field ++ "\"; filename=\""
        ++ fileNameText fileName ++ "\"",
       "Content-Type: application/octet-stream"]
    content := content }

def textPart (field text : String) : Part :=
  { headers := ["Content-Disposition: form-data; name=\"" ++ field ++ "\""]
    content := Octets.ofText text }

end ScenarioBench.Http
