import Workflow.Text.Encoding

/-!
# Addresses

The address of a resource: a scheme, the machine that has it, the path on that machine, a query and
a fragment.  The parts are kept as they are written, with every byte that needs it percent-encoded,
so that `Address.render` only puts them together.
-/

namespace Workflow

/-- The path of an address. -/
inductive Address.Path where
  /-- A text without structure. -/
  | plain (text : String)
  /-- Steps from the root. -/
  | steps (names : List String)
deriving DecidableEq, Repr

/-- The address of a resource. -/
structure Address where
  scheme : String
  user : String := ""
  password : String := ""
  host : Option String := none
  port : Option Nat := none
  path : Address.Path := .steps []
  query : Option String := none
  fragment : Option String := none
deriving DecidableEq, Repr

namespace Address

/-- The text of a path. -/
def Path.render : Path → String
  | .plain text => text
  | .steps names => String.join (names.map ("/" ++ ·))

/-- The text of the machine with the user in front and the port behind. -/
def authority (address : Address) (host : String) : String :=
  let password := if address.password.isEmpty then "" else ":" ++ address.password
  let user :=
    if address.user.isEmpty && address.password.isEmpty then ""
    else address.user ++ password ++ "@"
  user ++ host ++ (match address.port with
    | some port => ":" ++ toString port
    | none => "")

/-- The text of an address.  A path that starts with two slashes is told from a machine. -/
def render (address : Address) : String :=
  let path := address.path.render
  let front := match address.host with
    | some host => "//" ++ address.authority host
    | none => if path.startsWith "//" then "/." else ""
  let query := match address.query with
    | some query => "?" ++ query
    | none => ""
  let fragment := match address.fragment with
    | some fragment => "#" ++ fragment
    | none => ""
  address.scheme ++ ":" ++ front ++ path ++ query ++ fragment

/-- An address without its fragment. -/
def resource (address : Address) : Address :=
  { address with fragment := none }

/-- The port of a scheme. -/
def defaultPort? (scheme : String) : Option Nat :=
  if scheme = "http" || scheme = "ws" then some 80
  else if scheme = "https" || scheme = "wss" then some 443
  else if scheme = "ftp" then some 21
  else none

/-- Whether the addresses of a scheme name machines of the net. -/
def isNetScheme (scheme : String) : Bool :=
  (defaultPort? scheme).isSome

/-- Whether a back-slash in the addresses of a scheme parts steps like a slash. -/
def isSpecial (scheme : String) : Bool :=
  isNetScheme scheme || scheme = "file"

/-! ## Percent encoding -/

/-- Whether a character is encoded in every part of an address. -/
def isEncodedAnywhere (c : Char) : Bool :=
  c.toNat < 0x20 || c.toNat > 0x7E

/-- The marks that are encoded in a fragment. -/
def fragmentMarks : List Char := [' ', '"', '<', '>', '`']

/-- The marks that are encoded in a query; one more in the addresses of some schemes. -/
def queryMarks (special : Bool) : List Char :=
  [' ', '"', '#', '<', '>'] ++ if special then ['\''] else []

/-- The marks that are encoded in a path. -/
def pathMarks : List Char := [' ', '"', '#', '<', '>', '?', '^', '`', '{', '}']

/-- The marks that are encoded in the name of a user. -/
def userMarks : List Char := pathMarks ++ ['/', ':', ';', '=', '@', '[', '\\', ']', '|']

/-- A byte as a percent sign and two hexadecimal digits. -/
def encodeByte (byte : UInt8) : List Char :=
  let digit := fun n => (Nat.toDigits 16 n).map Char.toUpper
  '%' :: digit (byte.toNat / 16) ++ digit (byte.toNat % 16)

/-- Encode some marks and what is encoded everywhere. -/
def encode (marks : List Char) (cs : List Char) : String :=
  String.ofList <| cs.flatMap fun c =>
    if isEncodedAnywhere c || marks.contains c then
      (Utf8.encode (String.singleton c)).flatMap encodeByte
    else [c]

end Address

end Workflow
