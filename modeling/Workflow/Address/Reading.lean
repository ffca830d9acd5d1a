import Workflow.Address.Host

/-!
# Reading addresses

`Address.parse?` reads an address, or a reference that is taken relative to another address.  White
space around it and line breaks inside it are dropped; steps like `..` lead up.
-/

namespace Workflow.Address

/-- The characters of an address that count. -/
def cleaned (text : String) : List Char :=
  let outer := fun (c : Char) => c.toNat ≤ 0x20
  let cs := (text.toList.dropWhile outer).reverse.dropWhile outer
  cs.reverse.filter fun c => c ≠ '\t' && c ≠ '\n' && c ≠ '\x0d'

/-- The scheme at the start of a text, and what follows its colon. -/
def scheme? (cs : List Char) : Option (String × List Char) :=
  let inScheme := fun (c : Char) => c.isAlphanum || c = '+' || c = '-' || c = '.'
  let name := cs.takeWhile inScheme
  match cs.dropWhile inScheme with
  | ':' :: rest =>
    if name.head?.any Char.isAlpha then
      some (Text.lowerAscii (String.ofList name), rest)
    else none
  | _ => none

/-- Whether a character parts steps. -/
def isSlash (special : Bool) (c : Char) : Bool :=
  c = '/' || (special && c = '\\')

/-- A text cut before a mark, and what follows the mark if it is there. -/
def cutAt (mark : Char) (cs : List Char) : List Char × Option (List Char) :=
  match cs.dropWhile (· ≠ mark) with
  | [] => (cs, none)
  | _ :: rest => (cs.takeWhile (· ≠ mark), some rest)

/-- A text without its query and fragment, and these two, encoded. -/
def cutTail (special : Bool) (cs : List Char) :
    List Char × Option String × Option String :=
  let (front, fragment) := cutAt '#' cs
  let (front, query) := cutAt '?' front
  (front, query.map (encode (queryMarks special)), fragment.map (encode fragmentMarks))

/-- Whether a step stays where it is. -/
def staysPut (step : List Char) : Bool :=
  [".", "%2e"].contains (Text.lowerAscii (String.ofList step))

/-- Whether a step leads up. -/
def leadsUp (step : List Char) : Bool :=
  ["..", ".%2e", "%2e.", "%2e%2e"].contains (Text.lowerAscii (String.ofList step))

/-- Follow steps from a place; the last one is a name even if it is empty. -/
def follow (special : Bool) (place : List String) : List (List Char) → List String
  | [] => place
  | step :: rest =>
    let last := rest.isEmpty
    if leadsUp step then
      follow special (place.dropLast ++ if last then [""] else []) rest
    else if staysPut step then follow special (place ++ if last then [""] else []) rest
    else follow special (place ++ [encode pathMarks step]) rest

/-- The steps of a text after its first slash, from a place. -/
def stepsFrom (special : Bool) (place : List String) (cs : List Char) : List String :=
  follow special place (cs.splitOnP (isSlash special))

/-- The steps of a path that follows the name of a machine. -/
def stepsAfter (special : Bool) (cs : List Char) : List String :=
  match cs with
  | [] => if special then [""] else []
  | c :: rest =>
    if isSlash special c then stepsFrom special [] rest else stepsFrom special [] (c :: rest)

/-- The user and the machine of an address, parted at the last mark between them. -/
def cutUser (cs : List Char) : Option (List Char) × List Char :=
  let host := (cs.reverse.takeWhile (· ≠ '@')).reverse
  if host.length = cs.length then (none, cs)
  else (some (cs.take (cs.length - host.length - 1)), host)

/-- The machine and what follows the colon behind it; a colon in brackets belongs to the machine. -/
def cutPort : Bool → List Char → List Char × Option (List Char)
  | _, [] => ([], none)
  | inside, c :: rest =>
    if c = ':' && !inside then ([], some rest)
    else
      let inside := if c = '[' then true else if c = ']' then false else inside
      let (host, port) := cutPort inside rest
      (c :: host, port)

/-- A port that is not the one of the scheme. -/
def port? (scheme : String) (cs : List Char) : Option (Option Nat) :=
  if !cs.all Char.isDigit || !Width.fits 16 (Decimal.natOfDigits cs) then none
  else if cs.isEmpty then some none
  else
    let port := Decimal.natOfDigits cs
    some (if defaultPort? scheme = some port then none else some port)

/-- An address that names a machine, after the two slashes. -/
def named? (scheme : String) (cs : List Char) : Option Address := do
  let special := isSpecial scheme
  let (front, query, fragment) := cutTail special cs
  let authority := front.takeWhile fun c => !isSlash special c
  let path := front.dropWhile fun c => !isSlash special c
  let (user, machine) := cutUser authority
  let (host, port) := cutPort false machine
  let (name, password) := cutAt ':' (user.getD [])
  if host.isEmpty && (special || port.isSome || (user.getD []) ≠ []
      || (user.isSome && authority.length < cs.length)) then none
  let host ← if special then netHost? host else plainHost? host
  return {
    scheme, query, fragment
    host := some host
    port := ← port? scheme (port.getD [])
    user := encode userMarks name
    password := encode userMarks (password.getD [])
    path := .steps (stepsAfter special path) }

/-- The address of a file.  Its own machine goes without a name. -/
def file? (base : Option Address) (cs : List Char) : Option Address := do
  let (front, query, fragment) := cutTail true cs
  let place := match base with
    | some ⟨_, _, _, _, _, .steps names, _, _⟩ => names
    | _ => []
  let make := fun (host : String) (steps : List String) =>
    ({ scheme := "file", host := some host, path := .steps steps, query, fragment } : Address)
  match front with
  | a :: b :: rest =>
    if isSlash true a && isSlash true b then
      let name := rest.takeWhile fun c => !isSlash true c
      let host ← if name.isEmpty then some "" else netHost? name
      return make (if host = "localhost" then "" else host)
        (stepsAfter true (rest.drop name.length))
    else if isSlash true a then return make "" (stepsFrom true [] (b :: rest))
    else return make "" (stepsFrom true place.dropLast front)
  | [a] => return make "" (if isSlash true a then [""] else stepsFrom true place.dropLast [a])
  | [] => return make "" (if place.isEmpty then [""] else place)

/-- Take a reference without a scheme relative to an address whose path has steps. -/
def relative? (base : Address) (place : List String) (cs : List Char) : Option Address :=
  let special := isSpecial base.scheme
  let (front, query, fragment) := cutTail special cs
  match front with
  | [] => some { base with query := if query.isSome then query else base.query, fragment }
  | a :: rest =>
    if isSlash special a then
      if rest.head?.any (isSlash special) then
        named? base.scheme (if isNetScheme base.scheme then cs.dropWhile (isSlash special)
          else cs.drop 2)
      else some { base with path := .steps (stepsFrom special [] rest), query, fragment }
    else
      some { base with path := .steps (stepsFrom special place.dropLast front), query, fragment }

/-- Take a reference without a scheme relative to an address. -/
def join? (base : Address) (cs : List Char) : Option Address :=
  match base.path with
  | .plain _ =>
    match cs with
    | '#' :: rest => some { base with fragment := some (encode fragmentMarks rest) }
    | _ => none
  | .steps place =>
    if base.scheme = "file" then
      match cs with
      | [] | '#' :: _ | '?' :: _ => relative? base place cs
      | cs => file? (some base) cs
    else relative? base place cs

/-- Read what follows a scheme. -/
def afterScheme? (base : Option Address) (scheme : String) (cs : List Char) : Option Address :=
  if scheme = "file" then file? (base.filter (·.scheme = "file")) cs
  else if isNetScheme scheme then
    let slashes := (cs.takeWhile (isSlash true)).length
    match base with
    | some base =>
      if slashes < 2 && base.scheme = scheme then join? base cs
      else named? scheme (cs.drop slashes)
    | none => named? scheme (cs.drop slashes)
  else
    match cs with
    | '/' :: '/' :: rest => named? scheme rest
    | '/' :: rest =>
      let (front, query, fragment) := cutTail false rest
      some { scheme, path := .steps (stepsFrom false [] front), query, fragment }
    | cs =>
      let (front, query, fragment) := cutTail false cs
      some { scheme, path := .plain (encode [] front), query, fragment }

/-- Read an address; a text without a scheme is taken relative to `base`. -/
def parse? (base : Option Address) (text : String) : Option Address :=
  let cs := cleaned text
  match scheme? cs with
  | some (scheme, rest) => afterScheme? base scheme rest
  | none => base.bind fun base => join? base cs

end Workflow.Address
