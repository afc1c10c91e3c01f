import Failover.Text

-- Media types: what kind of document a body is.

namespace Failover.Http

/-- The essence of a media type, in lower case. A subtype may end in a plus
sign and a suffix. -/
structure MediaType where
  type : String
  subtype : String
  suffix : Option String
  deriving Repr

namespace MediaType

def isToken (c : Char) : Bool := c.isAlphanum || "!#$%&'*+-.^_|~".contains c || c.toNat == 0x60

/-- Reads the rest of a quoted value, with the blanks behind it, and gives
what follows. The value has at least one character, and no escapes. -/
def skipQuoted : List Char → Option (List Char)
  | [] => none
  | _ :: rest =>
    match rest.dropWhile (· != '"') with
    | _ :: after => some (after.dropWhile (· == ' '))
    | [] => none

/-- Reads a value and gives what follows it. Only at the end may it be
empty. -/
def skipValue : List Char → Option (List Char)
  | '"' :: rest => skipQuoted rest
  | ';' :: _ => none
  | cs => some (cs.dropWhile isToken)

/-- Reads a parameter and gives what follows the semicolon behind it. -/
def parameter? (cs : List Char) : Option (List Char) :=
  let name := cs.takeWhile isToken
  match cs.drop name.length with
  | '=' :: rest =>
    if name.isEmpty then none
    else
      match skipValue rest with
      | some [] => some []
      | some (';' :: rest) => some rest
      | _ => none
  | _ => none

/-- Whether all parameters are well written. The number bounds how many are
read. -/
def parametersOk : Nat → List Char → Bool
  | 0, _ => false
  | fuel + 1, cs =>
    match cs.dropWhile (· == ' ') with
    | [] => true
    | c :: cs =>
      match parameter? (c :: cs) with
      | some rest => parametersOk fuel rest
      | none => false

/-- Cuts a subtype at its last plus sign. One at the front cuts nothing. -/
def cutSuffix (cs : List Char) : List Char × Option (List Char) :=
  let tail := (cs.reverse.takeWhile (· != '+')).reverse
  let front := cs.take (cs.length - tail.length - 1)
  if cs.contains '+' && !front.isEmpty then (front, some tail) else (cs, none)

def lower (cs : List Char) : String := Text.asciiLower (String.ofList cs)

/-- Reads a media type. It is written in plain ASCII. -/
def ofText? (s : String) : Option MediaType :=
  let cs := if s.toList.all fun c => 0x20 ≤ c.toNat && c.toNat < 0x7F then s.toList else []
  let type := cs.takeWhile isToken
  match cs.drop type.length with
  | '/' :: rest =>
    let subtype := rest.takeWhile isToken
    let parameters := rest.drop subtype.length
    let ok :=
      match parameters with
      | [] => true
      | ';' :: cs => parametersOk (cs.length + 1) cs
      | _ => false
    if type.isEmpty || subtype.isEmpty || !ok then none
    else
      let (front, suffix) := cutSuffix subtype
      some ⟨lower type, lower front, suffix.map lower⟩
  | _ => none

def isJson (m : MediaType) : Bool :=
  m.type == "application" && (m.subtype == "json" || m.suffix == some "json")

end MediaType

/-- Whether a body of this declared kind is JSON. -/
def declaresJson (contentType : Option String) : Bool :=
  (contentType.bind MediaType.ofText?).any (·.isJson)

end Failover.Http
