import Failover.Data.Decode
import Failover.Data.Numeral
import Failover.Number.Shortest

-- JSON text. The reader gives what it understood up to the first fault, so
-- that a fault of shape that stands earlier in the text can be found first.

namespace Failover.Json

/-! ## Characters -/

def isBlank (c : Char) : Bool := c == ' ' || c == '\n' || c == '\t' || c == '\r'

def skip (cs : List Char) : List Char := cs.dropWhile isBlank

def hexDigit? (c : Char) : Option Nat :=
  if '0' ≤ c && c ≤ '9' then some (c.toNat - '0'.toNat)
  else if 'a' ≤ c && c ≤ 'f' then some (c.toNat - 'a'.toNat + 10)
  else if 'A' ≤ c && c ≤ 'F' then some (c.toNat - 'A'.toNat + 10)
  else none

def hex4? (a b c d : Char) : Option Nat := do
  let a ← hexDigit? a
  let b ← hexDigit? b
  let c ← hexDigit? c
  let d ← hexDigit? d
  return ((a * 16 + b) * 16 + c) * 16 + d

/-- The character that a backslash and this letter stand for. -/
def escape? : Char → Option Char
  | '"' => some '"'
  | '\\' => some '\\'
  | '/' => some '/'
  | 'b' => some '\x08'
  | 'f' => some '\x0c'
  | 'n' => some '\n'
  | 'r' => some '\r'
  | 't' => some '\t'
  | _ => none

/-- One more character of a text that says something so far. -/
def extend (seen : Option (List Char)) (c : Char) : Option (List Char) := seen.map (c :: ·)

/-- Units of the first kind open a pair, units of the second kind close it. -/
def isHigh (unit : Nat) : Bool := 0xD800 ≤ unit && unit < 0xDC00

def isLow (unit : Nat) : Bool := 0xDC00 ≤ unit && unit < 0xE000

/-- The character that a pair of units makes. -/
def paired (high low : Nat) : Char := Char.ofNat (0x10000 + (high - 0xD800) * 0x400 + (low - 0xDC00))

/-- What is known of a text when no unit closes the pair that is open. -/
def unpaired (high : Option Nat) (seen : Option (List Char)) : Option (List Char) :=
  if high.isSome then none else seen

/-- The text after an opening quote, and what follows its closing quote. The
first argument is the unit just read that opens a pair. A text with a unit
alone is well formed, but unfit. -/
def quoted (high : Option Nat) (seen : Option (List Char)) : List Char → Option (Option String × List Char)
  | [] => none
  | '"' :: rest => some ((unpaired high seen).map fun cs => String.ofList cs.reverse, rest)
  | '\\' :: 'u' :: a :: b :: c :: d :: rest =>
    match hex4? a b c d, high with
    | none, _ => none
    | some unit, some high => quoted none (if isLow unit then extend seen (paired high unit) else none) rest
    | some unit, none =>
      if isHigh unit then quoted (some unit) seen rest
      else quoted none (if isLow unit then none else extend seen (Char.ofNat unit)) rest
  | '\\' :: c :: rest =>
    match escape? c with
    | none => none
    | some e => quoted none (extend (unpaired high seen) e) rest
  | c :: rest =>
    if c.toNat < 0x20 || c == '\\' then none else quoted none (extend (unpaired high seen) c) rest

def quotedText (cs : List Char) : Option (Option String × List Char) := quoted none (some []) cs

/-- Splits off leading digits. -/
def digits (cs : List Char) : List Char × List Char := (cs.takeWhile Char.isDigit, cs.dropWhile Char.isDigit)

/-- Splits off leading digits, of which there must be some. -/
def someDigits? (cs : List Char) : Option (List Char × List Char) :=
  if (digits cs).1.isEmpty then none else some (digits cs)

/-- A number has no sign but a minus. -/
def minus : List Char → Bool × List Char
  | '-' :: rest => (true, rest)
  | cs => (false, cs)

/-- The digits in front of the point, without a needless zero. -/
def whole? (cs : List Char) : Option (List Char × List Char) :=
  (someDigits? cs).filter fun (whole, _) => !(whole.length > 1 && whole.head? == some '0')

/-- Digits stand on both sides of a point. -/
def fraction? : List Char → Option (Option (List Char) × List Char)
  | '.' :: rest => (someDigits? rest).map fun (fraction, rest) => (some fraction, rest)
  | cs => some (none, cs)

/-- The sign of an exponent, which may also be a plus. -/
def sign : List Char → Bool × List Char
  | '+' :: rest => (false, rest)
  | cs => minus cs

def exponent? : List Char → Option (Option (Bool × List Char) × List Char)
  | 'e' :: rest | 'E' :: rest =>
    (someDigits? (sign rest).2).map fun (exponent, after) => (some ((sign rest).1, exponent), after)
  | cs => some (none, cs)

/-- Reads a number, part by part. -/
def numeral? (cs : List Char) : Option (Numeral × List Char) := do
  let (negative, cs) := minus cs
  let (whole, cs) ← whole? cs
  let (fraction, cs) ← fraction? cs
  let (exponent, cs) ← exponent? cs
  return (⟨negative, whole, fraction, exponent⟩, cs)

/-- What a number, a text or a word says, and what follows it. A text that
opens none of them is no atom. -/
def scalar? : List Char → Option (Data × List Char)
  | '"' :: rest =>
    match quotedText rest with
    | some (some s, rest) => some (.text s, rest)
    | some (none, rest) => some (.unfit, rest)
    | none => none
  | 'n' :: 'u' :: 'l' :: 'l' :: rest => some (.null, rest)
  | 't' :: 'r' :: 'u' :: 'e' :: rest => some (.bool true, rest)
  | 'f' :: 'a' :: 'l' :: 's' :: 'e' :: rest => some (.bool false, rest)
  | cs => (numeral? cs).map fun (n, rest) => (n.toData, rest)

/-! ## Passing over -/

inductive Bracket where
  | array
  | object
  deriving DecidableEq

/-- What comes next in a value that is passed over. -/
inductive Awaited where
  | value
  /-- The first element or name after an opening bracket, or its end. -/
  | first
  | name
  /-- A comma or a closing bracket. -/
  | next
  deriving DecidableEq

/-- What comes after a comma in brackets of this kind. -/
def Bracket.awaits : Bracket → Awaited
  | .array => .value
  | .object => .name

def Bracket.closes (b : Bracket) (c : Char) : Bool :=
  match b with
  | .array => c == ']'
  | .object => c == '}'

/-- Passes over a value without reading it, however deep it goes. The
brackets are those still open, the innermost first. -/
def pass : Nat → List Bracket → Awaited → List Char → Option (List Char)
  | 0, _, _, _ => none
  | _ + 1, [], .next, cs => some cs
  | fuel + 1, opened, awaited, cs =>
    match awaited, opened, skip cs with
    | .value, _, '[' :: rest => pass fuel (.array :: opened) .first rest
    | .value, _, '{' :: rest => pass fuel (.object :: opened) .first rest
    | .value, _, cs => (scalar? cs).bind fun (_, rest) => pass fuel opened .next rest
    | .first, b :: outer, c :: rest =>
      if b.closes c then pass fuel outer .next rest else pass fuel opened b.awaits (c :: rest)
    | .name, _, '"' :: rest =>
      match quotedText rest with
      | none => none
      | some (_, rest) =>
        match skip rest with
        | ':' :: rest => pass fuel opened .value rest
        | _ => none
    | .next, b :: outer, c :: rest =>
      if b.closes c then pass fuel outer .next rest
      else if c == ',' then pass fuel opened b.awaits rest
      else none
    | _, _, _ => none

/-! ## Values -/

/-- What was read, and the text after it. Nothing comes after a fault. -/
abbrev Reading := Data × Option (List Char)

/-- The elements of an array after its opening bracket. -/
def elements (value : List Char → Reading) : Nat → List Data → List Char → Reading
  | 0, seen, _ => (.list (.broken :: seen).reverse, none)
  | fuel + 1, seen, cs =>
    match value (skip cs) with
    | (d, none) => (.list (d :: seen).reverse, none)
    | (d, some rest) =>
      match skip rest with
      | ']' :: rest => (.list (d :: seen).reverse, some rest)
      | ',' :: rest => elements value fuel (d :: seen) rest
      | _ => (.list (.broken :: d :: seen).reverse, none)

/-- One member, under its name if the name says anything. -/
def member : Option String → Data → String × Data
  | some name, d => (name, d)
  | none, d => ("", .misnamed d)

/-- The members of an object after its opening brace. Where a name should
be and is not, a broken member without a name is left. -/
def members (value : List Char → Reading) : Nat → List (String × Data) → List Char → Reading
  | 0, seen, _ => (.record (member none .broken :: seen).reverse, none)
  | fuel + 1, seen, cs =>
    let fault : Reading := (.record (member none .broken :: seen).reverse, none)
    match skip cs with
    | '"' :: rest =>
      match quotedText rest with
      | none => fault
      | some (name, rest) =>
        match skip rest with
        | ':' :: rest =>
          match value (skip rest) with
          | (d, none) => (.record (member name d :: seen).reverse, none)
          | (d, some rest) =>
            match skip rest with
            | '}' :: rest => (.record (member name d :: seen).reverse, some rest)
            | ',' :: rest => members value fuel (member name d :: seen) rest
            | _ => (.record (member none .broken :: member name d :: seen).reverse, none)
        | _ => (.record (member name .broken :: seen).reverse, none)
    | _ => fault

/-- Reads one value. The numbers are one more than how long the text is,
and how deep arrays and objects may still nest; what lies deeper is passed
over. -/
def value (size : Nat) : Nat → List Char → Reading
  | depth, cs =>
    match depth, cs with
    | 0, '[' :: _ | 0, '{' :: _ =>
      match pass (2 * size) [] .value cs with
      | some rest => (.unfit, some rest)
      | none => (.broken, none)
    | depth + 1, '[' :: rest =>
      match skip rest with
      | ']' :: rest => (.list [], some rest)
      | _ => elements (value size depth) size [] rest
    | depth + 1, '{' :: rest =>
      match skip rest with
      | '}' :: rest => (.record [], some rest)
      | _ => members (value size depth) size [] rest
    | _, cs =>
      match scalar? cs with
      | some (d, rest) => (d, some rest)
      | none => (.broken, none)

/-- Arrays and objects that are read nest this deep at most. -/
def maxDepth : Nat := 127

/-- What a text says up to its first fault, and whether a fault or anything
but blanks follows the value. -/
def scan (s : String) : Data × Bool :=
  let cs := s.toList
  match value (cs.length + 1) maxDepth (skip cs) with
  | (d, some rest) => (d, (skip rest).isEmpty)
  | (d, none) => (d, false)

/-- What a reader finds in a text that is one document throughout. -/
def read? {α : Type} (read : Decoder α) (s : String) : Option α :=
  match scan s with
  | (d, true) => (read .json d).toOption
  | (_, false) => none

/-- The document, if the whole text is one and every part of it says
something. -/
def parse? (s : String) : Option Data :=
  match scan s with
  | (d, true) => if d.intact then some d else none
  | (_, false) => none

/-! ## Writing -/

def hexChar (n : Nat) : Char := if n < 10 then Char.ofNat (n + 48) else Char.ofNat (n + 87)

/-- Quotes, backslashes and control characters are escaped, the common ones
by a letter. Every other character stands for itself. -/
def escaped (c : Char) : List Char :=
  if c == '"' then ['\\', '"']
  else if c == '\\' then ['\\', '\\']
  else if c == '\n' then ['\\', 'n']
  else if c == '\r' then ['\\', 'r']
  else if c == '\t' then ['\\', 't']
  else if c == '\x08' then ['\\', 'b']
  else if c == '\x0c' then ['\\', 'f']
  else if c.toNat < 0x20 then ['\\', 'u', '0', '0', hexChar (c.toNat / 16), hexChar (c.toNat % 16)]
  else [c]

def quote (s : String) : String := String.ofList ('"' :: s.toList.flatMap escaped ++ ['"'])

/-- The text of a value that has no parts. A float that is not finite is
null. -/
def atom : Data → String
  | .bool b => if b then "true" else "false"
  | .int n => toString n
  | .float x => (Shortest.render? x).getD "null"
  | .text s => quote s
  | _ => "null"

mutual

/-- One line without blanks. -/
def compact : Data → String
  | .list items => "[" ++ compactItems items ++ "]"
  | .record fields => "\x7b" ++ compactFields fields ++ "\x7d"
  | d => atom d

def compactItems : List Data → String
  | [] => ""
  | [d] => compact d
  | d :: rest => compact d ++ "," ++ compactItems rest

def compactFields : List (String × Data) → String
  | [] => ""
  | [(name, d)] => quote name ++ ":" ++ compact d
  | (name, d) :: rest => quote name ++ ":" ++ compact d ++ "," ++ compactFields rest

end

def indent (depth : Nat) : String := "\n" ++ String.ofList (List.replicate (2 * depth) ' ')

mutual

/-- One member on a line, two blanks for each level. -/
def prettyAt (depth : Nat) : Data → String
  | .list [] => "[]"
  | .record [] => "\x7b\x7d"
  | .list items => "[" ++ prettyItems depth items ++ indent depth ++ "]"
  | .record fields => "\x7b" ++ prettyFields depth fields ++ indent depth ++ "\x7d"
  | d => atom d

def prettyItems (depth : Nat) : List Data → String
  | [] => ""
  | [d] => indent (depth + 1) ++ prettyAt (depth + 1) d
  | d :: rest => indent (depth + 1) ++ prettyAt (depth + 1) d ++ "," ++ prettyItems depth rest

def prettyFields (depth : Nat) : List (String × Data) → String
  | [] => ""
  | [(name, d)] => indent (depth + 1) ++ quote name ++ ": " ++ prettyAt (depth + 1) d
  | (name, d) :: rest =>
    indent (depth + 1) ++ quote name ++ ": " ++ prettyAt (depth + 1) d ++ "," ++ prettyFields depth rest

end

def pretty (d : Data) : String := prettyAt 0 d

end Failover.Json
