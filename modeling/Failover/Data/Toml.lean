import Failover.Data.Numeral
import Failover.Data.TomlTree
import Failover.Moment.Basic

-- TOML 1.1 documents.

namespace Failover.Toml

/-! ## Characters -/

def isBlank (c : Char) : Bool := c == ' ' || c == '\t'

def skip (cs : List Char) : List Char := cs.dropWhile isBlank

/-- Characters that no text and no comment may hold as they are. -/
def isControl (c : Char) : Bool := (c.toNat < 0x20 && c != '\t') || c.toNat == 0x7F

/-- The rest of the text after a line end. -/
def lineEnd? : List Char → Option (List Char)
  | '\n' :: rest => some rest
  | '\r' :: '\n' :: rest => some rest
  | _ => none

/-- Passes over a comment. -/
def skipComment (cs : List Char) : Option (List Char) :=
  match cs with
  | '#' :: rest =>
    let body := rest.takeWhile fun c => c != '\n' && c != '\r'
    if body.any isControl then none else some (rest.drop body.length)
  | _ => some cs

/-- Passes over blanks, comments and line ends. -/
def skipLines : Nat → List Char → Option (List Char)
  | 0, cs => some cs
  | fuel + 1, cs => do
    let cs ← skipComment (skip cs)
    match lineEnd? cs with
    | some rest => skipLines fuel rest
    | none => some cs

/-- What may stand after a key and its value: blanks and a comment up to the
end of the line. -/
def endOfLine? (cs : List Char) : Option (List Char) := do
  let cs ← skipComment (skip cs)
  match cs with
  | [] => some []
  | _ => lineEnd? cs

/-! ## Texts -/

def hexDigit? (c : Char) : Option Nat :=
  if c.isDigit then some (c.toNat - 48)
  else if 'a' ≤ c && c ≤ 'f' then some (c.toNat - 87)
  else if 'A' ≤ c && c ≤ 'F' then some (c.toNat - 55)
  else none

/-- The character of a code in so many hexadecimal digits. -/
def codePoint? (count : Nat) (cs : List Char) : Option (Char × List Char) := do
  let digits ← (cs.take count).mapM hexDigit?
  if digits.length != count then none
  let code := digits.foldl (fun n d => n * 16 + d) 0
  if h : code.isValidChar then return (Char.ofNatAux code h, cs.drop count) else none

/-- Reads an escape after its backslash. -/
def escape? : List Char → Option (Char × List Char)
  | 'b' :: rest => some ('\x08', rest)
  | 'e' :: rest => some ('\x1b', rest)
  | 't' :: rest => some ('\t', rest)
  | 'n' :: rest => some ('\n', rest)
  | 'f' :: rest => some ('\x0c', rest)
  | 'r' :: rest => some ('\r', rest)
  | '"' :: rest => some ('"', rest)
  | '\\' :: rest => some ('\\', rest)
  | 'x' :: rest => codePoint? 2 rest
  | 'u' :: rest => codePoint? 4 rest
  | 'U' :: rest => codePoint? 8 rest
  | _ => none

/-- A text between double quotes, after the first of them. -/
def basic : Nat → List Char → List Char → Option (String × List Char)
  | 0, _, _ => none
  | fuel + 1, seen, cs =>
    match cs with
    | '"' :: rest => some (String.ofList seen.reverse, rest)
    | '\\' :: rest =>
      match escape? rest with
      | some (c, rest) => basic fuel (c :: seen) rest
      | none => none
    | c :: rest => if isControl c then none else basic fuel (c :: seen) rest
    | [] => none

/-- A text between single quotes, after the first of them. -/
def literal (cs : List Char) : Option (String × List Char) :=
  let body := cs.takeWhile fun c => c != '\''
  match cs.drop body.length with
  | _ :: rest => if body.any isControl then none else some (String.ofList body, rest)
  | [] => none

/-- Passes over blanks and line ends after a backslash at the end of a
line. -/
def skipBreaks : List Char → List Char
  | '\r' :: '\n' :: rest => skipBreaks rest
  | c :: rest => if isBlank c || c == '\n' then skipBreaks rest else c :: rest
  | [] => []

/-- A text of several lines, after its three opening quotes. One or two
quotes may stand right before the three that close it. -/
def lines (quote : Char) (escapes : Bool) : Nat → List Char → List Char → Option (String × List Char)
  | 0, _, _ => none
  | fuel + 1, seen, cs =>
    match cs with
    | [] => none
    | c :: rest =>
      if c == quote then
        let run := cs.takeWhile (· == quote)
        if run.length < 3 then lines quote escapes fuel (run ++ seen) (cs.drop run.length)
        else if run.length > 5 then none
        else some (String.ofList ((List.replicate (run.length - 3) quote) ++ seen).reverse, cs.drop run.length)
      else if escapes && c == '\\' then
        match lineEnd? (skip rest) with
        | some rest => lines quote escapes fuel seen (skipBreaks rest)
        | none =>
          match escape? rest with
          | some (c, rest) => lines quote escapes fuel (c :: seen) rest
          | none => none
      else
        match lineEnd? cs with
        | some rest => lines quote escapes fuel ('\n' :: seen) rest
        | none => if isControl c then none else lines quote escapes fuel (c :: seen) rest

/-- A line end right after the opening quotes does not count. -/
def afterOpening (cs : List Char) : List Char := (lineEnd? cs).getD cs

def text? (cs : List Char) : Option (String × List Char) :=
  match cs with
  | '"' :: '"' :: '"' :: rest => lines '"' true (rest.length + 1) [] (afterOpening rest)
  | '\'' :: '\'' :: '\'' :: rest => lines '\'' false (rest.length + 1) [] (afterOpening rest)
  | '"' :: rest => basic (rest.length + 1) [] rest
  | '\'' :: rest => literal rest
  | _ => none

/-! ## Keys -/

def isBare (c : Char) : Bool := c.isAlphanum || c == '_' || c == '-'

def key? (cs : List Char) : Option (String × List Char) :=
  match cs with
  | '"' :: rest => basic (rest.length + 1) [] rest
  | '\'' :: rest => literal rest
  | _ =>
    let bare := cs.takeWhile isBare
    if bare.isEmpty then none else some (String.ofList bare, cs.drop bare.length)

/-- A key and the keys after its dots. -/
def keyPath : Nat → List String → List Char → Option (List String × List Char)
  | 0, _, _ => none
  | fuel + 1, seen, cs => do
    let (key, rest) ← key? (skip cs)
    match skip rest with
    | '.' :: rest => keyPath fuel (key :: seen) rest
    | rest => return ((key :: seen).reverse, rest)

/-- Keys with dots, arrays and inline tables go this deep at most. -/
def maxDepth : Nat := 80

def keyPath? (cs : List Char) : Option (List String × List Char) :=
  (keyPath (cs.length + 1) [] cs).filter fun (path, _) => path.length ≤ maxDepth

/-! ## Scalars -/

/-- Digits of a base with single low lines between them. -/
def digits? (isDigit : Char → Bool) (cs : List Char) : Option (List Char) :=
  let plain := cs.filter (· != '_')
  let pairs := cs.zip (cs.drop 1)
  if plain.isEmpty || !plain.all isDigit then none
  else if cs.head? == some '_' || cs.getLast? == some '_' then none
  else if pairs.any fun (a, b) => a == '_' && b == '_' then none
  else some plain

def isHex (c : Char) : Bool := (hexDigit? c).isSome
def isOctal (c : Char) : Bool := '0' ≤ c && c ≤ '7'
def isBinary (c : Char) : Bool := c == '0' || c == '1'

def based (base : Nat) (digits : List Char) : Nat :=
  digits.foldl (fun n c => n * base + (hexDigit? c).getD 0) 0

/-- Integers have 128 bits, with or without a sign. -/
def wide (n : Int) : Data := if -(twoTo 127) ≤ n && n < twoTo 128 then .int n else .broken

/-- Decimal digits without a needless zero in front. -/
def wholeDigits? (cs : List Char) : Option (List Char) := do
  let ds ← digits? Char.isDigit cs
  if ds.length > 1 && ds.head? == some '0' then none else some ds

def splitSign (cs : List Char) : Bool × List Char :=
  match cs with
  | '-' :: rest => (true, rest)
  | '+' :: rest => (false, rest)
  | _ => (false, cs)

def integer? (cs : List Char) : Option Data :=
  match cs with
  | '0' :: 'x' :: rest => do return wide (based 16 (← digits? isHex rest))
  | '0' :: 'o' :: rest => do return wide (based 8 (← digits? isOctal rest))
  | '0' :: 'b' :: rest => do return wide (based 2 (← digits? isBinary rest))
  | _ => do
    let (negative, cs) := splitSign cs
    let n := based 10 (← wholeDigits? cs)
    return wide (if negative then -(n : Int) else n)

def float? (cs : List Char) : Option Data := do
  let (negative, cs) := splitSign cs
  let signed (x : Float) : Data := .float (if negative then -x else x)
  if cs == ['i', 'n', 'f'] then return signed (1.0 / 0.0)
  if cs == ['n', 'a', 'n'] then return signed (0.0 / 0.0)
  let isE (c : Char) : Bool := c == 'e' || c == 'E'
  let mantissa := cs.takeWhile fun c => !isE c
  let exponent ←
    match cs.drop mantissa.length with
    | [] => some none
    | _ :: rest =>
      let (negative, rest) := splitSign rest
      (digits? Char.isDigit rest).map fun ds => some (negative, ds)
  let whole := mantissa.takeWhile (· != '.')
  let fraction ←
    match mantissa.drop whole.length with
    | [] => some none
    | _ :: rest => (digits? Char.isDigit rest).map some
  let whole ← wholeDigits? whole
  if fraction.isNone && exponent.isNone then none
  match Numeral.nearestFloat? ⟨negative, whole, fraction, exponent⟩ with
  | some x => return .float x
  | none => return .broken

/-! ## Dates and times -/

/-- So many digits, as a number. -/
def exactly? (count : Nat) (cs : List Char) : Option (Nat × List Char) :=
  let ds := cs.take count
  if ds.length == count && ds.all Char.isDigit then some (based 10 ds, cs.drop count) else none

def expect? (c : Char) (cs : List Char) : Option (List Char) :=
  match cs with
  | d :: rest => if c == d then some rest else none
  | [] => none

/-- A part of a date or a time as it is written down, and what follows it. -/
abbrev Written := Option (List Char × List Char)

def date? (cs : List Char) : Written := do
  let (year, rest) ← exactly? 4 cs
  let rest ← expect? '-' rest
  let (month, rest) ← exactly? 2 rest
  let rest ← expect? '-' rest
  let (day, rest) ← exactly? 2 rest
  if CivilDate.isValid ⟨year, month, day⟩ then some (cs.take 10, rest) else none

/-- A fraction of a second to nine places, without needless zeros. -/
def fraction (ds : List Char) : List Char :=
  match ((ds.take 9).reverse.dropWhile (· == '0')).reverse with
  | [] => []
  | places => '.' :: places

/-- A time of day. The seconds may be left out. -/
def time? (cs : List Char) : Written := do
  let (hour, rest) ← exactly? 2 cs
  let rest ← expect? ':' rest
  let (minute, rest) ← exactly? 2 rest
  if hour > 23 || minute > 59 then none
  match rest with
  | ':' :: after =>
    let (second, rest) ← exactly? 2 after
    if second > 60 then none
    match rest with
    | '.' :: rest =>
      let ds := rest.takeWhile Char.isDigit
      if ds.isEmpty then none else some (cs.take 8 ++ fraction ds, rest.drop ds.length)
    | _ => some (cs.take 8, rest)
  | _ => some (cs.take 5 ++ ":00".toList, rest)

def offset? (cs : List Char) : Written :=
  match cs with
  | 'Z' :: rest | 'z' :: rest => some (['Z'], rest)
  | sign :: digits =>
    if sign == '+' || sign == '-' then do
      let (hour, rest) ← exactly? 2 digits
      let rest ← expect? ':' rest
      let (minute, rest) ← exactly? 2 rest
      if hour > 23 || minute > 59 then none
      else some ((if hour + minute == 0 then '+' else sign) :: digits.take 5, rest)
    else some ([], cs)
  | [] => some ([], cs)

/-- A date, a time of day or both, as it is written down. -/
def moment? (cs : List Char) : Option (List Char) := do
  match date? cs with
  | some (date, []) => return date
  | some (date, c :: rest) =>
    if !(c == 'T' || c == 't' || c == ' ') then none
    let (time, rest) ← time? rest
    match ← offset? rest with
    | (offset, []) => return date ++ 'T' :: time ++ offset
    | _ => none
  | none =>
    match ← time? cs with
    | (time, []) => return time
    | _ => none

/-! ## Values without quotes -/

/-- The characters of a scalar that has no quotes. A blank belongs to it
when a time follows a date. -/
def scalarChars (cs : List Char) : List Char :=
  let isPart (c : Char) : Bool := c.isAlphanum || c == '_' || c == '-' || c == '+' || c == '.' || c == ':'
  let first := cs.takeWhile isPart
  match cs.drop first.length with
  | ' ' :: rest =>
    let second := rest.takeWhile isPart
    if date? first == some (first, []) && (second.head?.any Char.isDigit) then first ++ ' ' :: second else first
  | _ => first

/-- The name under which a date or a time stands. -/
def momentName : String := "$__toml_private_datetime"

/-- No setting is a date or a time; as a value it is a record that holds its
text. -/
def scalar? (cs : List Char) : Option (Data × List Char) := do
  let token := scalarChars cs
  let rest := cs.drop token.length
  if token == "true".toList then return (.bool true, rest)
  if token == "false".toList then return (.bool false, rest)
  let d ← (integer? token).orElse fun _ => (float? token).orElse fun _ =>
    (moment? token).map fun text => .record [(momentName, .text (String.ofList text))]
  return (d, rest)

/-! ## Values -/

/-- The elements of an array after its opening bracket. -/
def elements (value : List Char → Option (Data × List Char)) :
    Nat → List Data → List Char → Option (Data × List Char)
  | 0, _, _ => none
  | fuel + 1, seen, cs => do
    let cs ← skipLines (cs.length + 1) cs
    match cs with
    | ']' :: rest => return (.list seen.reverse, rest)
    | _ =>
      let (d, rest) ← value cs
      let rest ← skipLines (rest.length + 1) rest
      match rest with
      | ']' :: rest => return (.list (d :: seen).reverse, rest)
      | ',' :: rest => elements value fuel (d :: seen) rest
      | _ => none

/-- The pairs of an inline table after its opening brace. Between their
parts lines may end, and a comma may follow the last one. -/
def pairs (value : List Char → Option (Data × List Char)) :
    Nat → Entries → List Char → Option (Data × List Char)
  | 0, _, _ => none
  | fuel + 1, seen, cs => do
    let cs ← skipLines (cs.length + 1) cs
    match cs with
    | '}' :: rest => return (.record (entriesData seen), rest)
    | _ =>
      let (path, rest) ← keyPath? cs
      let rest ← skipLines (rest.length + 1) rest
      let rest ← expect? '=' rest
      let rest ← skipLines (rest.length + 1) rest
      let (d, rest) ← value rest
      let seen ← seen.assign path.dropLast (path.getLast?.getD "") d
      let rest ← skipLines (rest.length + 1) rest
      match rest with
      | '}' :: rest => return (.record (entriesData seen), rest)
      | ',' :: rest => pairs value fuel seen rest
      | _ => none

/-- Reads one value. The number is how deep arrays and inline tables may
still nest. -/
def value : Nat → List Char → Option (Data × List Char)
  | depth, cs =>
    match cs with
    | '"' :: _ | '\'' :: _ => (text? cs).map fun (s, rest) => (.text s, rest)
    | '[' :: rest =>
      match depth with
      | 0 => none
      | depth + 1 => elements (value depth) (rest.length + 1) [] rest
    | '{' :: rest =>
      match depth with
      | 0 => none
      | depth + 1 => pairs (value depth) (rest.length + 1) [] rest
    | _ => scalar? cs

/-! ## Documents -/

/-- The tables so far, and the header under which the lines stand. -/
structure Partial where
  root : Entries
  header : List String

/-- A header after its opening brackets. -/
def headerLine (p : Partial) (double : Bool) (cs : List Char) : Option (Partial × List Char) := do
  let (path, rest) ← keyPath? cs
  let rest ← expect? ']' (skip rest)
  let rest ← if double then expect? ']' rest else some rest
  let rest ← endOfLine? rest
  let key := path.getLast?.getD ""
  let root ← p.root.enter path.dropLast (if double then Entries.extend key else Entries.define key)
  return (⟨root, path⟩, rest)

/-- A key with its value. -/
def pairLine (p : Partial) (cs : List Char) : Option (Partial × List Char) := do
  let (path, rest) ← keyPath? cs
  let rest ← expect? '=' (skip rest)
  let (d, rest) ← value maxDepth (skip rest)
  let rest ← endOfLine? rest
  let root ← p.root.enter p.header (Entries.assign path.dropLast (path.getLast?.getD "") d)
  return (⟨root, p.header⟩, rest)

/-- Reads line by line; each line is at least one character. -/
def document : Nat → Partial → List Char → Option Entries
  | 0, _, _ => none
  | fuel + 1, p, cs => do
    let cs ← skipLines (cs.length + 1) cs
    match cs with
    | [] => return p.root
    | '[' :: '[' :: rest =>
      let (p, rest) ← headerLine p true rest
      document fuel p rest
    | '[' :: rest =>
      let (p, rest) ← headerLine p false rest
      document fuel p rest
    | _ =>
      let (p, rest) ← pairLine p cs
      document fuel p rest

/-- A mark of byte order in front of the text is passed over. -/
def withoutMark (cs : List Char) : List Char :=
  match cs with
  | '\uFEFF' :: rest => rest
  | _ => cs

def parse? (s : String) : Option Data :=
  let cs := withoutMark s.toList
  (document (cs.length + 1) ⟨[], []⟩ cs).map fun es => .record (entriesData es)

end Failover.Toml
