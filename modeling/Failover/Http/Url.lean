import Failover.Data.Json
import Failover.Http.Web
import Failover.Text

-- Addresses of the web: percent encoding, hosts in all the ways in which they can
-- be written, and whole addresses.

namespace Failover.Http

/-! ## Percent encoding -/

-- Any byte may be written as a percent sign and two hexadecimal digits.

open Text (bytesOf ofBytes?)

/-- The bytes of a text with every encoded byte put in its place. A percent
sign without two digits stands for itself. -/
def decodeBytes : List UInt8 → List UInt8
  | 0x25 :: a :: b :: rest =>
    match Json.hexDigit? (Char.ofNat a.toNat), Json.hexDigit? (Char.ofNat b.toNat) with
    | some hi, some lo => UInt8.ofNat (hi * 16 + lo) :: decodeBytes rest
    | _, _ => 0x25 :: decodeBytes (a :: b :: rest)
  | c :: rest => c :: decodeBytes rest
  | [] => []
termination_by bytes => bytes.length

/-- The text that is encoded, if the bytes make one. -/
def percentDecoded? (s : String) : Option String := ofBytes? (decodeBytes (bytesOf s))

/-- A digit of a byte, in capitals. -/
def digit (n : Nat) : Char := (Json.hexChar n).toUpper

/-- Blanks, controls and what is not ASCII are encoded, and some others. -/
def encodedByte (others : List Char) (b : UInt8) : List Char :=
  let c := Char.ofNat b.toNat
  if b ≤ 0x20 || 0x7F ≤ b || others.contains c then ['%', digit (b.toNat / 16), digit (b.toNat % 16)]
  else [c]

def encoded (others : List Char) (s : String) : String :=
  String.ofList ((bytesOf s).flatMap (encodedByte others))

/-- The path of an address as it is sent. -/
def pathEncoded (s : String) : String :=
  encoded ['"', '#', '<', '>', '?', '\x60', '\x7b', '\x7d'] s

/-- The query of an address as it is sent. -/
def queryEncoded (s : String) : String := encoded ['"', '#', '<', '>', '\x27'] s

/-- In a form a plus sign is a blank. -/
def formDecoded? (s : String) : Option String :=
  percentDecoded? (s.map fun c => if c == '+' then ' ' else c)

/-- The names and values of a form. What is no text is left out. -/
def formFields (query : String) : List (Option String × Option String) :=
  ((query.splitOn "&").filter (· != "")).map fun part =>
    match part.splitOn "=" with
    | name :: rest => (formDecoded? name, formDecoded? (String.intercalate "=" rest))
    | [] => (none, none)

/-! ## Characters -/

/-- Runs of characters that stand for letters, digits or the point of ASCII
in a name: the first and the last one, and what the first one stands for.
The others go on from there. -/
def lookalikes : List (Nat × Nat × Char) :=
  [ (0xAA, 0xAA, 'a'), (0xB2, 0xB3, '2'), (0xB9, 0xB9, '1'), (0xBA, 0xBA, 'o')
  , (0x17F, 0x17F, 's'), (0x2B0, 0x2B0, 'h'), (0x2B2, 0x2B2, 'j'), (0x2B3, 0x2B3, 'r')
  , (0x2B7, 0x2B7, 'w'), (0x2B8, 0x2B8, 'y'), (0x2E1, 0x2E1, 'l'), (0x2E2, 0x2E2, 's')
  , (0x2E3, 0x2E3, 'x'), (0x1D2C, 0x1D2C, 'a'), (0x1D2E, 0x1D2E, 'b'), (0x1D30, 0x1D31, 'd')
  , (0x1D33, 0x1D3A, 'g'), (0x1D3C, 0x1D3C, 'o'), (0x1D3E, 0x1D3E, 'p'), (0x1D3F, 0x1D3F, 'r')
  , (0x1D40, 0x1D41, 't'), (0x1D42, 0x1D42, 'w'), (0x1D43, 0x1D43, 'a'), (0x1D47, 0x1D47, 'b')
  , (0x1D48, 0x1D49, 'd'), (0x1D4D, 0x1D4D, 'g'), (0x1D4F, 0x1D4F, 'k'), (0x1D50, 0x1D50, 'm')
  , (0x1D52, 0x1D52, 'o'), (0x1D56, 0x1D56, 'p'), (0x1D57, 0x1D58, 't'), (0x1D5B, 0x1D5B, 'v')
  , (0x1D62, 0x1D62, 'i'), (0x1D63, 0x1D63, 'r'), (0x1D64, 0x1D65, 'u'), (0x1D9C, 0x1D9C, 'c')
  , (0x1DA0, 0x1DA0, 'f'), (0x1DBB, 0x1DBB, 'z'), (0x2070, 0x2070, '0'), (0x2071, 0x2071, 'i')
  , (0x2074, 0x2079, '4'), (0x207F, 0x207F, 'n'), (0x2080, 0x2089, '0'), (0x2090, 0x2090, 'a')
  , (0x2091, 0x2091, 'e'), (0x2092, 0x2092, 'o'), (0x2093, 0x2093, 'x'), (0x2095, 0x2095, 'h')
  , (0x2096, 0x2099, 'k'), (0x209A, 0x209A, 'p'), (0x209B, 0x209C, 's'), (0x2102, 0x2102, 'c')
  , (0x210A, 0x210B, 'g'), (0x210C, 0x210C, 'h'), (0x210D, 0x210D, 'h'), (0x210E, 0x210E, 'h')
  , (0x2110, 0x2110, 'i'), (0x2111, 0x2111, 'i'), (0x2112, 0x2112, 'l'), (0x2113, 0x2113, 'l')
  , (0x2115, 0x2115, 'n'), (0x2119, 0x211B, 'p'), (0x211C, 0x211C, 'r'), (0x211D, 0x211D, 'r')
  , (0x2124, 0x2124, 'z'), (0x2128, 0x2128, 'z'), (0x212A, 0x212A, 'k'), (0x212C, 0x212D, 'b')
  , (0x212F, 0x212F, 'e'), (0x2130, 0x2131, 'e'), (0x2133, 0x2133, 'm'), (0x2134, 0x2134, 'o')
  , (0x2139, 0x2139, 'i'), (0x2145, 0x2145, 'd'), (0x2146, 0x2147, 'd'), (0x2148, 0x2149, 'i')
  , (0x2160, 0x2160, 'i'), (0x2164, 0x2164, 'v'), (0x2169, 0x2169, 'x'), (0x216C, 0x216C, 'l')
  , (0x216D, 0x216E, 'c'), (0x216F, 0x216F, 'm'), (0x2170, 0x2170, 'i'), (0x2174, 0x2174, 'v')
  , (0x2179, 0x2179, 'x'), (0x217C, 0x217C, 'l'), (0x217D, 0x217E, 'c'), (0x217F, 0x217F, 'm')
  , (0x2460, 0x2468, '1'), (0x24B6, 0x24CF, 'a'), (0x24D0, 0x24E9, 'a'), (0x24EA, 0x24EA, '0')
  , (0x2C7C, 0x2C7C, 'j'), (0x2C7D, 0x2C7D, 'v'), (0x3002, 0x3002, '.'), (0xA7F2, 0xA7F2, 'c')
  , (0xA7F3, 0xA7F3, 'f'), (0xA7F4, 0xA7F4, 'q'), (0xFF0E, 0xFF0E, '.'), (0xFF10, 0xFF19, '0')
  , (0xFF21, 0xFF3A, 'a'), (0xFF41, 0xFF5A, 'a'), (0xFF61, 0xFF61, '.'), (0x107A5, 0x107A5, 'q')
  , (0x1D400, 0x1D419, 'a'), (0x1D41A, 0x1D433, 'a'), (0x1D434, 0x1D44D, 'a')
  , (0x1D44E, 0x1D454, 'a'), (0x1D456, 0x1D467, 'i'), (0x1D468, 0x1D481, 'a')
  , (0x1D482, 0x1D49B, 'a'), (0x1D49C, 0x1D49C, 'a'), (0x1D49E, 0x1D49F, 'c')
  , (0x1D4A2, 0x1D4A2, 'g'), (0x1D4A5, 0x1D4A6, 'j'), (0x1D4A9, 0x1D4AC, 'n')
  , (0x1D4AE, 0x1D4B5, 's'), (0x1D4B6, 0x1D4B9, 'a'), (0x1D4BB, 0x1D4BB, 'f')
  , (0x1D4BD, 0x1D4C3, 'h'), (0x1D4C5, 0x1D4CF, 'p'), (0x1D4D0, 0x1D4E9, 'a')
  , (0x1D4EA, 0x1D503, 'a'), (0x1D504, 0x1D505, 'a'), (0x1D507, 0x1D50A, 'd')
  , (0x1D50D, 0x1D514, 'j'), (0x1D516, 0x1D51C, 's'), (0x1D51E, 0x1D537, 'a')
  , (0x1D538, 0x1D539, 'a'), (0x1D53B, 0x1D53E, 'd'), (0x1D540, 0x1D544, 'i')
  , (0x1D546, 0x1D546, 'o'), (0x1D54A, 0x1D550, 's'), (0x1D552, 0x1D56B, 'a')
  , (0x1D56C, 0x1D585, 'a'), (0x1D586, 0x1D59F, 'a'), (0x1D5A0, 0x1D5B9, 'a')
  , (0x1D5BA, 0x1D5D3, 'a'), (0x1D5D4, 0x1D5ED, 'a'), (0x1D5EE, 0x1D607, 'a')
  , (0x1D608, 0x1D621, 'a'), (0x1D622, 0x1D63B, 'a'), (0x1D63C, 0x1D655, 'a')
  , (0x1D656, 0x1D66F, 'a'), (0x1D670, 0x1D689, 'a'), (0x1D68A, 0x1D6A3, 'a')
  , (0x1D7CE, 0x1D7D7, '0'), (0x1D7D8, 0x1D7E1, '0'), (0x1D7E2, 0x1D7EB, '0')
  , (0x1D7EC, 0x1D7F5, '0'), (0x1D7F6, 0x1D7FF, '0'), (0x1F12B, 0x1F12B, 'c')
  , (0x1F12C, 0x1F12C, 'r'), (0x1F130, 0x1F149, 'a'), (0x1FBF0, 0x1FBF9, '0') ]

/-- Where the runs of characters begin and end that a name does without. -/
def silentBounds : List Nat :=
  [ 0xAD, 0xAE, 0x34F, 0x350, 0x180B, 0x180E, 0x180F, 0x1810, 0x200B, 0x200C, 0x2060, 0x2061
  , 0x2064, 0x2065, 0xFE00, 0xFE10, 0xFEFF, 0xFF00, 0x1BCA0, 0x1BCA4, 0xE0100, 0xE01F0 ]

/-- A character of a name, as names are compared. -/
def folded (c : Char) : List Char :=
  if c.toNat < 0x80 then [c.toLower]
  else if Text.liesIn silentBounds c then []
  else
    match lookalikes.find? fun (first, last, _) => first ≤ c.toNat && c.toNat ≤ last with
    | some (first, _, plain) => [Char.ofNat (plain.toNat + (c.toNat - first))]
    | none => [c]

/-- Characters that a name of a host cannot have. -/
def isForbidden (c : Char) : Bool := c.toNat ≤ 0x20 || "#/:<>?@[\\]^|%".contains c || c.toNat == 0x7F

/-! ## Numbers -/

/-- The number of digits of a base. No digits are zero. -/
def ofBase? (base : Nat) (cs : List Char) : Option Nat :=
  cs.foldlM (fun n c => ((Json.hexDigit? c).filter (· < base)).map fun d => n * base + d) 0

/-- One part of a number: hexadecimal behind a zero and an x, octal behind a
zero alone, and decimal otherwise. -/
def numberPart? : List Char → Option Nat
  | '0' :: 'x' :: digits => ofBase? 16 digits
  | '0' :: digits => ofBase? 8 digits
  | digits => Text.ofDigits? digits

/-- The number that up to four parts make. Each but the last one is a byte,
and the last one fills what is left of four bytes. -/
def ofParts? (parts : List Nat) : Option Nat :=
  match parts.reverse with
  | [] => none
  | last :: bytes =>
    if 3 < bytes.length || bytes.any (255 < ·) || twoTo (8 * (4 - bytes.length)) ≤ last then none
    else some ((bytes.reverse.zipIdx.map fun (b, i) => b * twoTo (8 * (3 - i))).foldl (· + ·) last)

/-! ## Hosts -/

inductive Host where
  | name (text : String)
  | number (n : Nat)
  deriving DecidableEq, Repr

namespace Host

/-- A host whose last part is a number must be a number as a whole. A point
at its end does not count. -/
def ofText? (s : String) : Option Host := do
  let text := String.ofList ((← percentDecoded? s).toList.flatMap folded)
  if text.isEmpty || text.toList.any isForbidden then none
  let parts := text.splitOn "."
  let parts := if 1 < parts.length && parts.getLast? == some "" then parts.dropLast else parts
  match parts.getLast? with
  | none => none
  | some last =>
    if last.toList.all Char.isDigit && !last.isEmpty || last.startsWith "0x" && (numberPart? last.toList).isSome then
      return number (← ofParts? (← parts.mapM fun p => numberPart? p.toList))
    else return name text

/-- The machine itself. -/
def isLocal : Host → Bool
  | name text => text == "localhost"
  | number n => n == 0x7F000001

end Host

/-! ## Addresses -/

structure Url where
  scheme : String
  host : Host
  port : Option Nat
  path : String
  query : Option String
  deriving Repr

namespace Url

/-- Blanks and controls around an address, and line breaks in it, do not
count. -/
def tidy (s : String) : List Char :=
  let isEdge (c : Char) := c.toNat ≤ 0x20
  let cs := (s.toList.dropWhile isEdge).reverse.dropWhile isEdge
  cs.reverse.filter fun c => c != '\t' && c != '\n' && c != '\r'

def isSlash (c : Char) : Bool := c == '/' || c == '\\'

def endsAuthority (c : Char) : Bool := isSlash c || c == '?' || c == '#'

/-- Drops what stands before the last at sign. -/
def dropUser (cs : List Char) : List Char := (cs.reverse.takeWhile (· != '@')).reverse

/-- The digits behind a colon. No digits are no port. -/
def port? : List Char → Option (Option Nat)
  | [] => some none
  | ':' :: digits =>
    if digits.isEmpty then some none
    else ((Text.ofDigits? digits).filter (· < twoTo 16)).map some
  | _ => none

/-- A segment that stays where it is, or goes up. Its points may be
encoded. -/
def pointsOf (segment : String) : Option Nat :=
  match (Text.asciiLower segment).replace "%2e" "." with
  | "." => some 1
  | ".." => some 2
  | _ => none

/-- The letter of a drive. -/
def isDrive (segment : String) : Bool :=
  match segment.toList with
  | [c, d] => c.isAlpha && (d == ':' || d == '|')
  | _ => false

/-- Takes the segments of a path in order; two points take back the one
before, unless it is a drive. -/
def segments : List String → List String → List String
  | seen, [] => seen.reverse
  | seen, s :: rest =>
    let folder (seen : List String) := if rest.isEmpty then "" :: seen else seen
    match pointsOf s with
    | some 1 => segments (folder seen) rest
    | some _ => segments (folder (if seen.head?.any isDrive then seen else seen.drop 1)) rest
    | none => segments (s :: seen) rest

/-- The path as it is sent: what cannot stand in a path is encoded. -/
def pathOf (cs : List Char) : String :=
  let cs := cs.takeWhile fun c => c != '?' && c != '#'
  let text := String.ofList (cs.map fun c => if isSlash c then '/' else c)
  pathEncoded ("/" ++ String.intercalate "/" (segments [] ((text.splitOn "/").drop 1)))

/-- The query as it is sent. -/
def queryOf? (cs : List Char) : Option String :=
  match (cs.takeWhile (· != '#')).dropWhile (· != '?') with
  | _ :: query => some (queryEncoded (String.ofList query))
  | [] => none

/-- An address with a host. -/
def ofText? (s : String) : Option Url :=
  let cs := tidy s
  let scheme := cs.takeWhile fun c => c.isAlphanum || c == '+' || c == '-' || c == '.'
  match cs.drop scheme.length with
  | ':' :: rest =>
    if !(scheme.head?.any Char.isAlpha) then none
    else
      let rest := rest.dropWhile isSlash
      let authority := rest.takeWhile fun c => !endsAuthority c
      let place := dropUser authority
      let host := place.takeWhile (· != ':')
      match port? (place.drop host.length) with
      | none => none
      | some port =>
        let place := rest.drop authority.length
        (Host.ofText? (String.ofList host)).map fun host =>
          { scheme := Text.asciiLower (String.ofList scheme), host, port
            path := pathOf place, query := queryOf? place }
  | _ => none

/-- What a server is asked for. -/
def target (u : Url) : String :=
  match u.query with
  | some query => u.path ++ "?" ++ query
  | none => u.path

end Url

/-- Asks a server on this machine, if the address leads there. It listens on
every port. -/
def Web.at? (web : Web) (address : String) : Option Reply :=
  (Url.ofText? address).bind fun u => if u.host.isLocal then web.get? u.scheme u.target else none

end Failover.Http
