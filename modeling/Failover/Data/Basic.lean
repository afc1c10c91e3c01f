import Failover.Table

-- Structured data: what JSON and TOML documents both say. Records keep their
-- fields in the order and number in which the document gives them.

namespace Failover

inductive Data where
  | null
  | bool (b : Bool)
  | int (n : Int)
  | float (x : Float)
  | text (s : String)
  | list (items : List Data)
  | record (fields : List (String × Data))
  /-- Well formed, but it says nothing: a number beyond every range, a text
  with half a character, or a part that lies too deep. -/
  | unfit
  /-- What stands under a name that says nothing. -/
  | misnamed (d : Data)
  /-- Stands where a document stopped being well formed. -/
  | broken
  deriving Inhabited, Repr

namespace Data

/-! ## Reading parts -/

/-- The first field of that name. -/
def get? : Data → String → Option Data
  | .record fields, name => (fields.find? fun f => f.1 == name).map (·.2)
  | _, _ => none

def text? : Data → Option String
  | .text s => some s
  | _ => none

def int? : Data → Option Int
  | .int n => some n
  | _ => none

def bool? : Data → Option Bool
  | .bool b => some b
  | _ => none

def items : Data → List Data
  | .list xs => xs
  | _ => []

def fields : Data → List (String × Data)
  | .record fs => fs
  | _ => []

/-! ## Whole documents -/

mutual

/-- The document does not break off, though parts of it may say nothing. -/
def wellFormed : Data → Bool
  | .broken => false
  | .misnamed d => d.wellFormed
  | .list items => wellFormedItems items
  | .record fields => wellFormedFields fields
  | _ => true

def wellFormedItems : List Data → Bool
  | [] => true
  | d :: rest => d.wellFormed && wellFormedItems rest

def wellFormedFields : List (String × Data) → Bool
  | [] => true
  | (_, d) :: rest => d.wellFormed && wellFormedFields rest

end

mutual

/-- Every part of the document says something. -/
def intact : Data → Bool
  | .broken | .unfit | .misnamed _ => false
  | .list items => intactItems items
  | .record fields => intactFields fields
  | _ => true

def intactItems : List Data → Bool
  | [] => true
  | d :: rest => d.intact && intactItems rest

def intactFields : List (String × Data) → Bool
  | [] => true
  | (_, d) :: rest => d.intact && intactFields rest

end

mutual

/-- The same document with the fields of every record in ascending order;
of fields with one name the last stays. -/
def canonical : Data → Data
  | .list items => .list (canonicalItems items)
  | .record fields => .record (Table.ofList (canonicalFields fields)).toList
  | d => d

def canonicalItems : List Data → List Data
  | [] => []
  | d :: rest => d.canonical :: canonicalItems rest

def canonicalFields : List (String × Data) → List (String × Data)
  | [] => []
  | (name, d) :: rest => (name, d.canonical) :: canonicalFields rest

end

/-- A number, or null for a number that cannot be written down. -/
def number (x : Float) : Data := if x.isFinite then .float x else .null

def ofOption {α : Type} (f : α → Data) : Option α → Data
  | some x => f x
  | none => .null

def nat (n : Nat) : Data := .int n

def ofTable {α : Type} (f : α → Data) (t : Table α) : Data := .record (t.toList.map fun e => (e.1, f e.2))

end Data

end Failover
