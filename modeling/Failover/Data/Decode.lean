import Failover.Data.Basic
import Failover.Number.Fixed

-- Typed readers of structured data. A reader takes the parts of a document
-- in the order in which they stand and stops at the first fault.

namespace Failover

/-- Why a document could not be read. -/
inductive Fault where
  /-- The text is not a document at this place. -/
  | malformed
  /-- The document says something else than was asked for. -/
  | mismatch
  deriving DecidableEq, Repr

/-- The kinds of documents, where they differ in what a reader takes. -/
inductive Dialect where
  | json
  | toml
  deriving DecidableEq, Repr

/-- What stands beside the name of a choice and adds nothing to it: null,
where there is one, and empty brackets otherwise. -/
def Dialect.isNothing : Dialect → Data → Bool
  | .json, .null => true
  | .toml, .list [] | .toml, .record [] => true
  | _, _ => false

abbrev Decoder (α : Type) := Dialect → Data → Except Fault α

namespace Decode

variable {α σ : Type}

/-- What a value of the wrong kind leads to. -/
def refuse : Data → Except Fault α
  | .broken | .unfit | .misnamed _ => .error .malformed
  | _ => .error .mismatch

/-! ## Plain values -/

def string : Decoder String
  | _, .text s => .ok s
  | _, d => refuse d

def boolean : Decoder Bool
  | _, .bool b => .ok b
  | _, d => refuse d

/-- An integer of a range, ends included. -/
def integer (low high : Int) : Decoder Int
  | _, .int n => if low ≤ n && n ≤ high then .ok n else .error .mismatch
  | _, d => refuse d

def natural (high : Nat) : Decoder Nat := fun k d => (integer 0 high k d).map Int.toNat

def word16 : Decoder Nat := natural (twoTo 16 - 1)
def word32 : Decoder Nat := natural (twoTo 32 - 1)
def word64 : Decoder Nat := natural (twoTo 64 - 1)
def signed32 : Decoder Int := integer (-(twoTo 31)) (twoTo 31 - 1)

/-- Any number; an integer must fit 64 bits, with or without a sign. -/
def float : Decoder Float
  | _, .float x => .ok x
  | k, .int n => (integer (-(twoTo 63)) (twoTo 64 - 1) k (.int n)).map Float.ofInt
  | _, d => refuse d

/-- Null is no value. -/
def optional (read : Decoder α) : Decoder (Option α)
  | _, .null => .ok none
  | k, d => (read k d).map some

/-- A name out of a list, alone or as the only field of a record that says
nothing more. -/
def choice (named : String → Option α) : Decoder α
  | _, .text s => match named s with
    | some a => .ok a
    | none => .error .mismatch
  | k, .record ((name, value) :: rest) =>
    match name, value with
    | _, .misnamed _ => .error .malformed
    | _, _ =>
      match named name with
      | none => .error .mismatch
      | some a =>
        if !k.isNothing value then refuse value
        else if rest.isEmpty then .ok a
        else .error .malformed
  | _, _ => .error .malformed

/-! ## Parts -/

def listOf (read : Decoder α) : Decoder (List α)
  | k, .list items => items.mapM (read k)
  | _, d => refuse d

/-- Every field of a record, the last one of each name. -/
def tableOf (read : Decoder α) : Decoder (Table α)
  | k, .record fields => do
    let entries ← fields.mapM fun (name, d) => do return (name, ← read k d)
    return Table.ofList entries
  | _, d => refuse d

/-- Any document of which every part says something. -/
def anything : Decoder Data := fun _ d => if d.intact then .ok d.canonical else .error .malformed

/-! ## Records of known fields -/

/-- One field of a record type: how its value is stored, and whether it may
be left out. -/
structure FieldRule (σ : Type) where
  name : String
  store : Dialect → Data → σ → Except Fault σ
  required : Bool
  /-- Whether a list of values may end before this field. -/
  requiredInList : Bool

namespace FieldRule

/-- A field that must be there. -/
def must (name : String) (read : Decoder α) (set : α → σ → σ) : FieldRule σ :=
  ⟨name, fun k d s => (read k d).map fun a => set a s, true, true⟩

/-- A field with a value of its own when it is left out. -/
def may (name : String) (read : Decoder α) (set : α → σ → σ) : FieldRule σ :=
  ⟨name, fun k d s => (read k d).map fun a => set a s, false, false⟩

/-- A field that may be left out of a record, but not off a list. -/
def mayInRecord (name : String) (read : Decoder α) (set : α → σ → σ) : FieldRule σ :=
  ⟨name, fun k d s => (read k d).map fun a => set a s, false, true⟩

end FieldRule

/-- Takes the members in order. A member of no known name is passed over,
and need only be well formed; a second one of a known name is a fault. -/
def storeMembers (k : Dialect) (fields : List (FieldRule σ)) :
    List String → σ → List (String × Data) → Except Fault (List String × σ)
  | seen, s, [] => .ok (seen, s)
  | seen, s, (name, d) :: rest =>
    match d, fields.find? fun f => f.name == name with
    | .misnamed _, _ => .error .malformed
    | d, none => if d.wellFormed then storeMembers k fields seen s rest else .error .malformed
    | d, some f =>
      if seen.contains name then .error .mismatch
      else
        match f.store k d s with
        | .error e => .error e
        | .ok s => storeMembers k fields (name :: seen) s rest

/-- Takes values in the order of the fields. TOML does not look at values
beyond the last field. -/
def storeItems (k : Dialect) : List (FieldRule σ) → σ → List Data → Except Fault σ
  | [], s, [] => .ok s
  | [], s, _ :: _ => if k = .toml then .ok s else .error .malformed
  | f :: rest, s, [] =>
    if (f :: rest).any (·.requiredInList) then .error .mismatch else .ok s
  | f :: rest, s, d :: items =>
    match f.store k d s with
    | .error e => .error e
    | .ok s => storeItems k rest s items

/-- A record by its fields, or a list of the values of its fields. It
starts from `blank`, which holds what is left out. -/
def record (fields : List (FieldRule σ)) (blank : σ) : Decoder σ
  | k, .record members => do
    let (seen, s) ← storeMembers k fields [] blank members
    if fields.all fun f => !f.required || seen.contains f.name then .ok s else .error .mismatch
  | k, .list items => storeItems k fields blank items
  | _, d => refuse d

end Decode

end Failover
