import Failover.Data.Basic

-- The tables of a TOML document while it is read. Each table remembers how
-- it came to be, for a table can be defined only once.

namespace Failover.Toml

/-- How a table came to be. -/
inductive Origin where
  /-- Named on the way to a deeper header. -/
  | implied
  /-- Named on the way to a dotted key. -/
  | dotted
  /-- Named by its own header. -/
  | defined
  deriving DecidableEq, Repr

inductive Entry where
  | value (d : Data)
  | table (origin : Origin) (entries : List (String × Entry))
  /-- An array of tables, one for each header. -/
  | tables (items : List (List (String × Entry)))
  deriving Inhabited

abbrev Entries := List (String × Entry)

namespace Entries

def find? (es : Entries) (key : String) : Option Entry := (List.find? (fun e => e.1 == key) es).map (·.2)

def set (es : Entries) (key : String) (entry : Entry) : Entries :=
  es.map fun e => if e.1 == key then (key, entry) else e

def add (es : Entries) (key : String) (entry : Entry) : Entries := es ++ [(key, entry)]

/-- Changes the table at the end of a path of headers. Missing tables are
implied; of an array of tables the last one is meant. -/
def enter : List String → (Entries → Option Entries) → Entries → Option Entries
  | [], change, es => change es
  | key :: path, change, es =>
    match es.find? key with
    | none => do
      let inner ← enter path change []
      return es.add key (.table .implied inner)
    | some (.table origin inner) => do
      let inner ← enter path change inner
      return es.set key (.table origin inner)
    | some (.tables items) =>
      match items.getLast? with
      | none => none
      | some last => do
        let last ← enter path change last
        return es.set key (.tables (items.dropLast ++ [last]))
    | some (.value _) => none

/-- A header defines a table that is missing or only implied. -/
def define (key : String) (es : Entries) : Option Entries :=
  match es.find? key with
  | none => some (es.add key (.table .defined []))
  | some (.table .implied inner) => some (es.set key (.table .defined inner))
  | some _ => none

/-- A double header begins the next table of an array. -/
def extend (key : String) (es : Entries) : Option Entries :=
  match es.find? key with
  | none => some (es.add key (.tables [[]]))
  | some (.tables items) => some (es.set key (.tables (items ++ [[]])))
  | some _ => none

/-- Assigns a value to a dotted key. The table that takes the value must
have come from dotted keys alone, unless the key has no dots. -/
def assign : List String → String → Data → Entries → Option Entries
  | [], key, d, es => if (es.find? key).isSome then none else some (es.add key (.value d))
  | step :: path, key, d, es =>
    match es.find? step with
    | none => do
      let inner ← assign path key d []
      return es.add step (.table .dotted inner)
    | some (.table .dotted inner) => do
      let inner ← assign path key d inner
      return es.set step (.table .dotted inner)
    | some (.table .implied inner) =>
      if path.isEmpty then none
      else do
        let inner ← assign path key d inner
        return es.set step (.table .implied inner)
    | some (.tables items) =>
      match items.getLast? with
      | none => none
      | some last =>
        if path.isEmpty then none
        else do
          let last ← assign path key d last
          return es.set step (.tables (items.dropLast ++ [last]))
    | some _ => none

end Entries

mutual

def Entry.toData : Entry → Data
  | .value d => d
  | .table _ entries => .record (entriesData entries)
  | .tables items => .list (itemsData items)

def entriesData : List (String × Entry) → List (String × Data)
  | [] => []
  | (key, e) :: rest => (key, e.toData) :: entriesData rest

def itemsData : List (List (String × Entry)) → List Data
  | [] => []
  | es :: rest => .record (entriesData es) :: itemsData rest

end

end Failover.Toml
