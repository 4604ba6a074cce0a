import EventScript.Dictionary
import EventScript.Number.Binary

/-!
TOML documents: tables of texts, numbers, truths, moments, arrays and tables. How a table came about
decides whether it may still grow: what a header has defined, or what was written in one line, is
closed to dotted keys.
-/

namespace EventScript.Toml

inductive Origin where
  | header
  | implied
  | dotted
  | braces
  deriving DecidableEq, Repr

inductive Item where
  | text (content : String)
  | integer (number : Int)
  | real (number : Double)
  | bool (truth : Bool)
  | moment
  | array (items : List Item)
  | table (origin : Origin) (entries : List (String × Item))
  /-- Tables under one name, each begun by a header in double brackets. -/
  | tables (earlier : List (List (String × Item))) (last : List (String × Item))

abbrev Table := Dictionary Item

namespace Table

/-- Changes the table at the end of a path, making the tables on the way that are missing. The last
of several tables under one name is meant. `dotted` tells whether the path is a dotted key. -/
def editAt (dotted : Bool) (change : Origin → Table → Option Table) :
    List String → Origin → Table → Option Table
  | [], origin, table => change origin table
  | key :: rest, _, table =>
    match table.get? key with
    | none =>
      let origin := if dotted then .dotted else .implied
      (editAt dotted change rest origin {}).map fun inner =>
        table.put key (.table origin inner.entries)
    | some (.table origin entries) =>
      if origin == .braces || dotted && origin == .header then none
      else (editAt dotted change rest origin (.ofList entries)).map fun inner =>
        table.put key (.table origin inner.entries)
    | some (.tables earlier last) =>
      (editAt dotted change rest .header (.ofList last)).map fun last =>
        table.put key (.tables earlier last.entries)
    | some _ => none

def assign (path : List String) (item : Item) (table : Table) : Option Table := do
  let key ← path.getLast?
  let way := path.dropLast
  editAt true (fun origin inner =>
    if (origin == .dotted) == way.isEmpty || inner.contains key then none
    else some (inner.put key item)) way .header table

def openTable (path : List String) (table : Table) : Option Table := do
  let key ← path.getLast?
  editAt false (fun _ parent =>
    match parent.get? key with
    | none => some (parent.put key (.table .header []))
    | some (.table .implied entries) => some (parent.put key (.table .header entries))
    | some _ => none) path.dropLast .header table

def openNext (path : List String) (table : Table) : Option Table := do
  let key ← path.getLast?
  editAt false (fun _ parent =>
    match parent.get? key with
    | none => some (parent.put key (.tables [] []))
    | some (.tables earlier last) => some (parent.put key (.tables (earlier ++ [last]) []))
    | some _ => none) path.dropLast .header table

end Table

end EventScript.Toml
