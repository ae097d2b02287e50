import Provision.Toml.Value

/-!
# Tables that grow

While a document is read its tables grow entry by entry. Headers may add to a table that exists only
because something inside it was named, and dotted keys only to tables that dotted keys have made; a
header that names a table twice, or a key bound twice, is refused.
-/

namespace Provision.Toml

/-- What a key of a growing table is bound to. A table is `implied` until a header names it, and
`dotted` if a dotted key has made it; `tables` are the members of an array of tables. -/
inductive Node where
  | value (content : Value)
  | table (implied dotted : Bool) (entries : List (String × Node))
  | tables (members : List (List (String × Node)))
  deriving Inhabited

abbrev Entries := List (String × Node)

mutual

def Node.toValue : Node → Value
  | .value content => content
  | .table _ _ entries => .table (entryValues entries)
  | .tables members => .array (memberValues members)

def entryValues : List (String × Node) → List (String × Value)
  | [] => []
  | (key, node) :: rest => (key, node.toValue) :: entryValues rest

def memberValues : List (List (String × Node)) → List Value
  | [] => []
  | entries :: rest => .table (entryValues entries) :: memberValues rest

end

namespace Entries

def alter (key : String) (change : Option Node → Option Node) : Entries → Option Entries
  | [] => (change none).map fun node => [(key, node)]
  | (name, node) :: rest =>
      if name = key then (change (some node)).map fun changed => (name, changed) :: rest
      else (alter key change rest).map ((name, node) :: ·)

/-- Changes the table that a path leads to, and makes the tables on the way that are missing. A path
leads through the last member of an array of tables, through no value, and, when it belongs to a dotted
key, through no table that a header has named. The change is told whether a dotted key has made the
table. -/
def within (dotted : Bool) (change : Bool → Entries → Option Entries) :
    List String → Bool → Entries → Option Entries
  | [], own, entries => change own entries
  | key :: path, _, entries =>
      entries.alter key fun
        | none => (within dotted change path dotted []).map (.table true dotted ·)
        | some (.value _) => none
        | some (.tables members) =>
            (within dotted change path false (members.getLast?.getD [])).map fun changed =>
              .tables (members.dropLast ++ [changed])
        | some (.table implied made inner) =>
            if dotted && !implied then none
            else (within dotted change path made inner).map (.table implied made ·)

def add (key : String) (node : Node) (entries : Entries) : Option Entries :=
  entries.alter key fun
    | none => some node
    | some _ => none

/-- Binds a dotted key. The table that it ends in must be the one at hand, or one that dotted keys have
made. -/
def bind (path : List String) (key : String) (content : Value) (entries : Entries) :
    Option Entries :=
  within true
    (fun made inner => if made = path.isEmpty then none else inner.add key (.value content))
    path false entries

end Entries

end Provision.Toml
