import Provision.Toml.Statement

/-!
# Documents

A document is the table that its statements build one after the other: a header opens a table, the
bindings below it go into that table, and the next header or the end puts the table into its place.
-/

namespace Provision.Toml

/-- A document that is being read: what is in place already, and the table that the last header has
opened, which has no header at the start of the document. -/
structure Draft where
  placed : Entries := []
  header : Option (Key × Bool) := none
  opened : Entries := []

namespace Draft

/-- Puts the open table into its place: as a new member of an array of tables, or as a table. -/
def close (draft : Draft) : Option Entries :=
  match draft.header with
  | none => some draft.opened
  | some (key, isMember) =>
      draft.placed.within false (fun _ parent =>
        if isMember then
          parent.alter key.name fun
            | none => some (.tables [draft.opened])
            | some (.tables members) => some (.tables (members ++ [draft.opened]))
            | some _ => none
        else parent.add key.name (.table false false draft.opened)) key.path false

/-- What a table holds before a header names it: nothing, or what was put into it while it was
implied. -/
def reopened? (name : String) (parent : Entries) : Option (Entries × Entries) :=
  match parent.lookup name with
  | none => some ([], parent)
  | some (.table true false entries) => some (entries, parent.filter fun entry => entry.1 ≠ name)
  | some _ => none

/-- The entries of the table that a header opens, in the table that its path leads to. -/
def entriesAt : List String → Entries → Entries
  | [], entries => entries
  | key :: path, entries =>
      match entries.lookup key with
      | some (.table _ _ inner) => entriesAt path inner
      | some (.tables members) => entriesAt path (members.getLast?.getD [])
      | _ => []

def read (draft : Draft) : Statement → Option Draft
  | .bind key content =>
      (draft.opened.bind key.path key.name content).map fun opened => { draft with opened }
  | .table key => do
      let placed ← draft.close
      let (opened, _) ← reopened? key.name (entriesAt key.path placed)
      let placed ← placed.within false
        (fun _ parent => (reopened? key.name parent).map Prod.snd) key.path false
      some { placed, header := some (key, false), opened }
  | .member key => do
      let placed ← draft.close
      let placed ← placed.within false (fun _ parent =>
        parent.alter key.name fun
          | none => some (.tables [])
          | some (.tables members) => some (.tables members)
          | some _ => none) key.path false
      some { placed, header := some (key, true), opened := [] }

end Draft

def entriesOf? (statements : List Statement) : Option Entries := do
  let draft ← statements.foldlM Draft.read {}
  draft.close

def document? (content : String) : Option (List (String × Value)) := do
  let statements ← statements? content
  let entries ← entriesOf? statements
  some (entryValues entries)

end Provision.Toml
