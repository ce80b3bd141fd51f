import TunnelProvisioning.Binary64.Basic

/-! # TOML documents

A document is a tree of tables. A table remembers how it came about, because that decides whether
more may be added to it: a header may complete tables that were only mentioned on the way to others,
and a dotted key may extend only tables that dotted keys made. Keys and values remember their
places, by which a reader of the tree reports what does not fit.
-/

namespace TunnelProvisioning.Toml

/-- A value without parts. -/
inductive Scalar where
  | text (content : String)
  | integer (number : Int)
  | real (number : Binary64)
  | boolean (truth : Bool)
  /-- A date, a time of day or both. -/
  | moment
  deriving DecidableEq, Repr

/-- How a table came about. -/
inductive TableKind where
  /-- By a header of its own. -/
  | header
  /-- On the way to the table of another header. -/
  | passed
  /-- By a dotted key. -/
  | dotted
  /-- Between braces. -/
  | braces
  deriving DecidableEq, Repr

/-- A key and where it starts. A place is the number of characters from there to the end. -/
structure Key where
  name : String
  place : Nat
  deriving DecidableEq, Repr

/-- A value with its place; tables that have no text of their own have none. -/
inductive Node where
  | scalar (place : Nat) (value : Scalar)
  | array (place : Nat) (items : List Node)
  | table (kind : TableKind) (place : Option Nat) (members : List (Key × Node))
  /-- An array of tables, each by a header of its own. -/
  | tables (elements : List Node)
  deriving Repr

/-- The keys of a table with their values, in order. -/
abbrev Members := List (Key × Node)

namespace Members

def get? (members : Members) (name : String) : Option Node :=
  (members.find? (·.1.name = name)).map (·.2)

/-- Replaces the value under a name, in its place. -/
def replace (members : Members) (name : String) (node : Node) : Members :=
  members.map fun (key, old) => if key.name = name then (key, node) else (key, old)

def erase (members : Members) (name : String) : Members :=
  members.filter (·.1.name ≠ name)

/-- Changes the table that a path of keys leads to, and makes the tables that are missing on the
way. A path of a dotted key stays within tables that were not given by a header; any other path may
pass through them and through the last table of an array. -/
def alterAt (dotted : Bool) (change : TableKind → Members → Option Members) :
    List Key → TableKind → Members → Option Members
  | [], kind, members => change kind members
  | key :: path, _, members =>
    match members.get? key.name with
    | none => do
      let made : TableKind := if dotted then .dotted else .passed
      let inner ← alterAt dotted change path made []
      return members ++ [(key, .table made none inner)]
    | some (.table kind place inner) =>
      if kind = .braces ∨ (dotted ∧ kind = .header) then none
      else do
        let inner ← alterAt dotted change path kind inner
        return members.replace key.name (.table kind place inner)
    | some (.tables elements) =>
      match elements.getLast? with
      | some (.table kind place inner) => do
        let inner ← alterAt dotted change path kind inner
        return members.replace key.name (.tables (elements.dropLast ++ [.table kind place inner]))
      | _ => none
    | some _ => none

/-- Puts a value under a key that is new in its table. -/
def addNew (key : Key) (node : Node) (members : Members) : Option Members :=
  match members.get? key.name with
  | none => some (members ++ [(key, node)])
  | some _ => none

/-- Puts a value under a dotted key, given by the keys on the way and the last one. Only a dotted
key reaches a table that dotted keys made, and it reaches no other. -/
def assign (path : List Key) (key : Key) (node : Node) (kind : TableKind) (members : Members) :
    Option Members :=
  alterAt true (fun reached inner =>
    if (reached = .dotted) = (path ≠ []) then addNew key node inner else none)
    path kind members

/-- Opens the table of a header. A table that was only passed so far moves to the end and keeps its
members; there must be no other under the name. -/
def openTable (path : List Key) (key : Key) (place : Nat) (members : Members) : Option Members :=
  alterAt false (fun _ inner =>
    match inner.get? key.name with
    | none => some (inner ++ [(key, .table .header (some place) [])])
    | some (.table .passed _ kept) =>
      some (inner.erase key.name ++ [(key, .table .header (some place) kept)])
    | some _ => none)
    path .header members

/-- Opens a new table at the end of an array of tables. -/
def openElement (path : List Key) (key : Key) (place : Nat) (members : Members) : Option Members :=
  alterAt false (fun _ inner =>
    match inner.get? key.name with
    | none => some (inner ++ [(key, .tables [.table .header (some place) []])])
    | some (.tables elements) =>
      some (inner.replace key.name (.tables (elements ++ [.table .header (some place) []])))
    | some _ => none)
    path .header members

end Members

end TunnelProvisioning.Toml
