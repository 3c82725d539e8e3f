import JavaTypes.Decimal.Binary64

/-!
# TOML items

The data of a TOML document.  A table remembers how it came about, because that
decides whether later lines may add to it.
-/

namespace JavaTypes.Toml

/-- How a table came about. -/
inductive TableOrigin where
  /-- It has a header of its own, or is the document itself. -/
  | header
  /-- It stands on the way to the table of a header. -/
  | implied
  /-- It stands on the way to a dotted key. -/
  | dotted
  /-- It is written between braces. -/
  | braces
  deriving DecidableEq, Repr

/-- A value or a table. -/
inductive Item where
  | string (text : String)
  | integer (value : Int)
  | float (value : Decimal.Number64)
  | boolean (value : Bool)
  /-- A date, a time or both; which one is not kept. -/
  | datetime
  | array (items : List Item)
  | table (origin : TableOrigin) (entries : List (String × Item))
  /-- The tables of a header in double brackets. -/
  | tables (items : List Item)
  deriving Inhabited

/-- The entries of a table, in the order in which they were added. -/
abbrev Entries : Type :=
  List (String × Item)

namespace Entries

/-- The entries with the item of a key replaced. -/
def replace (entries : Entries) (key : String) (item : Item) : Entries :=
  entries.map fun entry => if entry.1 = key then (key, item) else entry

/-- The entries without a key. -/
def remove (entries : Entries) (key : String) : Entries :=
  entries.filter fun entry => entry.1 != key

/-- Change the table that a path leads to.  Tables missing on the way are made.
A dotted key may neither pass through a table with a header of its own nor
through a table between braces; no path may pass through a value. -/
def modifyAt (dotted : Bool)
    (change : TableOrigin → Entries → Option Entries) (origin : TableOrigin) :
    List String → Entries → Option Entries
  | [], entries => change origin entries
  | key :: path, entries =>
      match entries.lookup key with
      | none => do
          let origin : TableOrigin := if dotted then .dotted else .implied
          let inner ← modifyAt dotted change origin path []
          return entries ++ [(key, .table origin inner)]
      | some (.table .braces _) => none
      | some (.table origin inner) => do
          if dotted && origin = .header then none
          else
            let inner ← modifyAt dotted change origin path inner
            return replace entries key (.table origin inner)
      | some (.tables items) =>
          match items.getLast? with
          | some (.table origin inner) => do
              let inner ← modifyAt dotted change origin path inner
              return replace entries key
                (.tables (items.dropLast ++ [.table origin inner]))
          | _ => none
      | some _ => none

/-- Add the item of a dotted key.  The key must be new, and its table must have
been made by dotted keys only, unless the key has no dots. -/
def insertKey (entries : Entries) (origin : TableOrigin) (path : List String)
    (key : String) (item : Item) : Option Entries :=
  modifyAt true
    (fun origin entries =>
      if decide (origin = .dotted) == path.isEmpty then none
      else if (entries.lookup key).isSome then none
      else some (entries ++ [(key, item)]))
    origin path entries

end Entries

end JavaTypes.Toml
