import JavaTypes.Toml.Value

/-!
# TOML documents

A document is a sequence of lines.  A header opens a table, and the keys behind
it belong to that table.  A table can be opened once; it may have been implied
by the headers of its subtables before, but neither dotted keys nor headers may
add to it afterwards.
-/

namespace JavaTypes.Toml

/-- The table that is being read. -/
structure OpenTable where
  /-- Its header; the document itself has none. -/
  header : Option (List String × String)
  /-- Whether its header stands in double brackets. -/
  repeated : Bool
  entries : Entries

/-- The tables read so far, and the one that is being read. -/
structure Progress where
  closed : Entries
  current : OpenTable

namespace Progress

/-- A document of which nothing was read. -/
def start : Progress :=
  ⟨[], ⟨none, false, []⟩⟩

/-- Put the current table in its place. -/
def close? (progress : Progress) : Option Entries :=
  match progress.current.header with
  | none => some progress.current.entries
  | some (path, key) =>
      Entries.modifyAt false
        (fun _ entries =>
          match entries.lookup key, progress.current.repeated with
          | some (.tables items), true =>
              some (Entries.replace entries key
                (.tables (items ++ [.table .header progress.current.entries])))
          | none, false =>
              some (entries ++ [(key, .table .header progress.current.entries)])
          | _, _ => none)
        .header path progress.closed

/-- The table at a path that a header may still open: one that was only
implied, or none. -/
def implied? (path : List String) (key : String) (closed : Entries) :
    Option Entries :=
  match path with
  | [] =>
      match closed.lookup key with
      | some (.table .implied entries) => some entries
      | _ => none
  | first :: path =>
      match closed.lookup first with
      | some (.table _ entries) => implied? path key entries
      | some (.tables items) =>
          match items.getLast? with
          | some (.table _ entries) => implied? path key entries
          | _ => none
      | _ => none

/-- Open the table of a header in single brackets. -/
def openTable? (progress : Progress) (path : List String) (key : String) :
    Option Progress := do
  let closed ← progress.close?
  let entries := (implied? path key closed).getD []
  let closed ← Entries.modifyAt false
    (fun _ entries =>
      match entries.lookup key with
      | none => some entries
      | some (.table .implied _) => some (Entries.remove entries key)
      | some _ => none)
    .header path closed
  return ⟨closed, ⟨some (path, key), false, entries⟩⟩

/-- Open another table of a header in double brackets. -/
def openRepeated? (progress : Progress) (path : List String) (key : String) :
    Option Progress := do
  let closed ← progress.close?
  let closed ← Entries.modifyAt false
    (fun _ entries =>
      match entries.lookup key with
      | none => some (entries ++ [(key, .tables [])])
      | some (.tables _) => some entries
      | some _ => none)
    .header path closed
  return ⟨closed, ⟨some (path, key), true, []⟩⟩

/-- Add a key and its value to the current table. -/
def addKey? (progress : Progress) (path : List String) (key : String)
    (item : Item) : Option Progress :=
  (progress.current.entries.insertKey .header path key item).map fun entries =>
    { progress with current := { progress.current with entries := entries } }

end Progress

/-! ## Lines -/

/-- A line of a document. -/
inductive Line where
  | blank
  | header (path : List String) (key : String)
  | repeatedHeader (path : List String) (key : String)
  | entry (path : List String) (key : String) (item : Item)

/-- A line with its end, blanks in front of it skipped. -/
def line : Reader Line :=
  fun text =>
    let ended (result : Option (Line × List Char)) :=
      result.bind fun (line, rest) =>
        (endOfLine rest).map fun rest => (line, rest)
    match skipBlanks text with
    | [] => none
    | '#' :: rest => ended (some (.blank, '#' :: rest))
    | '\n' :: rest => ended (some (.blank, '\n' :: rest))
    | '\r' :: rest => ended (some (.blank, '\r' :: rest))
    | '[' :: '[' :: rest =>
        ended (((Reader.andThen key fun (path, key) =>
          (Reader.literal [']', ']']).map fun _ =>
            Line.repeatedHeader path key)) rest)
    | '[' :: rest =>
        ended (((Reader.andThen key fun (path, key) =>
          (Reader.char ']').map fun _ => Line.header path key)) rest)
    | text =>
        ended (((Reader.andThen key fun (path, key) =>
          (Reader.char '=').andThen fun _ text =>
            (value (depthLimit - 1) (skipBlanks text)).map fun (item, rest) =>
              (Line.entry path key item, rest))) text)

/-- The lines of a document; a byte order mark in front is dropped. -/
def lines? (text : String) : Option (List Line) :=
  let text := match text.toList with
    | '\ufeff' :: rest => rest
    | all => all
  match Reader.many line text with
  | (lines, rest) => if (skipBlanks rest).isEmpty then some lines else none

/-- What a line does to the tables read so far. -/
def Progress.add? (progress : Progress) : Line → Option Progress
  | .blank => some progress
  | .header path key => progress.openTable? path key
  | .repeatedHeader path key => progress.openRepeated? path key
  | .entry path key item => progress.addKey? path key item

/-- The entries of a document, unless it is not well formed. -/
def document? (text : String) : Option Entries := do
  let lines ← lines? text
  let progress ← lines.foldlM Progress.add? Progress.start
  progress.close?

end JavaTypes.Toml
