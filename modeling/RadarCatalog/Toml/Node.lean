import RadarCatalog.Fields

/-!
# TOML documents as trees

A document is a run of statements: a key with a value, the header of a table, or the header of one
more table of an array. `build` puts them into one tree. The rules by which a statement is refused
rest on how a table came to be, so each table carries its `Origin`:

* a header may name a table that only a longer header has implied, and no other that is there;
* a dotted key may go through tables that are implied or dotted, and ends in a dotted one;
* a key is given once, and an inline table is closed with its brace.
-/

namespace RadarCatalog.Toml

/-- How a table came to be: by its own header, by a longer header, by a dotted key, or as a value
    between braces. -/
inductive Origin where
  | header
  | implied
  | dotted
  | inline
deriving DecidableEq

/-- A part of a document. A date or time is kept as its text. No setting is a float or a truth
    value, so these are kept as one kind without their value. -/
inductive Node where
  | string (s : String)
  | integer (z : Int)
  | moment (text : String)
  | other
  | array (items : List Node)
  | table (origin : Origin) (entries : List (String × Node))
  | tables (items : List (List (String × Node)))
deriving Inhabited

/-- The entries of a table under construction. -/
abbrev Entries := List (String × Node)

/-- A line of a document with a meaning. -/
inductive Statement where
  | assign (path : List String) (key : String) (value : Node)
  | openTable (path : List String) (key : String)
  | openItem (path : List String) (key : String)

/-! ## 1. Going to a table -/

/-- Works on the table that a header's path leads to. Tables on the way are implied if they are
    not there, and an array of tables stands for its last one. -/
def atHeader (work : Entries → Option Entries) : List String → Entries → Option Entries
  | [], entries => work entries
  | key :: path, entries =>
    match Fields.get? entries key with
    | none => (atHeader work path []).map fun t => Fields.put key (.table .implied t) entries
    | some (.table .inline _) => none
    | some (.table origin t) =>
      (atHeader work path t).map fun t' => Fields.put key (.table origin t') entries
    | some (.tables items) =>
      match items.getLast? with
      | none => none
      | some t =>
        (atHeader work path t).map fun t' =>
          Fields.put key (.tables (items.dropLast ++ [t'])) entries
    | some _ => none

/-- Gives a key of a table its value; a key that has one is refused. -/
def assignKey (key : String) (value : Node) (entries : Entries) : Option Entries :=
  if Fields.has entries key then none else some (Fields.put key value entries)

/-- Gives the key at the end of a dotted path its value. `dotted` says whether the table here was
    made by a dotted key, which is wanted at the end of a path and refused without one. -/
def assignDotted (key : String) (value : Node) :
    List String → (dotted : Bool) → Entries → Option Entries
  | [], dotted, entries => if dotted then assignKey key value entries else none
  | k :: path, _, entries =>
    match Fields.get? entries k with
    | none =>
      (assignDotted key value path true []).map fun t => Fields.put k (.table .dotted t) entries
    | some (.table origin t) =>
      if origin = .implied || origin = .dotted then
        (assignDotted key value path (origin = .dotted) t).map fun t' =>
          Fields.put k (.table origin t') entries
      else none
    | some (.tables items) =>
      match items.getLast? with
      | none => none
      | some t =>
        (assignDotted key value path false t).map fun t' =>
          Fields.put k (.tables (items.dropLast ++ [t'])) entries
    | some _ => none

/-- Gives the key at the end of a path in a table its value. -/
def assign (path : List String) (key : String) (value : Node) (entries : Entries) :
    Option Entries :=
  match path with
  | [] => assignKey key value entries
  | path => assignDotted key value path false entries

/-! ## 2. Statements -/

/-- Opens the table of a header in the table its path leads to. -/
def openTableIn (key : String) (entries : Entries) : Option Entries :=
  match Fields.get? entries key with
  | none => some (Fields.put key (.table .header []) entries)
  | some (.table .implied t) => some (Fields.put key (.table .header t) entries)
  | some _ => none

/-- Opens one more table of an array in the table its path leads to. -/
def openItemIn (key : String) (entries : Entries) : Option Entries :=
  match Fields.get? entries key with
  | none => some (Fields.put key (.tables [[]]) entries)
  | some (.tables items) => some (Fields.put key (.tables (items ++ [[]])) entries)
  | some _ => none

/-- A document under construction: its entries, and the path to the table that is open. -/
structure Draft where
  root : Entries
  current : List String

/-- Takes a statement. -/
def Draft.take (d : Draft) : Statement → Option Draft
  | .assign path key value =>
    (atHeader (assign path key value) d.current d.root).map fun root => { d with root := root }
  | .openTable path key =>
    (atHeader (openTableIn key) path d.root).map fun root => ⟨root, path ++ [key]⟩
  | .openItem path key =>
    (atHeader (openItemIn key) path d.root).map fun root => ⟨root, path ++ [key]⟩

/-- The tree of a document; `none` where a statement is refused. -/
def build (statements : List Statement) : Option Entries :=
  (statements.foldlM Draft.take ⟨[], []⟩).map Draft.root

/-- The table of the assignments between two braces; `none` where one is refused. -/
def inlineTable (assignments : List (List String × String × Node)) : Option Node :=
  (assignments.foldlM (fun entries (path, key, value) => assign path key value entries) []).map
    (Node.table .inline)

end RadarCatalog.Toml
