/-! TOML values, and tables as they grow while a document is read. -/

namespace GoStub.Toml

/-- How a table came to be. Only some tables can be added to later: one that a header merely passed
through can get its own header, and one made by dotted keys can get more of them. -/
inductive Origin
  | header
  | passed
  | dotted
  | inline
  deriving DecidableEq

/-- A TOML value. Of numbers and dates only their presence is kept. A list of tables has its newest
table first. -/
inductive Value
  | text (content : String)
  | boolean (truth : Bool)
  | scalar
  | array (items : List Value)
  | table (origin : Origin) (entries : List (String × Value))
  | tables (items : List (List (String × Value)))

abbrev Entries := List (String × Value)

namespace Entries

/-- Gives a key another value. -/
def set (key : String) (value : Value) (es : Entries) : Entries :=
  es.map fun e => if e.1 = key then (key, value) else e

/-- Adds an entry; its key must be new. -/
def addNew (key : String) (value : Value) (es : Entries) : Option Entries :=
  match es.lookup key with
  | some _ => none
  | none => some (es ++ [(key, value)])

/-- Adds a value under a dotted key. The tables on the way are made by dotted keys themselves, at
least the last of them; `direct` says whether this table takes the value. -/
def addDotted : (direct : Bool) → List String → String → Value → Entries → Option Entries
  | direct, [], key, value, es => if direct then es.addNew key value else none
  | _, step :: path, key, value, es =>
    match es.lookup step with
    | none =>
      (addDotted true path key value []).map fun sub => es ++ [(step, .table .dotted sub)]
    | some (.table .dotted sub) =>
      (addDotted true path key value sub).map fun sub => es.set step (.table .dotted sub)
    | some (.table .passed sub) =>
      (addDotted false path key value sub).map fun sub => es.set step (.table .passed sub)
    | some (.tables (newest :: rest)) =>
      (addDotted false path key value newest).map fun newest =>
        es.set step (.tables (newest :: rest))
    | some _ => none

/-- Changes the table a header leads to. A table missing on the way is made. -/
def update : List String → (Entries → Option Entries) → Entries → Option Entries
  | [], change, es => change es
  | step :: path, change, es =>
    match es.lookup step with
    | none => (update path change []).map fun sub => es ++ [(step, .table .passed sub)]
    | some (.table .inline _) => none
    | some (.table origin sub) =>
      (update path change sub).map fun sub => es.set step (.table origin sub)
    | some (.tables (newest :: rest)) =>
      (update path change newest).map fun newest => es.set step (.tables (newest :: rest))
    | some _ => none

/-- The effect of a header in its last step. -/
def openTable (key : String) (es : Entries) : Option Entries :=
  match es.lookup key with
  | none => some (es ++ [(key, .table .header [])])
  | some (.table .passed sub) => some (es.set key (.table .header sub))
  | some _ => none

/-- The effect of a header in double brackets in its last step. -/
def openTables (key : String) (es : Entries) : Option Entries :=
  match es.lookup key with
  | none => some (es ++ [(key, .tables [[]])])
  | some (.tables items) => some (es.set key (.tables ([] :: items)))
  | some _ => none

end Entries

/-- A key: the steps to it and its last part. -/
structure Key where
  path : List String
  name : String

def Key.steps (k : Key) : List String :=
  k.path ++ [k.name]

/-- A part of a document. -/
inductive Expression
  | pair (key : Key) (value : Value)
  | table (key : Key)
  | tables (key : Key)

/-- The entries of a document, from expressions below the header `current`. -/
def Entries.ofExpressions (current : List String) (es : Entries) : List Expression → Option Entries
  | [] => some es
  | .pair key value :: rest =>
    match es.update current (addDotted true key.path key.name value) with
    | some es => ofExpressions current es rest
    | none => none
  | .table key :: rest =>
    match es.update key.path (openTable key.name) with
    | some es => ofExpressions key.steps es rest
    | none => none
  | .tables key :: rest =>
    match es.update key.path (openTables key.name) with
    | some es => ofExpressions key.steps es rest
    | none => none

/-- The table written with braces around some pairs. -/
def Value.inlineTable? (pairs : List (Key × Value)) : Option Value :=
  (pairs.foldlM (fun (es : Entries) p => es.addDotted true p.1.path p.1.name p.2) []).map
    (Value.table .inline)

end GoStub.Toml
