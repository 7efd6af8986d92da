/-! Dictionaries with text keys, and sets, kept in increasing order. -/

namespace GoStub

/-- A dictionary as its entries in the order of their keys. -/
structure Dict (α : Type) where
  entries : List (String × α)

namespace Dict

variable {α β : Type}

def empty : Dict α :=
  ⟨[]⟩

instance : EmptyCollection (Dict α) := ⟨empty⟩

instance : Inhabited (Dict α) := ⟨empty⟩

def insertEntry (key : String) (value : α) : List (String × α) → List (String × α)
  | [] => [(key, value)]
  | (k, v) :: rest =>
    if key < k then (key, value) :: (k, v) :: rest
    else if key = k then (key, value) :: rest
    else (k, v) :: insertEntry key value rest

/-- Adds an entry; a value the key had before is replaced. -/
def insert (d : Dict α) (key : String) (value : α) : Dict α :=
  ⟨insertEntry key value d.entries⟩

def get? (d : Dict α) (key : String) : Option α :=
  d.entries.lookup key

def contains (d : Dict α) (key : String) : Bool :=
  (d.get? key).isSome

def erase (d : Dict α) (key : String) : Dict α :=
  ⟨d.entries.filter (fun e => e.1 ≠ key)⟩

/-- Adds an entry unless the key has one. -/
def insertNew (d : Dict α) (key : String) (value : α) : Dict α :=
  if d.contains key then d else d.insert key value

def keys (d : Dict α) : List String :=
  d.entries.map (·.1)

def values (d : Dict α) : List α :=
  d.entries.map (·.2)

def size (d : Dict α) : Nat :=
  d.entries.length

def isEmpty (d : Dict α) : Bool :=
  d.entries.isEmpty

def map (f : α → β) (d : Dict α) : Dict β :=
  ⟨d.entries.map (fun e => (e.1, f e.2))⟩

/-- Of two entries with one key the later counts. -/
def ofList (entries : List (String × α)) : Dict α :=
  entries.foldl (fun d e => d.insert e.1 e.2) empty

end Dict

/-- Adds an element to an increasing list unless an equal one is there. -/
def insertBy {α : Type} (cmp : α → α → Ordering) (x : α) : List α → List α
  | [] => [x]
  | y :: rest =>
    match cmp x y with
    | .lt => x :: y :: rest
    | .eq => y :: rest
    | .gt => y :: insertBy cmp x rest

/-- A set of names in increasing order. -/
abbrev NameSet := List String

def NameSet.add (x : String) (s : NameSet) : NameSet :=
  insertBy compare x s

def NameSet.ofNames (names : List String) : NameSet :=
  names.foldl (fun s x => NameSet.add x s) []

end GoStub
