import GoStub.Command
import GoStub.Proofs.FileEdits
import GoStub.Proofs.Merging
import GoStub.Proofs.RequestOrder
import Mathlib.Data.List.DropRight

/-! Lists of names as texts. A request is found again from the lists it is written with, so that the
directives printed for a usage table ask for just the stubs that the table asks for. -/

namespace GoStub

namespace Text

/-- No blank stands at an end of the text. -/
def Trimmed (cs : List Char) : Prop :=
  (∀ c ∈ cs.head?, isBlank c = false) ∧ ∀ c ∈ cs.getLast?, isBlank c = false

instance (cs : List Char) : Decidable (Trimmed cs) :=
  decidable_of_iff
    (cs.head?.all (!isBlank ·) = true ∧ cs.getLast?.all (!isBlank ·) = true)
    (by simp [Trimmed, Option.all_eq_true])

theorem dropWhile_of_head? {p : Char → Bool} {cs : List Char} (h : ∀ c ∈ cs.head?, p c = false) :
    cs.dropWhile p = cs := by
  cases cs with
  | nil => rfl
  | cons c cs => rw [List.dropWhile_cons_of_neg (by simp [h c rfl])]

theorem trim_of_trimmed {cs : List Char} (h : Trimmed cs) : trim cs = cs := by
  have hstart : trimStart cs = cs := dropWhile_of_head? h.1
  rw [trim, hstart, trimEnd, dropEndWhile, dropWhile_of_head?, List.reverse_reverse]
  rw [List.head?_reverse]
  exact h.2

end Text

namespace Request

/-- A name that can stand in a list with commas. -/
structure Listable (name : String) : Prop where
  nonempty : name ≠ ""
  unbroken : ',' ∉ name.toList
  trimmed : Text.Trimmed name.toList

instance (name : String) : Decidable (Listable name) :=
  decidable_of_iff (name ≠ "" ∧ ',' ∉ name.toList ∧ Text.Trimmed name.toList)
    ⟨fun h => ⟨h.1, h.2.1, h.2.2⟩, fun h => ⟨h.nonempty, h.unbroken, h.trimmed⟩⟩

theorem Listable.strip_eq {name : String} (h : Listable name) : Text.strip name = name := by
  rw [Text.strip, Text.trim_of_trimmed h.trimmed, String.ofList_toList]

/-- The entries of a list are the names it was joined from. -/
theorem listEntries_joinWith {names : List String} (h : ∀ n ∈ names, Listable n) :
    listEntries (Text.joinWith "," names) = names := by
  cases names with
  | nil => decide
  | cons n names =>
    have hsplit : Text.splitText ',' (Text.joinWith "," (n :: names)) = n :: names :=
      Text.splitText_joinWith_of (by simp) (List.cons_ne_nil n names) fun m hm => (h m hm).unbroken
    have hstrip : (n :: names).map Text.strip = n :: names :=
      (List.map_congr_left fun m hm => (h m hm).strip_eq).trans (List.map_id' _)
    rw [listEntries, hsplit, hstrip, List.filter_eq_self]
    intro m hm
    simpa using (h m hm).nonempty

variable {package : String} {types values : List String}

end Request

/-- A call of `gen`: a package, with the list of its types and that of its other names. -/
structure GenCall where
  package : String
  types : String
  values : String

namespace GenCall

def ofRequest (r : Request) : GenCall :=
  ⟨r.package, r.typesText, r.valuesText⟩

/-- The request that the call issues. -/
def request (call : GenCall) : Request :=
  .ofLists call.package call.types call.values

/-- What every line that makes a call begins with. -/
def opening : String :=
  "//go:generate depstub --vendor gen "

/-- The line that makes the call. -/
def line (call : GenCall) : String :=
  opening ++ call.package ++ " \"" ++ call.types ++ "\" \"" ++ call.values ++ "\""

/-- The call that a line makes, by the quotation marks in it. -/
def ofLine? (line : String) : Option GenCall := do
  let pieces := Text.splitText '"' line
  let front ← Text.dropPrefix? opening.toList (← pieces[0]?).toList
  let package ← Text.dropSuffix? [' '] front
  return ⟨String.ofList package, ← pieces[1]?, ← pieces[3]?⟩

end GenCall

namespace Command

variable (o : OutputOptions) (config : Config) (workDir : Path)

end Command

namespace UsageTable

/-- The names of a table can stand in lists. -/
def Listable (table : UsageTable) : Prop :=
  ∀ e ∈ table.packages.entries, ∀ n ∈ e.2.types ++ e.2.values, Request.Listable n

instance (table : UsageTable) : Decidable table.Listable :=
  inferInstanceAs (Decidable (∀ e ∈ table.packages.entries, _))

variable {table : UsageTable} {r : Request}

end UsageTable

end GoStub
