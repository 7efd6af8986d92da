import GoStub.Proofs.ParamScope

/-! The local names of the packages a plan imports. Each is the name the target's sources have for
the package, or the default name of its path, in either case perhaps with a number; so only a type
parameter of that form can capture it, and one of that form may. -/

namespace GoStub

/-- `name` is `base`, or `base` with digits after it. -/
def Name.Numbered (base name : String) : Prop :=
  ∃ digits : List Char, name.toList = base.toList ++ digits ∧ ∀ d ∈ digits, d.isDigit = true

instance (base name : String) : Decidable (Name.Numbered base name) :=
  decidable_of_iff (base.toList <+: name.toList ∧
      ∀ d ∈ name.toList.drop base.toList.length, d.isDigit = true) <| by
    constructor
    · rintro ⟨⟨digits, hname⟩, hdigits⟩
      rw [← hname, List.drop_left] at hdigits
      exact ⟨digits, hname.symm, hdigits⟩
    · rintro ⟨digits, hname, hdigits⟩
      rw [hname, List.drop_left]
      exact ⟨List.prefix_append _ _, hdigits⟩

namespace Name.Numbered

theorem refl (base : String) : Numbered base base :=
  ⟨[], by simp, by simp⟩

theorem trans {a b c : String} (hab : Numbered a b) (hbc : Numbered b c) : Numbered a c := by
  obtain ⟨ds, hb, hds⟩ := hab
  obtain ⟨es, hc, hes⟩ := hbc
  refine ⟨ds ++ es, by rw [hc, hb, List.append_assoc], ?_⟩
  exact List.forall_mem_append.mpr ⟨hds, hes⟩

end Name.Numbered

/-- What the target's sources call a package, or else the default name of its path. -/
def PackageScope.nameFor (target : PackageScope) (path : String) : String :=
  (target.importNames.get? path).getD (Name.ofImportPath path)

namespace ImportTable

theorem numbered_candidate (base : String) (n : Nat) : Name.Numbered base (candidate base n) := by
  cases n with
  | zero => exact .refl base
  | succ n =>
    refine ⟨(toString (n + 2)).toList, by simp [candidate], fun d hd => ?_⟩
    rw [Nat.toString_eq_ofList_toDigits, String.toList_ofList] at hd
    exact Nat.isDigit_of_mem_toDigits (by decide) (by decide) hd

theorem numbered_freeName (taken : List String) (base : String) :
    Name.Numbered base (freeName taken base) := by
  simp only [freeName]
  cases hfind : ((List.range (taken.length + 1)).map (candidate base)).find?
      fun n => !taken.contains n with
  | none => exact .refl base
  | some name =>
    obtain ⟨n, -, rfl⟩ := List.mem_map.mp (List.mem_of_find?_eq_some hfind)
    exact numbered_candidate base n

/-- Every local name is one for its package. -/
def NamedFor (target : PackageScope) (s : ImportTable) : Prop :=
  ∀ path name, s.localName? path = some name → Name.Numbered (target.nameFor path) name

variable {target : PackageScope} {s : ImportTable}

theorem NamedFor.insert (h : s.NamedFor target) (path : String) :
    (s.insert path (target.importNames.get? path)).NamedFor target := by
  unfold ImportTable.insert
  split
  · exact h
  · intro path' name hname
    rw [localName?, Dict.get?_insert] at hname
    split at hname
    next heq =>
      cases hname
      exact heq ▸ numbered_freeName _ _
    next => exact h path' name hname

theorem NamedFor.renameAt (h : s.NamedFor target) (declared : List String) (path : String) :
    (s.renameAt declared path).NamedFor target := by
  unfold ImportTable.renameAt
  split
  · exact h
  next current hcurrent =>
    split
    · intro path' name hname
      rw [localName?, Dict.get?_insert] at hname
      split at hname
      next heq =>
        cases hname
        exact heq ▸ (h path current hcurrent).trans (numbered_freeName _ _)
      next hne =>
        rw [Dict.get?_erase, if_neg hne] at hname
        exact h path' name hname
    · exact h

theorem NamedFor.renameApart (h : s.NamedFor target) (declared : List String) :
    (s.renameApart declared).NamedFor target := by
  have hfold (paths : List String) (s : ImportTable) (h : s.NamedFor target) :
      (paths.foldl (ImportTable.renameAt declared) s).NamedFor target := by
    induction paths generalizing s with
    | nil => exact h
    | cons path paths ih => exact ih _ (h.renameAt declared path)
  exact hfold s.paths s h

end ImportTable

theorem Progress.namedFor_meetAll {target : PackageScope} {requested : NameSet} {w : Progress}
    (h : w.imports.NamedFor target) (needs : List Need) :
    (w.meetAll target requested needs).imports.NamedFor target := by
  have hstep (w : Progress) (need : Need) (h : w.imports.NamedFor target) :
      (w.meet target requested need).imports.NamedFor target := by
    cases need with
    | imported path => exact h.insert path
    | declared n | promoted n =>
      simp only [meet]
      split <;> exact h
  unfold meetAll
  induction needs generalizing w with
  | nil => exact h
  | cons need needs ih => exact ih (hstep w need h)

variable {source : Source} {request : Request} {target : PackageScope} {p : StubPlan} {c c' : Cache}

theorem namedFor_of_planFrom (h : (planFrom source request target).Yields c p c') :
    p.imports.NamedFor target := by
  have hstart : (ImportTable.empty).NamedFor target := fun path name hname => by cases hname
  obtain ⟨first, done, w, hw, -, -, -, rfl⟩ := Subject.planFrom_run
    (motive := fun _ _ w _ => w.imports.NamedFor target) rfl hstart
    (fun hw _ _ => Progress.namedFor_meetAll hw _)
    (fun {_ _ w _ name rest _ _} hw _ _ _ =>
      Progress.namedFor_meetAll (w := w.takeFirst name rest) hw _) h
  exact hw.renameApart _

/-- A package that a record refers to has a local name. -/
theorem exists_localName_of_uses (h : (planFrom source request target).Yields c p c')
    {r : Record} (hr : r ∈ p.records) {path : String} (hpath : path ≠ target.importPath)
    {t : GoType} (ht : t ∈ r.shape.types) (huses : t.UsesPackage path) :
    ∃ name, p.imports.localName? path = some name := by
  obtain ⟨first, done, w, hledger, -, -, -, rfl⟩ :=
    Subject.planFrom_ledger (P := fun _ => True) rfl trivial (fun _ _ => trivial) h
  have hneeds : r.shape.Needs target.importPath (.imported path) :=
    Shape.needs_imported_iff.mpr ⟨hpath, t, ht, huses⟩
  have hmet : w.imports.contains path = true := hledger.met r (hledger.mem_records.mp hr) _ hneeds
  exact Dict.contains_iff.mp (ImportTable.contains_renameApart.mpr hmet)

/-- A package that a record refers to has a local name, and no type parameter of the record, nor of
the receiver where a method refers to the package, captures it unless it is itself a name for the
package with or without a number. -/
theorem localName_captured_by_its_like (h : (planFrom source request target).Yields c p c') :
    ∀ r ∈ p.records, ∀ path, path ≠ target.importPath →
      (∀ t ∈ r.shape.types, t.UsesPackage path → ∃ name, p.imports.localName? path = some name ∧
        ∀ param ∈ typeParamNames r.shape.params,
          ¬ Name.Numbered (target.nameFor path) param → name ≠ param) ∧
      ∀ m ∈ r.shape.methods, ∀ t ∈ m.signature.types, t.UsesPackage path →
        ∃ name, p.imports.localName? path = some name ∧
          ∀ param ∈ m.receiverParams, ¬ Name.Numbered (target.nameFor path) param →
            name ≠ param := by
  intro r hr path hpath
  have happly {name : String} (hname : p.imports.localName? path = some name)
      (params : List String) : ∀ param ∈ params,
        ¬ Name.Numbered (target.nameFor path) param → name ≠ param := by
    rintro param - hunlike rfl
    exact hunlike (namedFor_of_planFrom h path name hname)
  constructor
  · intro t ht huses
    obtain ⟨name, hname⟩ := exists_localName_of_uses h hr hpath ht huses
    exact ⟨name, hname, happly hname _⟩
  · intro m hm t ht huses
    have hmem : t ∈ r.shape.types := Shape.mem_types_iff.mpr (Or.inr ⟨m, hm, ht⟩)
    obtain ⟨name, hname⟩ := exists_localName_of_uses h hr hpath hmem huses
    exact ⟨name, hname, happly hname _⟩

/-- A package with the interface `Box[io, T]`, which embeds `lines.Source`. -/
def boxes : PackageScope where
  importPath := "example.com/boxes"
  name := "boxes"
  dir := ⟨"boxes"⟩
  moduleDir := none
  types := ⟨[("Box", ⟨"Box", [⟨"io", .builtin "any"⟩, ⟨"T", .builtin "any"⟩], false, .interface
    ⟨[⟨"Get", ⟨[.param "T"], false, [.param "io"]⟩⟩], [.plain "example.com/lines" "Source"], []⟩⟩)]⟩
  funcs := .empty
  values := .empty
  methods := .empty
  importNames := .empty

/-- A package whose interface `Source` has a method that takes an `io.Reader`. -/
def lines : PackageScope where
  importPath := "example.com/lines"
  name := "lines"
  dir := ⟨"lines"⟩
  moduleDir := none
  types := ⟨[("Source", ⟨"Source", [], false, .interface
    ⟨[⟨"Read", ⟨[.plain "io" "Reader"], false, []⟩⟩], [], []⟩⟩)]⟩
  funcs := .empty
  values := .empty
  methods := .empty
  importNames := .empty

def linesSource : Source := fun path =>
  if path = lines.importPath then .ok lines else .error (.load path .unmapped)

/-- In the plan of `Box` the package `io` goes by its own name, which is also a type parameter. -/
theorem exists_plan_of_box :
    ∃ p c' r, (planFrom linesSource (.ofNames "example.com/boxes" ["Box"] []) boxes).Yields .empty p
        c' ∧
      r ∈ p.records ∧ typeParamNames r.shape.params = ["io", "T"] ∧
      (∃ t ∈ r.shape.types, t.UsesPackage "io") ∧ p.imports.localName? "io" = some "io" := by
  have hrun : (((planFrom linesSource (.ofNames "example.com/boxes" ["Box"] []) boxes).run
      .empty).1.toOption.map fun p => (p.records.map fun r => (typeParamNames r.shape.params,
        decide (∃ t ∈ r.shape.types, Need.imported "io" ∈ t.needs boxes.importPath)),
        p.imports.localName? "io")) = some ([(["io", "T"], true)], some "io") := by decide +kernel
  obtain ⟨p, c', h, hview⟩ := Lookup.exists_yields hrun
  obtain ⟨hrecords, himports⟩ := Prod.mk.inj hview
  obtain ⟨r, hr, hview⟩ := List.map_eq_singleton_iff.mp hrecords
  obtain ⟨hparams, huses⟩ := Prod.mk.inj hview
  obtain ⟨t, ht, hneeds⟩ := of_decide_eq_true huses
  exact ⟨p, c', r, h, hr ▸ List.mem_cons_self, hparams,
    ⟨t, ht, (GoType.imported_mem_needs_iff.mp hneeds).2⟩, himports⟩

theorem box_localName_not_captured_by_unlike :
    ∃ p c' r, (planFrom linesSource (.ofNames "example.com/boxes" ["Box"] []) boxes).Yields .empty p
        c' ∧
      r ∈ p.records ∧ "T" ∈ typeParamNames r.shape.params ∧
      (∃ t ∈ r.shape.types, t.UsesPackage "io") ∧
      ∃ name, p.imports.localName? "io" = some name ∧ name ≠ "T" := by
  obtain ⟨p, c', r, h, hr, hparams, ⟨t, ht, huses⟩, -⟩ := exists_plan_of_box
  have hbound : "T" ∈ typeParamNames r.shape.params := by simp [hparams]
  obtain ⟨hrecord, -⟩ := localName_captured_by_its_like h r hr "io" (by decide)
  obtain ⟨name, hname, hfree⟩ := hrecord t ht huses
  have hunlike : ¬ Name.Numbered (boxes.nameFor "io") "T" := by decide +kernel
  exact ⟨p, c', r, h, hr, hbound, ⟨t, ht, huses⟩, name, hname, hfree "T" hbound hunlike⟩

/-- A local name can be captured by a type parameter that is spelt like it. -/
theorem box_localName_captured :
    ¬ ∀ (source : Source) (request : Request) (target : PackageScope) (p : StubPlan) (c c' : Cache),
      (planFrom source request target).Yields c p c' → ∀ r ∈ p.records, ∀ path,
        path ≠ target.importPath → ∀ t ∈ r.shape.types, t.UsesPackage path →
          ∀ name, p.imports.localName? path = some name →
            ∀ param ∈ typeParamNames r.shape.params, name ≠ param := by
  intro hfree
  obtain ⟨p, c', r, h, hr, hparams, ⟨t, ht, huses⟩, hname⟩ := exists_plan_of_box
  have hbound : "io" ∈ typeParamNames r.shape.params := by simp [hparams]
  exact hfree _ _ _ p _ c' h r hr "io" (by decide) t ht huses "io" hname "io" hbound rfl

end GoStub
