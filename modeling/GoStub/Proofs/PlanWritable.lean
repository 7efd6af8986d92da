import GoStub.Proofs.Ledger

/-! Every plan can be written out: whatever occurs in a record is declared by the stub, imported by
it, or needs neither. -/

namespace GoStub

namespace Shape

variable {own : String} {s : Shape} {t : GoType}

theorem mentions_of_occurs {name : String} {args : List GoType} (ht : t ∈ s.types)
    (ho : (GoType.named own name args).Occurs t) : s.Needs own (.declared name) :=
  needs_declared_iff.mpr ⟨t, ht, args, ho⟩

theorem imports_of_named {path name : String} {args : List GoType} (ht : t ∈ s.types)
    (ho : (GoType.named path name args).Occurs t) (hp : path ≠ own) :
    s.Needs own (.imported path) :=
  Or.inl ⟨t, ht, GoType.mem_needs_iff.mpr
    ⟨_, ho, GoType.imported_mem_needsHere_iff.mpr ⟨hp, Or.inl ⟨name, args, rfl⟩⟩⟩⟩

theorem imports_of_length {path name : String} {elem : GoType} (ht : t ∈ s.types)
    (ho : (GoType.array (.constant path name) elem).Occurs t) (hp : path ≠ own) :
    s.Needs own (.imported path) :=
  Or.inl ⟨t, ht, GoType.mem_needs_iff.mpr
    ⟨_, ho, GoType.imported_mem_needsHere_iff.mpr ⟨hp, Or.inr ⟨name, elem, rfl⟩⟩⟩⟩

end Shape

namespace Subject

variable {P : Cache → Prop} {t : Subject} {first : List Record} {done : Dict Record} {w : Progress}
  {c c' : Cache} {source : Source} {request : Request} {target : PackageScope} {p : StubPlan}

/-- A listed type is declared by the stub. -/
theorem Ledger.declares (h : (ofRequest source request target).Ledger P first done w)
    (hnames : first.map (·.name) = request.names) {n : String} (hn : n ∈ w.listed) :
    ∃ r ∈ first ++ done.values, r.name = n ∧ r.shape.declaresType = true := by
  rcases (h.listed n).mp hn with hn | hn
  · obtain ⟨hreq, hknown⟩ := mem_requested_iff.mp hn
    obtain ⟨r, hr, rfl⟩ := List.mem_map.mp (hnames ▸ hreq)
    obtain ⟨c, d, hd, hs⟩ := (h.requested r hr).drafted
    exact ⟨r, List.mem_append_left _ hr, rfl, hs ▸ hd.declaresType hknown⟩
  · obtain ⟨r, hr⟩ := Dict.contains_iff.mp hn
    obtain ⟨rfl, -, hknown, withMethods, hmade, -⟩ := h.auxiliary n r hr
    obtain ⟨c, d, hd, hs⟩ := hmade.drafted
    exact ⟨r, h.mem_records.mpr (Or.inr ⟨_, hr⟩), rfl, hs ▸ hd.declaresType hknown⟩

/-- What occurs in a record is settled and its needs are met, so it can be written. -/
theorem Ledger.writableHere (h : (ofRequest source request target).Ledger P first done w)
    (hw : w.pending = []) (hnames : first.map (·.name) = request.names)
    (hp : p = ⟨target.importPath, target.name, first ++ done.values,
      w.imports.renameApart ((first ++ done.values).map (·.name))⟩)
    {r : Record} (hr : r ∈ p.records) {s u : GoType} (hs : s ∈ r.shape.types) (hu : u.Occurs s) :
    u.WritableHere (.ofPlan p) := by
  subst hp
  have hmet := h.met r (h.mem_records.mp hr)
  have himported {path : String} (hn : r.shape.Needs target.importPath (.imported path)) :
      (w.imports.renameApart ((first ++ done.values).map (·.name))).contains path = true := by
    rw [ImportTable.contains_renameApart]
    exact hmet _ hn
  obtain ⟨withMethods, hmade⟩ := h.made hr
  obtain ⟨c, d, hd, hshape⟩ := hmade.drafted
  have hsettled : u.SettledHere target := hd.settled s (hshape ▸ hs) u hu
  cases u with
  | named path name args =>
    by_cases hown : path = target.importPath
    · subst hown
      have hlisted := hmet _ (Shape.mentions_of_occurs hs hu)
      simp only [Progress.Met, hw, List.not_mem_nil, or_false] at hlisted
      obtain ⟨r', hr', rfl, htype⟩ := h.declares hnames hlisted
      exact GoType.writableHere_own (List.mem_map_of_mem (List.mem_filter.mpr ⟨hr', htype⟩))
    · exact GoType.writableHere_foreign hown (himported (Shape.imports_of_named hs hu hown))
  | array length elem =>
    cases length with
    | literal value => trivial
    | constant path name =>
      exact ⟨hsettled.1, himported (Shape.imports_of_length hs hu hsettled.1)⟩
    | expr text => exact hsettled.elim
  | unsupported reason => exact hsettled.elim
  | _ => trivial

end Subject

variable {source : Source} {request : Request} {target : PackageScope} {p : StubPlan} {c c' : Cache}

theorem ofPlan_ok_of_planFrom (h : (planFrom source request target).Yields c p c') :
    ∃ stub, Stub.ofPlan p = .ok stub := by
  obtain ⟨first, done, w, hledger, hw, hnames, -, hp⟩ :=
    Subject.planFrom_ledger (P := fun _ => True) rfl trivial (fun _ _ => trivial) h
  have hrecords : p.records = first ++ done.values := by rw [hp]
  refine Stub.ofPlan_ok_iff.mpr fun r hr => ⟨?_, fun s hs u hu => ?_⟩
  · obtain ⟨withMethods, hmade⟩ := hledger.made (hrecords ▸ hr)
    obtain ⟨c, d, hd, hshape⟩ := hmade.drafted
    exact hshape ▸ hd.valueComplete
  · exact hledger.writableHere hw hnames hp hr hs hu

/-- Whatever packages there are and whatever is requested: a plan that is made, of a package at hand
or of one to load, can be written as a stub. -/
theorem stub_exists_of_plan
    (h : (plan source request).Yields c p c' ∨
      ∃ target, (planFrom source request target).Yields c p c') :
    ∃ stub, Stub.ofPlan p = .ok stub := by
  rcases h with h | ⟨target, h⟩
  · obtain ⟨target, c₁, -, h⟩ := Lookup.yields_bind.mp h
    exact ofPlan_ok_of_planFrom h
  · exact ofPlan_ok_of_planFrom h

theorem stub_exists_of_shop_plan :
    ∃ p c', (plan shopSource (.ofNames "example.com/shop" [] ["Open"])).Yields .empty p c' ∧
      p.records.map (·.name) = ["Open", "Base", "Item", "Store"] ∧
      ∃ stub, Stub.ofPlan p = .ok stub := by
  have hrun : (((plan shopSource (.ofNames "example.com/shop" [] ["Open"])).run
      .empty).1.toOption.map fun p => p.records.map (·.name)) = some ["Open", "Base", "Item", "Store"] := by
    decide +kernel
  obtain ⟨p, c', h, hnames⟩ := Lookup.exists_yields hrun
  exact ⟨p, c', h, hnames, stub_exists_of_plan (Or.inl h)⟩

end GoStub
