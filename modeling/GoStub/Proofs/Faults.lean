import GoStub.Proofs.Occurrence
import GoStub.Shape.Settle

/-! The faults met while a symbol is made. Whatever stands in the way, in whatever package, is
reported of that symbol; only names that are not declared are reported by themselves. -/

namespace GoStub

/-- The faults that can come up while the symbol at `site` is made. -/
inductive StubFault.RaisedAt (site : Site) : StubFault → Prop
  | fault (obstacle : Obstacle) : RaisedAt site (site.fault obstacle)
  | missing (package name : String) : RaisedAt site (.missing package name)

/-- The computation fails with faults of the symbol only. -/
def FailsAt {α : Type} (site : Site) (x : Except StubFault α) : Prop :=
  ∀ e, x = .error e → e.RaisedAt site

section

variable {α β : Type} {site : Site} {x : Except StubFault α} {f : α → Except StubFault β}

theorem failsAt_ok (a : α) : FailsAt site (.ok a) := by
  intro e h
  cases h

theorem failsAt_error {e : StubFault} (h : e.RaisedAt site) :
    FailsAt site (.error e : Except StubFault α) := by
  intro e' he
  cases he
  exact h

theorem FailsAt.bind (hx : FailsAt site x) (hf : ∀ a, FailsAt site (f a)) :
    FailsAt site (x >>= f) := by
  intro e h
  cases x with
  | error e' =>
    cases h
    exact hx _ rfl
  | ok a => exact hf a e h

theorem FailsAt.map (hx : FailsAt site x) (g : α → β) : FailsAt site (x.map g) := by
  cases x with
  | error e => exact failsAt_error (hx e rfl)
  | ok a => exact failsAt_ok (g a)

/-- A list made element by element fails as its elements do. -/
theorem FailsAt.cons {g : α → List β → List β} {rest : Except StubFault (List β)}
    (hx : FailsAt site x) (hrest : FailsAt site rest) :
    FailsAt site (x >>= fun a => rest >>= fun as => pure (g a as)) :=
  hx.bind fun _ => hrest.bind fun _ => failsAt_ok _

end

namespace Site

variable (site : Site)

theorem failsAt_lengthLiteral (hops : Nat) (name : String) :
    FailsAt site (site.lengthLiteral hops name) := by
  fun_induction site.lengthLiteral hops name with
  | case1 | case4 => exact failsAt_error (.fault _)
  | case2 => exact failsAt_ok _
  | case3 _ _ _ _ _ _ _ ih => exact ih

theorem failsAt_settleLength (length : ArrayLength) : FailsAt site (site.settleLength length) := by
  cases length with
  | literal value => exact failsAt_ok _
  | expr text => exact failsAt_error (.fault _)
  | constant package name =>
    rw [settleLength]
    split
    · exact (site.failsAt_lengthLiteral maxHops name).map _
    · split
      · exact failsAt_ok _
      · exact failsAt_error (.fault _)

theorem failsAt_checkName (package name : String) : FailsAt site (site.checkName package name) := by
  unfold checkName
  split
  · split
    · exact failsAt_ok _
    · exact failsAt_error (.missing _ _)
  · split
    · exact failsAt_ok _
    · exact failsAt_error (.fault _)

end Site

section

variable {site : Site}

theorem failsAt_settleAll {ts : List GoType} (h : ∀ t ∈ ts, FailsAt site (t.settle site)) :
    FailsAt site (settleAll site ts) := by
  induction ts with
  | nil => exact failsAt_ok _
  | cons t ts ih =>
    obtain ⟨ht, hts⟩ := List.forall_mem_cons.mp h
    exact ht.cons (ih hts)

theorem Signature.failsAt_settle_of {s : Signature}
    (h : ∀ t ∈ s.types, FailsAt site (t.settle site)) : FailsAt site (s.settle site) := by
  obtain ⟨params, variadic, results⟩ := s
  obtain ⟨hparams, hresults⟩ := List.forall_mem_append.mp h
  exact (failsAt_settleAll hparams).bind fun _ =>
    (failsAt_settleAll hresults).bind fun _ => failsAt_ok _

theorem failsAt_settleFields_of {fields : List Field}
    (h : ∀ f ∈ fields, FailsAt site (f.type.settle site)) :
    FailsAt site (settleFields site fields) := by
  induction fields with
  | nil => exact failsAt_ok _
  | cons f fields ih =>
    obtain ⟨hf, hfields⟩ := List.forall_mem_cons.mp h
    obtain ⟨name, type, embedded, tag⟩ := f
    exact hf.cons (ih hfields)

theorem failsAt_settleMethods_of {methods : List Method}
    (h : ∀ m ∈ methods, ∀ t ∈ m.signature.types, FailsAt site (t.settle site)) :
    FailsAt site (settleMethods site methods) := by
  induction methods with
  | nil => exact failsAt_ok _
  | cons m methods ih =>
    obtain ⟨hm, hmethods⟩ := List.forall_mem_cons.mp h
    obtain ⟨name, signature⟩ := m
    exact (Signature.failsAt_settle_of hm).cons (ih hmethods)

theorem InterfaceBody.failsAt_settle_of {b : InterfaceBody}
    (h : ∀ t ∈ b.types, FailsAt site (t.settle site)) : FailsAt site (b.settle site) := by
  obtain ⟨methods, embedded, typeSets⟩ := b
  obtain ⟨hmethods, hrest⟩ := List.forall_mem_append.mp h
  obtain ⟨hembedded, htypeSets⟩ := List.forall_mem_append.mp hrest
  have hsignatures : ∀ m ∈ methods, ∀ t ∈ m.signature.types, FailsAt site (t.settle site) :=
    fun m hm t ht => hmethods t (List.mem_flatMap.mpr ⟨m, hm, ht⟩)
  exact (failsAt_settleMethods_of hsignatures).bind fun _ =>
    (failsAt_settleAll hembedded).bind fun _ =>
      (failsAt_settleAll htypeSets).bind fun _ => failsAt_ok _

/-- Settling a type fails with faults of the symbol only. -/
theorem GoType.failsAt_settle (t : GoType) : FailsAt site (t.settle site) := by
  induction t using inductionOnParts with
  | step t ih =>
    cases t with
    | builtin name | param name => exact failsAt_ok _
    | unsupported reason => exact failsAt_error (.fault _)
    | named package name args =>
      exact (failsAt_settleAll ih).bind fun _ =>
        (site.failsAt_checkName package name).bind fun _ => failsAt_ok _
    | pointer elem | slice elem | chan direction elem | tilde elem =>
      exact (ih elem List.mem_cons_self).bind fun _ => failsAt_ok _
    | array length elem =>
      exact (site.failsAt_settleLength length).bind fun _ =>
        (ih elem List.mem_cons_self).bind fun _ => failsAt_ok _
    | map key value =>
      exact (ih key List.mem_cons_self).bind fun _ =>
        (ih value (.tail _ List.mem_cons_self)).bind fun _ => failsAt_ok _
    | func signature =>
      exact (Signature.failsAt_settle_of ih).bind fun _ => failsAt_ok _
    | struct fields =>
      have hfields : ∀ f ∈ fields, FailsAt site (f.type.settle site) :=
        fun f hf => ih f.type (List.mem_map_of_mem hf)
      exact (failsAt_settleFields_of hfields).bind fun _ => failsAt_ok _
    | interface body => exact (InterfaceBody.failsAt_settle_of ih).bind fun _ => failsAt_ok _
    | union terms => exact (failsAt_settleAll ih).bind fun _ => failsAt_ok _

theorem Signature.failsAt_settle (s : Signature) : FailsAt site (s.settle site) :=
  failsAt_settle_of fun t _ => t.failsAt_settle

theorem InterfaceBody.failsAt_settle (b : InterfaceBody) : FailsAt site (b.settle site) :=
  failsAt_settle_of fun t _ => t.failsAt_settle

theorem failsAt_settleFields (fields : List Field) : FailsAt site (settleFields site fields) :=
  failsAt_settleFields_of fun f _ => f.type.failsAt_settle

theorem failsAt_settleParams (params : List TypeParam) :
    FailsAt site (settleParams site params) := by
  induction params with
  | nil => exact failsAt_ok _
  | cons param params ih => exact param.constraint.failsAt_settle.cons ih

end

end GoStub
