import GoStub.Proofs.Universe

/-! Substitutions one after the other. They come to one substitution, since all parameters are
replaced at once and what replaces them is not looked at again. -/

namespace GoStub

variable {s u : Substitution}

namespace Substitution

/-- What `s` and then `u` do: `u` also acts on what `s` puts in, and its own entries count where `s`
has none. -/
def andThen (s u : Substitution) : Substitution :=
  u.entries.foldl (fun v e => v.insertNew e.1 e.2) (s.map (·.substitute u))

theorem get?_andThen (s u : Substitution) (name : String) :
    (s.andThen u).get? name = ((s.get? name).map (·.substitute u)).or (u.get? name) := by
  rw [andThen, Dict.get?_foldl_insertNew_entries, Dict.get?_map]
  rfl

theorem sorted_andThen (h : s.Sorted) (u : Substitution) : (s.andThen u).Sorted :=
  (h.map _).foldl_insertNew u.entries

end Substitution

namespace GoType

theorem substitute_substitute (t : GoType) (s u : Substitution) :
    (t.substitute s).substitute u = t.substitute (s.andThen u) := by
  induction t using inductionOnParams with
  | param name =>
    rw [substitute_param, substitute_param, Substitution.get?_andThen]
    cases s.get? name with
    | none => simp
    | some image => simp
  | other t ht ih =>
    calc (t.substitute s).substitute u
        = (t.mapParts (·.substitute s)).substitute u := by rw [substitute_eq_mapParts ht]
      _ = (t.mapParts (·.substitute s)).mapParts (·.substitute u) :=
        substitute_eq_mapParts (mapParts_ne_param ht _)
      _ = t.mapParts fun part => (part.substitute s).substitute u := mapParts_mapParts t
      _ = t.mapParts (·.substitute (s.andThen u)) := mapParts_congr ih
      _ = t.substitute (s.andThen u) := (substitute_eq_mapParts ht).symm

theorem substitute_eq_self {t : GoType} (h : ∀ name ∈ s.keys, ¬ (param name).Occurs t) :
    t.substitute s = t := by
  induction t using inductionOnParams with
  | param name =>
    have hnone : s.get? name = none := by
      cases hget : s.get? name with
      | none => rfl
      | some image =>
        have hkey := Dict.mem_keys_iff.mpr (Dict.contains_iff.mpr ⟨image, hget⟩)
        exact absurd .here (h name hkey)
    rw [substitute_param, hnone, Option.getD_none]
  | other t ht ih =>
    have hparts : ∀ part ∈ t.parts, part.substitute s = part := fun part hp =>
      ih part hp fun name hkey hoccurs => h name hkey (.inside hp hoccurs)
    rw [substitute_eq_mapParts ht, mapParts_congr hparts, mapParts_id]

/-- Only a parameter can become a parameter. -/
theorem eq_param_of_substitute {t : GoType} {name : String} (h : t.substitute s = .param name) :
    ∃ m, t = .param m := by
  by_contra ht
  have ht := not_exists.mp ht
  rw [substitute_eq_mapParts ht] at h
  exact mapParts_ne_param ht _ name h

theorem occurs_param_substitute {t : GoType} {name : String} :
    (param name).Occurs (t.substitute s) ↔
      (param name).Occurs t ∧ name ∉ s.keys ∨
        ∃ m image, (param m).Occurs t ∧ s.get? m = some image ∧ (param name).Occurs image := by
  rw [Dict.mem_keys_iff, Dict.contains_iff]
  constructor
  · intro h
    rcases occurs_substitute h with ⟨v, hv, heq⟩ | h
    · obtain ⟨m, rfl⟩ := eq_param_of_substitute heq.symm
      rw [substitute_param] at heq
      cases hm : s.get? m with
      | none =>
        rw [hm, Option.getD_none] at heq
        cases heq
        exact Or.inl ⟨hv, by simp [hm]⟩
      | some image =>
        rw [hm, Option.getD_some] at heq
        exact Or.inr ⟨m, image, hv, hm, heq ▸ .here⟩
    · exact Or.inr h
  · rintro (⟨h, hnone⟩ | ⟨m, image, hm, himage, h⟩)
    · have hs := h.substitute s
      rwa [substitute_param, Option.eq_none_iff_forall_ne_some.mpr (not_exists.mp hnone),
        Option.getD_none] at hs
    · have hs := hm.substitute s
      rw [substitute_param, himage, Option.getD_some] at hs
      exact h.trans hs

/-- Substitution composes, leaves a type as it is where no parameter has an entry, and replaces all
parameters at once: those left are the ones without an entry and those of what was put in. -/
theorem substitution_laws (t : GoType) (s u : Substitution) :
    ((t.substitute s).substitute u = t.substitute (s.andThen u) ∧
      (∀ name, (s.andThen u).get? name =
        ((s.get? name).map (·.substitute u)).or (u.get? name)) ∧
      (s.Sorted → (s.andThen u).Sorted)) ∧
    ((∀ name ∈ s.keys, ¬ (param name).Occurs t) → t.substitute s = t) ∧
    t.substitute .empty = t ∧
    ∀ name, (param name).Occurs (t.substitute s) ↔
      (param name).Occurs t ∧ name ∉ s.keys ∨
        ∃ m image, (param m).Occurs t ∧ s.get? m = some image ∧ (param name).Occurs image :=
  ⟨⟨substitute_substitute t s u, s.get?_andThen u, fun h => Substitution.sorted_andThen h u⟩,
    substitute_eq_self, substitute_of_isEmpty rfl t, fun _ => occurs_param_substitute⟩

end GoType

/-- An interface over `K` and `V`, with a variadic method, a callback, an element to embed and a type
set. -/
def registryType : GoType :=
  .interface ⟨[
    ⟨"Put", ⟨[.param "K", .param "V"], true,
      [.map (.param "K") (.named "example.com/feed" "Source" [.param "V"])]⟩⟩,
    ⟨"Each", ⟨[.func ⟨[.param "K", .chan .receive (.param "V")], false, [.builtin "bool"]⟩],
      false, []⟩⟩],
    [.named "example.com/taps" "Tap" [.array (.literal "2") (.param "V")]],
    [.union [.tilde (.param "K"), .struct [⟨"Key", .pointer (.param "K"), false, none⟩]]]⟩

/-- Puts `V` into what replaces `K` and the other way round. -/
def crossing : Substitution :=
  ⟨[("K", .slice (.param "V")), ("V", .param "K")]⟩

def grounding : Substitution :=
  ⟨[("V", .builtin "string"), ("W", .builtin "int")]⟩

theorem registryType_paramsIn : registryType.ParamsIn ["K", "V"] := by
  have hfits : registryType.fitsWithin [] ["K", "V"] 5 = true := by decide +kernel
  exact (GoType.fits_of_fitsWithin hfits).paramsIn

theorem registry_crossed_and_grounded :
    crossing.Sorted ∧ (crossing.andThen grounding).Sorted ∧
    (registryType.substitute crossing).substitute grounding =
      registryType.substitute (crossing.andThen grounding) ∧
    ["K", "V", "W"].map (crossing.andThen grounding).get? =
      [some (.slice (.builtin "string")), some (.param "K"), some (.builtin "int")] ∧
    (∀ name ∈ (grounding.erase "V").keys, ¬ (GoType.param name).Occurs registryType) ∧
    registryType.substitute (grounding.erase "V") = registryType ∧
    (GoType.param "K").Occurs registryType ∧
    (GoType.param "V").Occurs (registryType.substitute crossing) := by
  have hsorted : crossing.Sorted := by
    unfold Dict.Sorted
    decide
  have hnone : ∀ name ∈ (grounding.erase "V").keys, ¬ (GoType.param name).Occurs registryType := by
    have hkeys : ∀ name ∈ (grounding.erase "V").keys, name ∉ ["K", "V"] := by decide
    exact fun name hkey hoccurs => hkeys name hkey (registryType_paramsIn name hoccurs)
  have hkey : (GoType.param "K").Occurs registryType := .inside (.head _) .here
  obtain ⟨⟨hcompose, hget, hkeep⟩, -, -, hparams⟩ :=
    GoType.substitution_laws registryType crossing grounding
  obtain ⟨-, hsame, -⟩ := GoType.substitution_laws registryType (grounding.erase "V") .empty
  refine ⟨hsorted, hkeep hsorted, hcompose, ?_, hnone, hsame hnone, hkey, ?_⟩
  · simp only [List.map_cons, List.map_nil, hget]
    rfl
  · exact (hparams "V").mpr (Or.inr ⟨"K", _, hkey, rfl, .inside (.head _) .here⟩)

end GoStub
