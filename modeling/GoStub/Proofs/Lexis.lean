import GoStub.Name
import GoStub.Proofs.Files
import Mathlib.Data.List.Forall2

/-! Where a printed text ends when more follows: words of letters and digits, string literals, and
lists with a separator. -/

namespace GoStub

/-- A text of letters, digits and underscores, such as a Go identifier. -/
def IsWord (s : String) : Prop :=
  s ≠ "" ∧ ∀ c ∈ s.toList, Name.isNameChar c = true

instance (s : String) : Decidable (IsWord s) :=
  haveI : Decidable (∀ c ∈ s.toList, Name.isNameChar c = true) := List.decidableBAll _ _
  inferInstanceAs (Decidable (_ ∧ _))

theorem IsWord.exists_cons {s : String} (h : IsWord s) :
    ∃ c cs, s.toList = c :: cs ∧ Name.isNameChar c = true := by
  cases hs : s.toList with
  | nil => exact absurd (String.toList_eq_nil_iff.mp hs) h.1
  | cons c cs => exact ⟨c, cs, rfl, h.2 c (by simp [hs])⟩

/-- What follows does not continue a word. -/
def Stops (r : List Char) : Prop :=
  ∀ c ∈ r.head?, Name.isNameChar c = false

theorem stops_cons {c : Char} {r : List Char} (h : Name.isNameChar c = false) : Stops (c :: r) := by
  simpa [Stops] using h

/-- A word ends where what follows does not continue it. -/
theorem word_unique {v w r r' : List Char} (hv : ∀ c ∈ v, Name.isNameChar c = true)
    (hw : ∀ c ∈ w, Name.isNameChar c = true) (hr : Stops r) (hr' : Stops r')
    (h : v ++ r = w ++ r') : v = w ∧ r = r' := by
  induction v generalizing w with
  | nil =>
    cases w with
    | nil => exact ⟨rfl, h⟩
    | cons d w =>
      rw [List.nil_append] at h
      have hd := hr d (by simp [h])
      rw [hw d List.mem_cons_self] at hd
      cases hd
  | cons c v ih =>
    obtain ⟨hc, hv⟩ := List.forall_mem_cons.mp hv
    cases w with
    | nil =>
      rw [List.nil_append] at h
      have hd := hr' c (by simp [← h])
      rw [hc] at hd
      cases hd
    | cons d w =>
      obtain ⟨rfl, htail⟩ := List.cons_eq_cons.mp h
      obtain ⟨rfl, hrest⟩ := ih hv (List.forall_mem_cons.mp hw).2 htail
      exact ⟨rfl, hrest⟩

theorem IsWord.unique {s s' : String} {r r' : List Char} (h : IsWord s) (h' : IsWord s')
    (hr : Stops r) (hr' : Stops r') (heq : s.toList ++ r = s'.toList ++ r') : s = s' ∧ r = r' := by
  obtain ⟨hs, hrest⟩ := word_unique h.2 h'.2 hr hr' heq
  exact ⟨String.toList_inj.mp hs, hrest⟩

/-- What follows the next backquote. -/
def afterRaw : List Char → Option (List Char)
  | [] => none
  | c :: cs => if c = '\x60' then some cs else afterRaw cs

/-- What follows the next double quote that is not escaped. -/
def afterQuoted (escaped : Bool) : List Char → Option (List Char)
  | [] => none
  | c :: cs =>
    if escaped then afterQuoted false cs
    else if c = '"' then some cs else afterQuoted (c == '\\') cs

/-- What follows a string literal. -/
def afterLiteral : List Char → Option (List Char)
  | [] => none
  | c :: cs => if c = '\x60' then afterRaw cs else if c = '"' then afterQuoted false cs else none

/-- A text in backquotes or double quotes. -/
def IsStringLiteral (s : String) : Prop :=
  afterLiteral s.toList = some []

instance (s : String) : Decidable (IsStringLiteral s) :=
  inferInstanceAs (Decidable (_ = _))

theorem afterRaw_append {cs rest : List Char} (h : afterRaw cs = some rest) (r : List Char) :
    afterRaw (cs ++ r) = some (rest ++ r) := by
  induction cs with
  | nil => cases h
  | cons c cs ih =>
    rw [afterRaw] at h
    rw [List.cons_append, afterRaw]
    split at h
    next hc =>
      cases h
      rw [if_pos hc]
    next hc => rw [if_neg hc, ih h]

theorem afterQuoted_append {escaped : Bool} {cs rest : List Char}
    (h : afterQuoted escaped cs = some rest) (r : List Char) :
    afterQuoted escaped (cs ++ r) = some (rest ++ r) := by
  induction cs generalizing escaped with
  | nil => cases h
  | cons c cs ih =>
    rw [afterQuoted] at h
    rw [List.cons_append, afterQuoted]
    split at h
    next he => rw [if_pos he, ih h]
    next he =>
      rw [if_neg he]
      split at h
      next hc =>
        cases h
        rw [if_pos hc]
      next hc => rw [if_neg hc, ih h]

theorem afterLiteral_append {cs rest : List Char} (h : afterLiteral cs = some rest)
    (r : List Char) : afterLiteral (cs ++ r) = some (rest ++ r) := by
  cases cs with
  | nil => cases h
  | cons c cs =>
    rw [afterLiteral] at h
    rw [List.cons_append, afterLiteral]
    split at h
    next hc => rw [if_pos hc, afterRaw_append h]
    next hc =>
      rw [if_neg hc]
      split at h
      next hq => rw [if_pos hq, afterQuoted_append h]
      next => cases h

/-- A string literal ends where it does, whatever follows. -/
theorem IsStringLiteral.unique {s s' : String} {r r' : List Char} (h : IsStringLiteral s)
    (h' : IsStringLiteral s') (heq : s.toList ++ r = s'.toList ++ r') : s = s' ∧ r = r' := by
  have hr := afterLiteral_append h r
  rw [heq, afterLiteral_append h' r'] at hr
  obtain rfl : r' = r := by simpa using hr
  exact ⟨String.toList_inj.mp (List.append_cancel_right heq), rfl⟩

theorem IsStringLiteral.exists_quote {s : String} (h : IsStringLiteral s) :
    ∃ c cs, s.toList = c :: cs ∧ (c = '\x60' ∨ c = '"') := by
  unfold IsStringLiteral at h
  cases hs : s.toList with
  | nil =>
    rw [hs] at h
    cases h
  | cons c cs =>
    refine ⟨c, cs, rfl, ?_⟩
    rw [hs, afterLiteral] at h
    split at h
    next hc => exact Or.inl hc
    next =>
      split at h
      next hc => exact Or.inr hc
      next => cases h

/-- The texts with a separator between them. -/
def joined (sep : List Char) : List (List Char) → List Char
  | [] => []
  | [cs] => cs
  | cs :: ds :: rest => cs ++ sep ++ joined sep (ds :: rest)

theorem toList_joinWith (sep : String) (texts : List String) :
    (Text.joinWith sep texts).toList = joined sep.toList (texts.map (·.toList)) := by
  induction texts with
  | nil => rfl
  | cons s texts ih =>
    cases texts with
    | nil => rfl
    | cons t texts => simpa [Text.joinWith, joined] using ih

/-- A text that stands for an item tells which it is and where it ends, whatever follows of what may
follow. -/
def Decides {α : Type} (Reads : α → List Char → Prop) (Follows : List Char → Prop) (x : α) : Prop :=
  ∀ cs y ds r r', Reads x cs → Reads y ds → Follows r → Follows r' → cs ++ r = ds ++ r' →
    x = y ∧ r = r'

/-- A list of items is told by its text, if each item is and the separator does not follow the
list. -/
theorem joined_unique {α : Type} {Reads : α → List Char → Prop} {Follows : List Char → Prop}
    {sep r r' : List Char} {xs ys : List α} {css dss : List (List Char)}
    (hsep : ∀ r, Follows (sep ++ r)) (hr : Follows r) (hr' : Follows r') (hstop : ¬ sep <+: r)
    (hstop' : ¬ sep <+: r') (hdecides : ∀ x ∈ xs, Decides Reads Follows x)
    (hxs : List.Forall₂ Reads xs css) (hys : List.Forall₂ Reads ys dss) (hne : xs ≠ [])
    (hne' : ys ≠ []) (h : joined sep css ++ r = joined sep dss ++ r') : xs = ys ∧ r = r' := by
  induction hxs generalizing ys dss with
  | nil => exact absurd rfl hne
  | @cons x cs xs css hx hxs ih =>
    cases hys with
    | nil => exact absurd rfl hne'
    | @cons y ds ys dss hy hys =>
      obtain ⟨hdecide, hrest⟩ := List.forall_mem_cons.mp hdecides
      cases hxs with
      | nil =>
        cases hys with
        | nil =>
          obtain ⟨rfl, hr⟩ := hdecide _ _ _ _ _ hx hy hr hr' h
          exact ⟨rfl, hr⟩
        | cons hy' hys =>
          simp only [joined, List.append_assoc] at h
          obtain ⟨-, hr⟩ := hdecide _ _ _ _ _ hx hy hr (hsep _) h
          exact absurd ⟨_, hr.symm⟩ hstop
      | cons hx' hxs =>
        cases hys with
        | nil =>
          simp only [joined, List.append_assoc] at h
          obtain ⟨-, hr⟩ := hdecide _ _ _ _ _ hx hy (hsep _) hr' h
          exact absurd ⟨_, hr⟩ hstop'
        | cons hy' hys =>
          simp only [joined, List.append_assoc] at h
          obtain ⟨rfl, htail⟩ := hdecide _ _ _ _ _ hx hy (hsep _) (hsep _) h
          obtain ⟨hlists, hr⟩ := ih hrest (.cons hy' hys) (by simp) (by simp)
            (List.append_cancel_left htail)
          exact ⟨by rw [hlists], hr⟩

end GoStub
