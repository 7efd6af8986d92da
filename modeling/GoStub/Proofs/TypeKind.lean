import GoStub.Proofs.TypeForm

/-! The kind of a printed type. Its first characters tell whether it is a name, a pointer, a channel
and so on, as long as what follows the type does not continue it. -/

namespace GoStub

/-- What may follow a type: nothing, a mark, or a space and one of the marks after a space. -/
inductive Ends : List Char → Prop
  | finish : Ends []
  | mark {m : Char} {r : List Char} (h : m ∈ [',', ')', ']', ';']) : Ends (m :: r)
  | space {m : Char} {r : List Char} (h : m ∈ ['\x7d', '|', '\x60', '"']) : Ends (' ' :: m :: r)

/-- What may follow a field, a member of an interface or a whole type. -/
inductive EndsMember : List Char → Prop
  | finish : EndsMember []
  | mark {r : List Char} : EndsMember (';' :: r)
  | brace {r : List Char} : EndsMember (' ' :: '\x7d' :: r)

theorem Ends.head_mem {r : List Char} (h : Ends r) :
    ∀ m ∈ r.head?, m ∈ [',', ')', ']', ';', ' '] := by
  cases h with
  | finish => simp
  | @mark m r h =>
    intro m' hm'
    obtain rfl : m = m' := by simpa using hm'
    exact List.mem_append_left [' '] h
  | space h => simp

theorem Ends.stops {r : List Char} (h : Ends r) : Stops r := by
  have hmarks : ∀ m ∈ [',', ')', ']', ';', ' '], Name.isNameChar m = false := by
    simp only [List.forall_mem_cons, List.not_mem_nil, false_imp_iff, implies_true, and_true]
    decide
  exact fun m hm => hmarks m (h.head_mem m hm)

theorem EndsMember.ends {r : List Char} (h : EndsMember r) : Ends r := by
  cases h with
  | finish => exact .finish
  | mark => exact .mark (by decide)
  | brace => exact .space (by decide)

theorem ends_comma (r : List Char) : Ends ([',', ' '] ++ r) :=
  .mark (by decide)

theorem ends_bar (r : List Char) : Ends ([' ', '|', ' '] ++ r) :=
  .space (by decide)

theorem ends_tag {r : List Char} {tag : Option String} (htag : ∀ s ∈ tag, IsStringLiteral s)
    (hr : EndsMember r) : Ends (tagChars tag ++ r) := by
  cases tag with
  | none => exact hr.ends
  | some s =>
    obtain ⟨q, qs, hs, hq⟩ := (htag s rfl).exists_quote
    rw [tagChars, hs]
    exact .space (by rcases hq with rfl | rfl <;> decide)

/-- What the first characters of a type tell. -/
inductive Kind
  | name
  | pointer
  | slice
  | array
  | map
  | both
  | send
  | receive
  | func
  | struct
  | interface
  | tilde
  | other
  deriving DecidableEq

namespace Kind

def ofMark : List Char → Kind
  | '*' :: _ => .pointer
  | '[' :: ']' :: _ => .slice
  | '[' :: _ => .array
  | '<' :: _ => .receive
  | '~' :: _ => .tilde
  | _ => .other

def ofWord (word : String) (after : Option Char) : Kind :=
  if after = some '.' then .name
  else if word = "map" then .map
  else if word = "chan" then if after = some '<' then .send else .both
  else if word = "func" then .func
  else if word = "struct" then .struct
  else if word = "interface" then .interface
  else .name

/-- The kind of type that a text begins with. -/
def ofChars (cs : List Char) : Kind :=
  if cs.takeWhile Name.isNameChar = [] then ofMark cs
  else ofWord (String.ofList (cs.takeWhile Name.isNameChar)) (cs.dropWhile Name.isNameChar).head?

theorem ofChars_mark {m : Char} {r : List Char} (h : Name.isNameChar m = false) :
    ofChars (m :: r) = ofMark (m :: r) := by
  rw [ofChars, List.takeWhile_cons_of_neg (by simp [h]), if_pos rfl]

theorem ofChars_word {word : String} {r : List Char} (h : IsWord word) (hr : Stops r) :
    ofChars (word.toList ++ r) = ofWord word r.head? := by
  have hrest : r.takeWhile Name.isNameChar = [] ∧ r.dropWhile Name.isNameChar = r := by
    cases r with
    | nil => exact ⟨rfl, rfl⟩
    | cons m r =>
      have hm : Name.isNameChar m = false := hr m rfl
      simp [hm]
  have hne : word.toList ≠ [] := fun hnil => h.1 (String.toList_eq_nil_iff.mp hnil)
  rw [ofChars, List.takeWhile_append_of_pos h.2, List.dropWhile_append_of_pos h.2, hrest.1, hrest.2,
    List.append_nil, if_neg hne, String.ofList_toList]

theorem ofWord_name {word : String} {after : Option Char} (h : word ∉ typeWords) :
    ofWord word after = .name := by
  simp only [typeWords, List.mem_cons, List.not_mem_nil, or_false, not_or] at h
  obtain ⟨hmap, hchan, hfunc, hstruct, hinterface⟩ := h
  simp only [ofWord, hmap, hchan, hfunc, hstruct, hinterface, if_false, ite_self]

end Kind

def GoType.kind : GoType → Kind
  | .builtin _ => .name
  | .param _ => .name
  | .named _ _ _ => .name
  | .pointer _ => .pointer
  | .slice _ => .slice
  | .array _ _ => .array
  | .map _ _ => .map
  | .chan .both _ => .both
  | .chan .send _ => .send
  | .chan .receive _ => .receive
  | .func _ => .func
  | .struct _ => .struct
  | .interface _ => .interface
  | .tilde _ => .tilde
  | .union _ => .other
  | .unsupported _ => .other

theorem GoType.prefixed_of_kind (t : GoType) :
    (t.kind = .pointer → ∃ elem, t = .pointer elem) ∧
      (t.kind = .slice → ∃ elem, t = .slice elem) ∧
      (t.kind = .tilde → ∃ elem, t = .tilde elem) := by
  cases t with
  | chan direction elem => cases direction <;> simp [kind]
  | _ => simp [kind]

theorem direction_eq_of_kind {d d' : Direction} {t u : GoType}
    (h : (GoType.chan d t).kind = (GoType.chan d' u).kind) : d = d' := by
  cases d <;> cases d' <;> first | rfl | cases h

section Names

variable {c : StubScope} {params : List String} {t u : GoType} {word : String}
  {dot : Option String} {args : List GoType} {cs r r' : List Char}

theorem NameForm.parts_eq (h : NameForm c params t word dot args) : t.parts = args := by
  cases h <;> rfl

theorem NameForm.isWord (hc : c.imports.Formed) (h : NameForm c params t word dot args) :
    IsWord word := by
  cases h with
  | builtin h => exact (isName_of_isPredeclared h).1
  | param h => exact h.1
  | own h => exact h.1
  | imported h hq => exact hc.word _ _ hq

theorem NameForm.isWord_dot (h : NameForm c params t word dot args) :
    ∀ name ∈ dot, IsWord name := by
  cases h with
  | imported h => simpa using h
  | _ => simp

theorem NameForm.isName (h : NameForm c params t word none args) : IsName word := by
  cases h with
  | builtin h => exact isName_of_isPredeclared h
  | param h => exact h
  | own h => exact h

/-- The word, the name after the dot and the arguments tell the type. -/
theorem NameForm.unique (hc : c.imports.Formed) (h : NameForm c params t word dot args)
    (h' : NameForm c params u word dot args) : t = u := by
  cases h with
  | builtin h =>
    cases h' with
    | builtin => rfl
    | param _ hnot => cases h.symm.trans hnot
    | own _ hnot => cases h.symm.trans hnot
  | param _ hnot hmem =>
    cases h' with
    | builtin h' => cases h'.symm.trans hnot
    | param => rfl
    | own _ _ hmem' => exact absurd hmem hmem'
  | own _ hnot hmem =>
    cases h' with
    | builtin h' => cases h'.symm.trans hnot
    | param _ _ hmem' => exact absurd hmem' hmem
    | own => rfl
  | imported _ hq =>
    cases h' with
    | imported _ hq' => rw [hc.distinct _ _ _ hq hq']

theorem Reads.nameForm (h : Reads c params t cs) (ht : t.kind = .name) :
    ∃ word dot args css, NameForm c params t word dot args ∧
      List.Forall₂ (Reads c params) args css ∧
      cs = word.toList ++ (dotChars dot ++ argumentChars css) := by
  cases t with
  | builtin name =>
    obtain ⟨hformed, -, f, hf, rfl⟩ := h
    cases hf
    exact ⟨name, none, [], [], .builtin (GoType.formed_iff.mp hformed).1, .nil,
      by simp [dotChars, argumentChars]⟩
  | param name =>
    obtain ⟨hformed, -, f, hf, rfl⟩ := h
    cases hf
    obtain ⟨⟨hname, hnot, hmem⟩, -⟩ := GoType.formed_iff.mp hformed
    exact ⟨name, none, [], [], .param hname hnot hmem, .nil, by simp [dotChars, argumentChars]⟩
  | named package name args =>
    obtain ⟨word, dot, css, hform, hargs, hcs⟩ := h.name
    exact ⟨word, dot, args, css, hform, hargs, hcs⟩
  | chan direction elem => cases direction <;> cases ht
  | _ => cases ht

/-- A word with a name after a dot, before something that continues neither. -/
theorem dotted_unique {word' : String} {dot' : Option String} (hw : IsWord word)
    (hw' : IsWord word') (hd : ∀ name ∈ dot, IsWord name) (hd' : ∀ name ∈ dot', IsWord name)
    (hr : Stops r) (hr' : Stops r') (hdot : r.head? ≠ some '.') (hdot' : r'.head? ≠ some '.')
    (h : word.toList ++ (dotChars dot ++ r) = word'.toList ++ (dotChars dot' ++ r')) :
    word = word' ∧ dot = dot' ∧ r = r' := by
  have hstops {dot : Option String} {r : List Char} (hr : Stops r) : Stops (dotChars dot ++ r) := by
    cases dot with
    | none => exact hr
    | some name => exact stops_cons (by decide)
  obtain ⟨rfl, hafter⟩ := hw.unique hw' (hstops hr) (hstops hr') h
  cases dot with
  | none =>
    cases dot' with
    | none => exact ⟨rfl, rfl, hafter⟩
    | some name =>
      have hr : r = '.' :: (name.toList ++ r') := hafter
      simp [hr] at hdot
  | some name =>
    cases dot' with
    | none =>
      have hr' : r' = '.' :: (name.toList ++ r) := hafter.symm
      simp [hr'] at hdot'
    | some name' =>
      obtain ⟨rfl, hrest⟩ := (hd name rfl).unique (hd' name' rfl) hr hr' (List.cons.inj hafter).2
      exact ⟨rfl, rfl, hrest⟩

/-- What follows a name goes on with arguments or ends it. -/
theorem argumentChars_follows (css : List (List Char)) (hr : Ends r) :
    Stops (argumentChars css ++ r) ∧ (argumentChars css ++ r).head? ≠ some '.' := by
  unfold argumentChars
  split
  · refine ⟨hr.stops, fun hdot => ?_⟩
    exact absurd (hr.head_mem '.' hdot) (by decide)
  · exact ⟨stops_cons (by decide), by simp⟩

end Names

section Kinds

variable {c : StubScope} {params : List String} {t : GoType} {cs r : List Char}

theorem LengthForm.isWord (hc : c.imports.Formed) {length : ArrayLength} {word : String}
    {dot : Option String} (h : LengthForm c length word dot) :
    IsWord word ∧ ∀ name ∈ dot, IsWord name := by
  cases h with
  | literal h => exact ⟨h, by simp⟩
  | constant h hq => exact ⟨hc.word _ _ hq, by simpa using h⟩

theorem ReadsSignature.exists_cons {s : Signature} (h : ReadsSignature c params s cs) :
    ∃ ds, cs = '(' :: ds := by
  obtain ⟨-, pss, rss, -, -, rfl⟩ := h
  exact ⟨_, rfl⟩

theorem exists_memberChars (css : List (List Char)) : ∃ ds, memberChars css = '\x7b' :: ds := by
  unfold memberChars
  split <;> exact ⟨_, rfl⟩

/-- The length of an array is told by its word and the name after the dot. -/
theorem LengthForm.unique (hc : c.imports.Formed) {length length' : ArrayLength} {word : String}
    {dot : Option String} (h : LengthForm c length word dot) (h' : LengthForm c length' word dot) :
    length = length' := by
  cases h with
  | literal =>
    cases h' with
    | literal => rfl
  | constant _ hq =>
    cases h' with
    | constant _ hq' => rw [hc.distinct _ _ _ hq hq']

/-- The first characters tell the kind of type, whatever follows the type. -/
theorem Reads.kind_eq (hc : c.imports.Formed) (h : Reads c params t cs) (hr : Ends r) :
    Kind.ofChars (cs ++ r) = t.kind := by
  have hname (ht : t.kind = .name) : Kind.ofChars (cs ++ r) = t.kind := by
    obtain ⟨word, dot, args, css, hform, -, rfl⟩ := h.nameForm ht
    obtain ⟨hstops, -⟩ := argumentChars_follows css hr
    rw [ht, List.append_assoc, List.append_assoc]
    cases dot with
    | none =>
      rw [dotChars, List.nil_append, Kind.ofChars_word (hform.isWord hc) hstops]
      exact Kind.ofWord_name hform.isName.2
    | some name =>
      have hdot : Stops (dotChars (some name) ++ (argumentChars css ++ r)) :=
        stops_cons (by decide)
      rw [Kind.ofChars_word (hform.isWord hc) hdot]
      rfl
  have hword {word : String} {m : Char} {ds : List Char} (hw : IsWord word)
      (hm : Name.isNameChar m = false) :
      Kind.ofChars (word.toList ++ m :: ds ++ r) = Kind.ofWord word (some m) := by
    rw [List.append_assoc, List.cons_append, Kind.ofChars_word hw (stops_cons hm)]
    rfl
  cases t with
  | builtin name => exact hname rfl
  | param name => exact hname rfl
  | named package name args => exact hname rfl
  | pointer elem =>
    obtain ⟨ds, -, rfl⟩ := h.pointer
    exact Kind.ofChars_mark (by decide)
  | slice elem =>
    obtain ⟨ds, -, rfl⟩ := h.slice
    exact Kind.ofChars_mark (by decide)
  | tilde elem =>
    obtain ⟨ds, -, rfl⟩ := h.tilde
    exact Kind.ofChars_mark (by decide)
  | array length elem =>
    obtain ⟨word, dot, ds, hlength, -, rfl⟩ := h.array
    obtain ⟨hw, -⟩ := hlength.isWord hc
    rw [List.cons_append, Kind.ofChars_mark (by decide)]
    -- a length begins with a letter or digit
    obtain ⟨m, ms, hchars, hm⟩ := hw.exists_cons
    have hclose : m ≠ ']' := by
      rintro rfl
      exact absurd hm (by decide)
    simp [Kind.ofMark, GoType.kind, hchars, hclose]
  | map key value =>
    obtain ⟨ks, vs, -, -, rfl⟩ := h.map
    exact hword (by decide) (by decide)
  | chan direction elem =>
    obtain ⟨ds, -, rfl⟩ := h.chan
    have hboth : "chan ".toList = "chan".toList ++ [' '] := by decide
    have hsend : "chan<- ".toList = "chan".toList ++ ['<', '-', ' '] := by decide
    cases direction with
    | both =>
      rw [directionText, hboth, List.append_assoc "chan".toList]
      exact hword (by decide) (by decide)
    | send =>
      rw [directionText, hsend, List.append_assoc "chan".toList]
      exact hword (by decide) (by decide)
    | receive =>
      have hreceive : "<-chan ".toList = '<' :: "-chan ".toList := by decide
      rw [directionText, hreceive]
      exact Kind.ofChars_mark (by decide)
  | func signature =>
    obtain ⟨ss, hs, rfl⟩ := h.func
    obtain ⟨ds, rfl⟩ := hs.exists_cons
    exact hword (by decide) (by decide)
  | struct fields =>
    obtain ⟨css, -, rfl⟩ := h.struct
    obtain ⟨ds, hds⟩ := exists_memberChars css
    rw [hds]
    exact hword (by decide) (by decide)
  | interface body =>
    obtain ⟨css, -, rfl⟩ := h.interface
    obtain ⟨ds, hds⟩ := exists_memberChars css
    rw [hds]
    exact hword (by decide) (by decide)
  | union terms => cases h.single
  | unsupported reason =>
    obtain ⟨f, hf, -⟩ := h.printed
    cases hf

/-- What is printed has a kind. -/
theorem Reads.kind_ne_other (h : Reads c params t cs) : t.kind ≠ .other := by
  cases t with
  | union terms => cases h.single
  | unsupported reason =>
    obtain ⟨f, hf, -⟩ := h.printed
    cases hf
  | chan direction elem => cases direction <;> simp [GoType.kind]
  | _ => simp [GoType.kind]

/-- No type begins with a mark that closes or separates. -/
theorem Reads.ne_mark (hc : c.imports.Formed) (h : Reads c params t cs) (hr : Ends r) {m : Char}
    {rest : List Char} (hm : m ∈ ['(', ')', ']', '.', '\x7d', '|', '\x60', '"']) :
    cs ++ r ≠ m :: rest := by
  have hother : Name.isNameChar m = false ∧ Kind.ofMark (m :: rest) = .other := by
    simp only [List.mem_cons, List.not_mem_nil, or_false] at hm
    rcases hm with rfl | rfl | rfl | rfl | rfl | rfl | rfl | rfl <;> exact ⟨by decide, rfl⟩
  intro heq
  have hkind := h.kind_eq hc hr
  rw [heq, Kind.ofChars_mark hother.1, hother.2] at hkind
  exact h.kind_ne_other hkind.symm

end Kinds

end GoStub
