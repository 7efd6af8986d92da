import GoStub.Proofs.TypeKind

/-! Printed types can be read in one way only: two types of the form that types have in a Go source
are the same if the same text is printed for them. By induction a type is told by its text, and so
is where it ends, whatever follows it of what may follow a type. -/

namespace GoStub

section Lists

variable {α : Type} {R : α → List Char → Prop} {E : List Char → Prop} {xs ys : List α}
  {css dss : List (List Char)} {sep r r' : List Char}

/-- A list begins with its first item, and what follows that is a separator or what follows the
list. -/
theorem joined_cons_append (hsep : ∀ r, E (sep ++ r)) (hr : E r) (cs : List Char)
    (css : List (List Char)) : ∃ rest, E rest ∧ joined sep (cs :: css) ++ r = cs ++ rest := by
  cases css with
  | nil => exact ⟨r, hr, rfl⟩
  | cons ds css =>
    refine ⟨sep ++ (joined sep (ds :: css) ++ r), hsep _, ?_⟩
    simp only [joined, List.append_assoc]

/-- A list before a mark that no item begins with. It may be empty. -/
theorem closed_unique {close : Char} (hsep : ∀ r, E (sep ++ r)) (hclose : ∀ r, E (close :: r))
    (hstop : ∀ r, ¬ sep <+: close :: r)
    (hstart : ∀ x cs r rest, R x cs → E r → cs ++ r ≠ close :: rest)
    (hdecides : ∀ x ∈ xs, Decides R E x) (hxs : List.Forall₂ R xs css)
    (hys : List.Forall₂ R ys dss)
    (h : joined sep css ++ close :: r = joined sep dss ++ close :: r') : xs = ys ∧ r = r' := by
  have hfirst {x : α} {cs : List Char} (hx : R x cs) (css : List (List Char)) (r r' : List Char) :
      joined sep (cs :: css) ++ close :: r ≠ close :: r' := by
    obtain ⟨rest, hrest, heq⟩ := joined_cons_append hsep (hclose r) cs css
    rw [heq]
    exact hstart x cs rest r' hx hrest
  cases hxs with
  | nil =>
    cases hys with
    | nil => exact ⟨rfl, (List.cons.inj h).2⟩
    | cons hy hys => exact absurd h.symm (hfirst hy _ r' r)
  | cons hx hxs =>
    cases hys with
    | nil => exact absurd h (hfirst hx _ r r')
    | cons hy hys =>
      obtain ⟨heq, hrest⟩ := joined_unique hsep (hclose r) (hclose r') (hstop r) (hstop r') hdecides
        (.cons hx hxs) (.cons hy hys) (by simp) (by simp) h
      exact ⟨heq, (List.cons.inj hrest).2⟩

/-- Members in braces. -/
theorem members_unique (hdecides : ∀ x ∈ xs, Decides R EndsMember x)
    (hxs : List.Forall₂ R xs css) (hys : List.Forall₂ R ys dss)
    (h : memberChars css ++ r = memberChars dss ++ r') : xs = ys ∧ r = r' := by
  have hstop (r : List Char) : ¬ [';', ' '] <+: ' ' :: '\x7d' :: r := by simp
  cases hxs with
  | nil =>
    cases hys with
    | nil => exact ⟨rfl, by simpa [memberChars] using h⟩
    | cons hy hys => simp [memberChars] at h
  | cons hx hxs =>
    cases hys with
    | nil => simp [memberChars] at h
    | cons hy hys =>
      simp only [memberChars, List.isEmpty_cons, Bool.false_eq_true, if_false, List.cons_append,
        List.append_assoc, List.nil_append, List.cons.injEq, true_and] at h
      obtain ⟨heq, hrest⟩ := joined_unique (fun _ => .mark) .brace .brace (hstop r) (hstop r')
        hdecides (.cons hx hxs) (.cons hy hys) (by simp) (by simp) h
      simp only [List.cons.injEq, true_and] at hrest
      exact ⟨heq, hrest⟩

end Lists

section Types

variable {c : StubScope} {params : List String} {t u elem : GoType} {cs ds r r' : List Char}

/-- A type is told by its text if its terms are. -/
theorem decides_of_terms (h : ∀ x ∈ t.terms, Decides (Reads c params) Ends x) :
    Decides (Reads c params) Ends t := by
  intro cs u ds r r' ht
  have hmem : t ∈ t.terms := by simp [GoType.terms_of_isUnion ht.single]
  exact h t hmem cs u ds r r' ht

theorem tag_unique {tag tag' : Option String} (htag : ∀ s ∈ tag, IsStringLiteral s)
    (htag' : ∀ s ∈ tag', IsStringLiteral s) (hr : EndsMember r) (hr' : EndsMember r')
    (h : tagChars tag ++ r = tagChars tag' ++ r') : tag = tag' ∧ r = r' := by
  have hmissing {s : String} {r rest : List Char} (hs : IsStringLiteral s) (hr : EndsMember r) :
      r ≠ ' ' :: (s.toList ++ rest) := by
    obtain ⟨q, qs, hqs, hq⟩ := hs.exists_quote
    rw [hqs]
    rintro rfl
    cases hr
    rcases hq with hq | hq <;> exact absurd hq (by decide)
  cases tag with
  | none =>
    cases tag' with
    | none => exact ⟨rfl, h⟩
    | some s => exact absurd h (hmissing (htag' s rfl) hr)
  | some s =>
    cases tag' with
    | none => exact absurd h.symm (hmissing (htag s rfl) hr')
    | some s' =>
      obtain ⟨rfl, hrest⟩ := (htag s rfl).unique (htag' s' rfl) (List.cons.inj h).2
      exact ⟨rfl, hrest⟩

theorem elem_unique (hdecides : ∀ x ∈ t.terms, Decides (Reads c params) Ends x)
    (h : ReadsElem c params t cs) (h' : ReadsElem c params u ds) (hr : EndsMember r)
    (hr' : EndsMember r') (heq : cs ++ r = ds ++ r') : t = u ∧ r = r' := by
  have hstop {r : List Char} (hr : EndsMember r) : ¬ [' ', '|', ' '] <+: r := by
    cases hr <;> simp
  have hne := h.terms_ne_nil
  have hne' := h'.terms_ne_nil
  obtain ⟨hseveral, css, hcss, rfl⟩ := h
  obtain ⟨hseveral', css', hcss', rfl⟩ := h'
  obtain ⟨hterms, hrest⟩ := joined_unique ends_bar hr.ends hr'.ends (hstop hr) (hstop hr') hdecides
    hcss hcss' hne hne' heq
  exact ⟨GoType.eq_of_terms_eq hseveral hseveral' hterms, hrest⟩

variable (hc : c.imports.Formed)
include hc

theorem kind_eq_of_append (ht : Reads c params t cs) (hu : Reads c params u ds) (hr : Ends r)
    (hr' : Ends r') (h : cs ++ r = ds ++ r') : t.kind = u.kind := by
  rw [← ht.kind_eq hc hr, h, hu.kind_eq hc hr']

/-- What may follow a type does not begin with a space and a type. -/
theorem ends_ne_space (hu : Reads c params u ds) (hr : Ends r) (hr' : Ends r') :
    r ≠ ' ' :: (ds ++ r') := by
  rintro rfl
  generalize htail : ds ++ r' = tail at hr
  cases hr with
  | mark h => exact absurd h (by decide)
  | space h => exact hu.ne_mark hc hr' (List.mem_append_right ['(', ')', ']', '.'] h) htail

/-- Types in brackets or parentheses. -/
theorem types_unique {close : Char} (hclose : close ∈ [')', ']']) {ts us : List GoType}
    {css dss : List (List Char)} (hdecides : ∀ t ∈ ts, Decides (Reads c params) Ends t)
    (hts : List.Forall₂ (Reads c params) ts css) (hus : List.Forall₂ (Reads c params) us dss)
    (h : joined [',', ' '] css ++ close :: r = joined [',', ' '] dss ++ close :: r') :
    ts = us ∧ r = r' := by
  have hcomma (r : List Char) : ¬ [',', ' '] <+: close :: r := by
    rintro ⟨rest, heq⟩
    obtain rfl : ',' = close := (List.cons.inj heq).1
    exact absurd hclose (by decide)
  have hmark : close ∈ [',', ')', ']', ';'] :=
    List.mem_cons_of_mem _ (List.mem_append_left [';'] hclose)
  have hstart : close ∈ ['(', ')', ']', '.', '\x7d', '|', '\x60', '"'] :=
    List.mem_cons_of_mem _ (List.mem_append_left ['.', '\x7d', '|', '\x60', '"'] hclose)
  exact closed_unique ends_comma (fun r => .mark hmark) hcomma
    (fun x cs r rest hx hr => hx.ne_mark hc hr hstart) hdecides hts hus h

theorem arguments_unique {args args' : List GoType} {css dss : List (List Char)}
    (hdecides : ∀ t ∈ args, Decides (Reads c params) Ends t)
    (hargs : List.Forall₂ (Reads c params) args css)
    (hargs' : List.Forall₂ (Reads c params) args' dss) (hr : Ends r) (hr' : Ends r')
    (h : argumentChars css ++ r = argumentChars dss ++ r') : args = args' ∧ r = r' := by
  have hbracket {r rest : List Char} (hr : Ends r) : r ≠ '[' :: rest := by
    rintro rfl
    exact absurd (hr.head_mem '[' rfl) (by decide)
  cases hargs with
  | nil =>
    cases hargs' with
    | nil => exact ⟨rfl, h⟩
    | cons => exact absurd h (hbracket hr)
  | cons ht hargs =>
    cases hargs' with
    | nil => exact absurd h.symm (hbracket hr')
    | cons hu hargs' =>
      simp only [argumentChars, List.isEmpty_cons, Bool.false_eq_true, if_false, List.cons_append,
        List.append_assoc, List.nil_append, List.cons.injEq, true_and] at h
      exact types_unique hc (by decide) hdecides (.cons ht hargs) (.cons hu hargs') h

theorem decides_name (ht : t.kind = .name)
    (hparts : ∀ part ∈ t.parts, Decides (Reads c params) Ends part) :
    Decides (Reads c params) Ends t := by
  intro cs u ds r r' h h' hr hr' heq
  have hu : u.kind = .name := (kind_eq_of_append hc h h' hr hr' heq).symm.trans ht
  obtain ⟨word, dot, args, css, hform, hargs, rfl⟩ := h.nameForm ht
  obtain ⟨word', dot', args', dss, hform', hargs', rfl⟩ := h'.nameForm hu
  obtain ⟨hstops, hdot⟩ := argumentChars_follows css hr
  obtain ⟨hstops', hdot'⟩ := argumentChars_follows dss hr'
  simp only [List.append_assoc] at heq
  obtain ⟨rfl, rfl, hafter⟩ := dotted_unique (hform.isWord hc) (hform'.isWord hc) hform.isWord_dot
    hform'.isWord_dot hstops hstops' hdot hdot' heq
  rw [hform.parts_eq] at hparts
  obtain ⟨rfl, hrest⟩ := arguments_unique hc hparts hargs hargs' hr hr' hafter
  exact ⟨hform.unique hc hform', hrest⟩

/-- A mark before a type. -/
theorem decides_prefixed {mark : List Char} {wrap : GoType → GoType}
    (hreads : ∀ elem cs, Reads c params (wrap elem) cs →
      ∃ ds, Reads c params elem ds ∧ cs = mark ++ ds)
    (hkind : ∀ u, u.kind = (wrap elem).kind → ∃ elem', u = wrap elem')
    (helem : Decides (Reads c params) Ends elem) : Decides (Reads c params) Ends (wrap elem) := by
  intro cs u ds r r' h h' hr hr' heq
  obtain ⟨elem', rfl⟩ := hkind u (kind_eq_of_append hc h h' hr hr' heq).symm
  obtain ⟨es, hes, rfl⟩ := hreads elem cs h
  obtain ⟨es', hes', rfl⟩ := hreads elem' ds h'
  rw [List.append_assoc, List.append_assoc] at heq
  obtain ⟨rfl, hrest⟩ := helem es elem' es' r r' hes hes' hr hr' (List.append_cancel_left heq)
  exact ⟨rfl, hrest⟩

theorem decides_array {length : ArrayLength} (helem : Decides (Reads c params) Ends elem) :
    Decides (Reads c params) Ends (.array length elem) := by
  intro cs u ds r r' h h' hr hr' heq
  have hkind := kind_eq_of_append hc h h' hr hr' heq
  cases u with
  | array length' elem' =>
    obtain ⟨word, dot, es, hlength, hes, rfl⟩ := h.array
    obtain ⟨word', dot', es', hlength', hes', rfl⟩ := h'.array
    obtain ⟨hw, hd⟩ := hlength.isWord hc
    obtain ⟨hw', hd'⟩ := hlength'.isWord hc
    simp only [List.cons_append, List.append_assoc, List.cons.injEq, true_and] at heq
    obtain ⟨rfl, rfl, hafter⟩ := dotted_unique hw hw' hd hd' (stops_cons (by decide))
      (stops_cons (by decide)) (by simp) (by simp) heq
    obtain ⟨rfl, hrest⟩ := helem es elem' es' r r' hes hes' hr hr' (List.cons.inj hafter).2
    exact ⟨by rw [hlength.unique hc hlength'], hrest⟩
  | chan direction elem' => cases direction <;> cases hkind
  | _ => cases hkind

theorem decides_map {key value : GoType} (hkey : Decides (Reads c params) Ends key)
    (hvalue : Decides (Reads c params) Ends value) :
    Decides (Reads c params) Ends (.map key value) := by
  intro cs u ds r r' h h' hr hr' heq
  have hkind := kind_eq_of_append hc h h' hr hr' heq
  have hclose (r : List Char) : Ends (']' :: r) := .mark (by decide)
  cases u with
  | map key' value' =>
    obtain ⟨ks, vs, hks, hvs, rfl⟩ := h.map
    obtain ⟨ks', vs', hks', hvs', rfl⟩ := h'.map
    simp only [List.cons_append, List.append_assoc] at heq
    have hopen := (List.cons.inj (List.append_cancel_left heq)).2
    obtain ⟨rfl, hafter⟩ := hkey ks key' ks' _ _ hks hks' (hclose _) (hclose _) hopen
    obtain ⟨rfl, hrest⟩ := hvalue vs value' vs' r r' hvs hvs' hr hr' (List.cons.inj hafter).2
    exact ⟨rfl, hrest⟩
  | chan direction elem' => cases direction <;> cases hkind
  | _ => cases hkind

theorem decides_chan {direction : Direction} (helem : Decides (Reads c params) Ends elem) :
    Decides (Reads c params) Ends (.chan direction elem) := by
  intro cs u ds r r' h h' hr hr' heq
  have hkind := kind_eq_of_append hc h h' hr hr' heq
  have hclose (r : List Char) : Ends (')' :: r) := .mark (by decide)
  cases u with
  | chan direction' elem' =>
    obtain rfl := direction_eq_of_kind hkind
    obtain ⟨es, hes, rfl⟩ := h.chan
    obtain ⟨es', hes', rfl⟩ := h'.chan
    rw [List.append_assoc, List.append_assoc] at heq
    have hinner := List.append_cancel_left heq
    -- no type begins with a parenthesis, so both elements are in parentheses or none is
    split at hinner <;> split at hinner
    · simp only [List.cons_append, List.append_assoc, List.nil_append, List.cons.injEq, true_and]
        at hinner
      obtain ⟨rfl, hafter⟩ := helem es elem' es' _ _ hes hes' (hclose r) (hclose r') hinner
      exact ⟨rfl, (List.cons.inj hafter).2⟩
    · exact absurd hinner.symm (hes'.ne_mark hc hr' (by decide))
    · exact absurd hinner (hes.ne_mark hc hr (by decide))
    · obtain ⟨rfl, hrest⟩ := helem es elem' es' r r' hes hes' hr hr' hinner
      exact ⟨rfl, hrest⟩
  | _ => cases direction <;> cases hkind

theorem ReadsParam.ne_close {p : Bool × GoType} {rest : List Char} (h : ReadsParam c params p cs)
    (hr : Ends r) : cs ++ r ≠ ')' :: rest := by
  obtain ⟨ds, hds, rfl⟩ := h
  split
  · simp
  · exact hds.ne_mark hc hr (by decide)

theorem decides_param {p : Bool × GoType} (h : Decides (Reads c params) Ends p.2) :
    Decides (ReadsParam c params) Ends p := by
  have hdots {ds r ds' r' : List Char} {u : GoType} (hu : Reads c params u ds') (hr' : Ends r') :
      "...".toList ++ ds ++ r ≠ ds' ++ r' := fun heq => hu.ne_mark hc hr' (by decide) heq.symm
  obtain ⟨variadic, t⟩ := p
  rintro cs ⟨variadic', u⟩ ds r r' ⟨es, hes, rfl⟩ ⟨es', hes', rfl⟩ hr hr' heq
  cases variadic with
  | true =>
    cases variadic' with
    | true =>
      simp only [if_true, List.append_assoc] at heq
      obtain ⟨rfl, hrest⟩ := h es u es' r r' hes hes' hr hr' (List.append_cancel_left heq)
      exact ⟨rfl, hrest⟩
    | false => exact absurd heq (hdots hes' hr')
  | false =>
    cases variadic' with
    | true => exact absurd heq.symm (hdots hes hr)
    | false =>
      obtain ⟨rfl, hrest⟩ := h es u es' r r' hes hes' hr hr' heq
      exact ⟨rfl, hrest⟩

/-- What may follow a signature does not begin like results. -/
theorem ends_ne_results {ts : List GoType} {css : List (List Char)}
    (hts : List.Forall₂ (Reads c params) ts css) (hne : ts ≠ []) (hr : Ends r) (hr' : Ends r') :
    r ≠ resultChars css ++ r' := by
  cases hts with
  | nil => exact absurd rfl hne
  | cons ht hts =>
    cases hts with
    | nil => exact ends_ne_space hc ht hr hr'
    | cons =>
      rintro rfl
      cases hr with
      | mark h => exact absurd h (by decide)
      | space h => exact absurd h (by decide)

theorem results_unique {ts us : List GoType} {css dss : List (List Char)}
    (hdecides : ∀ t ∈ ts, Decides (Reads c params) Ends t)
    (hts : List.Forall₂ (Reads c params) ts css) (hus : List.Forall₂ (Reads c params) us dss)
    (hr : Ends r) (hr' : Ends r') (h : resultChars css ++ r = resultChars dss ++ r') :
    ts = us ∧ r = r' := by
  -- one result stands without parentheses, and no type begins with one
  have hparen {t : GoType} {cs r rest : List Char} (ht : Reads c params t cs) (hr : Ends r)
      (h : ' ' :: (cs ++ r) = ' ' :: '(' :: rest) : False :=
    ht.ne_mark hc hr (by decide) (List.cons.inj h).2
  cases hts with
  | nil =>
    cases hus with
    | nil => exact ⟨rfl, h⟩
    | cons hu hus => exact absurd h (ends_ne_results hc (.cons hu hus) (by simp) hr hr')
  | cons ht hts =>
    cases hus with
    | nil => exact absurd h.symm (ends_ne_results hc (.cons ht hts) (by simp) hr' hr)
    | cons hu hus =>
      cases hts with
      | nil =>
        cases hus with
        | nil =>
          obtain ⟨rfl, hrest⟩ := hdecides _ List.mem_cons_self _ _ _ r r' ht hu hr hr'
            (List.cons.inj h).2
          exact ⟨rfl, hrest⟩
        | cons => exact (hparen ht hr h).elim
      | cons ht' hts =>
        cases hus with
        | nil => exact (hparen hu hr' h.symm).elim
        | cons hu' hus =>
          simp only [resultChars, List.cons_append, List.append_assoc, List.nil_append,
            List.cons.injEq, true_and] at h
          exact types_unique hc (by decide) hdecides (.cons ht (.cons ht' hts))
            (.cons hu (.cons hu' hus)) h

theorem signature_unique {s s' : Signature}
    (hdecides : ∀ t ∈ s.types, Decides (Reads c params) Ends t) (h : ReadsSignature c params s cs)
    (h' : ReadsSignature c params s' ds) (hr : Ends r) (hr' : Ends r') (heq : cs ++ r = ds ++ r') :
    s = s' ∧ r = r' := by
  obtain ⟨hvariadic, pss, rss, hps, hrs, rfl⟩ := h
  obtain ⟨hvariadic', pss', rss', hps', hrs', rfl⟩ := h'
  have hmarks : ∀ p ∈ marked s.variadic s.params, Decides (ReadsParam c params) Ends p := by
    intro p hp
    exact decides_param hc (hdecides p.2 (List.mem_append_left _ (mem_of_mem_marked hp)))
  simp only [List.cons_append, List.append_assoc, List.cons.injEq, true_and] at heq
  obtain ⟨hmarked, hafter⟩ := closed_unique ends_comma (fun r => .mark (by decide)) (by simp)
    (fun p cs r rest hp hr => hp.ne_close hc hr) hmarks hps hps' heq
  obtain ⟨hresults, hrest⟩ := results_unique hc
    (fun t ht => hdecides t (List.mem_append_right _ ht)) hrs hrs' hr hr' hafter
  obtain ⟨hparams, hlast⟩ := marked_inj hmarked
  -- without a parameter no mark is printed, but then neither signature is variadic
  have hflag : s.variadic = s'.variadic := by
    by_cases hnil : s.params = []
    · have hfalse : s.variadic = false := by simpa using fun h => hvariadic h hnil
      have hfalse' : s'.variadic = false := by simpa using fun h => hvariadic' h (hparams ▸ hnil)
      rw [hfalse, hfalse']
    · exact hlast hnil
  cases s
  cases s'
  cases hparams
  cases hflag
  cases hresults
  exact ⟨rfl, hrest⟩

theorem decides_func {signature : Signature}
    (hdecides : ∀ t ∈ signature.types, Decides (Reads c params) Ends t) :
    Decides (Reads c params) Ends (.func signature) := by
  intro cs u ds r r' h h' hr hr' heq
  have hkind := kind_eq_of_append hc h h' hr hr' heq
  cases u with
  | func signature' =>
    obtain ⟨ss, hss, rfl⟩ := h.func
    obtain ⟨ss', hss', rfl⟩ := h'.func
    rw [List.append_assoc, List.append_assoc] at heq
    obtain ⟨rfl, hrest⟩ := signature_unique hc hdecides hss hss' hr hr'
      (List.append_cancel_left heq)
    exact ⟨rfl, hrest⟩
  | chan direction elem => cases direction <;> cases hkind
  | _ => cases hkind

/-- After the word of a name comes a dot, a bracket or what follows the name. -/
theorem Reads.after_word {word : String} {m : Char} {rest : List Char} (h : Reads c params t cs)
    (ht : t.kind = .name) (hr : Ends r) (hw : IsWord word) (hm : Name.isNameChar m = false)
    (heq : cs ++ r = word.toList ++ m :: rest) : m = '.' ∨ m = '[' ∨ r = m :: rest := by
  obtain ⟨word', dot, args, css, hform, -, rfl⟩ := h.nameForm ht
  obtain ⟨hstops, -⟩ := argumentChars_follows css hr
  rw [List.append_assoc, List.append_assoc] at heq
  cases dot with
  | none =>
    obtain ⟨-, hafter⟩ := (hform.isWord hc).unique hw hstops (stops_cons hm) heq
    cases css with
    | nil => exact Or.inr (Or.inr hafter)
    | cons => exact Or.inr (Or.inl (List.cons.inj hafter).1.symm)
  | some name =>
    have hdot : Stops (dotChars (some name) ++ (argumentChars css ++ r)) := stops_cons (by decide)
    obtain ⟨-, hafter⟩ := (hform.isWord hc).unique hw hdot (stops_cons hm) heq
    exact Or.inl (List.cons.inj hafter).1.symm

/-- The text of a type that can be embedded is not the name and the type of a field. -/
theorem embedded_ne_named {name : String} (ht : Reads c params t cs)
    (hembedded : t.embeddedAs.isSome) (hname : IsWord name) (hu : Reads c params u ds)
    (hr : Ends r) (hr' : Ends r') : cs ++ r ≠ name.toList ++ ' ' :: (ds ++ r') := by
  intro heq
  have hnot (hkind : t.kind = .name) : False := by
    rcases ht.after_word hc hkind hr hname (by decide) heq with h | h | h
    · exact absurd h (by decide)
    · exact absurd h (by decide)
    · exact ends_ne_space hc hu hr hr' h
  cases t with
  | builtin | named => exact hnot rfl
  | pointer elem =>
    obtain ⟨es, -, rfl⟩ := ht.pointer
    obtain ⟨m, ms, hchars, hm⟩ := hname.exists_cons
    rw [hchars] at heq
    obtain rfl : '*' = m := (List.cons.inj heq).1
    exact absurd hm (by decide)
  | _ => cases hembedded

theorem decides_field {f : Field} (htype : Decides (Reads c params) Ends f.type) :
    Decides (ReadsField c params) EndsMember f := by
  intro cs g ds r r' h h' hr hr' heq
  obtain ⟨⟨-, hname, htag⟩, es, hes, rfl⟩ := h
  obtain ⟨⟨-, hname', htag'⟩, es', hes', rfl⟩ := h'
  have hend := ends_tag htag hr
  have hend' := ends_tag htag' hr'
  obtain ⟨name, t, embedded, tag⟩ := f
  obtain ⟨name', u, embedded', tag'⟩ := g
  have htypes (h : es ++ (tagChars tag ++ r) = es' ++ (tagChars tag' ++ r')) :
      t = u ∧ tag = tag' ∧ r = r' := by
    obtain ⟨rfl, hafter⟩ := htype es u es' _ _ hes hes' hend hend' h
    exact ⟨rfl, tag_unique htag htag' hr hr' hafter⟩
  cases embedded with
  | true =>
    cases embedded' with
    | true =>
      rw [List.append_assoc, List.append_assoc] at heq
      obtain ⟨rfl, rfl, hrest⟩ := htypes heq
      obtain rfl : name = name' := Option.some.inj (hname.symm.trans hname')
      exact ⟨rfl, hrest⟩
    | false =>
      simp only [if_true, Bool.false_eq_true, if_false, List.append_assoc, List.cons_append] at heq
      exact absurd heq
        (embedded_ne_named hc hes (Option.isSome_of_eq_some hname) hname' hes' hend hend')
  | false =>
    cases embedded' with
    | true =>
      simp only [if_true, Bool.false_eq_true, if_false, List.append_assoc, List.cons_append] at heq
      exact absurd heq.symm
        (embedded_ne_named hc hes' (Option.isSome_of_eq_some hname') hname hes hend' hend)
    | false =>
      simp only [Bool.false_eq_true, if_false, List.append_assoc, List.cons_append] at heq
      obtain ⟨rfl, hafter⟩ := IsWord.unique hname hname' (stops_cons (by decide))
        (stops_cons (by decide)) heq
      obtain ⟨rfl, rfl, hrest⟩ := htypes (List.cons.inj hafter).2
      exact ⟨rfl, hrest⟩

theorem decides_struct {fields : List Field}
    (hdecides : ∀ f ∈ fields, Decides (Reads c params) Ends f.type) :
    Decides (Reads c params) Ends (.struct fields) := by
  intro cs u ds r r' h h' hr hr' heq
  have hkind := kind_eq_of_append hc h h' hr hr' heq
  cases u with
  | struct fields' =>
    obtain ⟨css, hcss, rfl⟩ := h.struct
    obtain ⟨css', hcss', rfl⟩ := h'.struct
    rw [List.append_assoc, List.append_assoc] at heq
    obtain ⟨rfl, hrest⟩ := members_unique (fun f hf => decides_field hc (hdecides f hf)) hcss hcss'
      (List.append_cancel_left heq)
    exact ⟨rfl, hrest⟩
  | chan direction elem => cases direction <;> cases hkind
  | _ => cases hkind

/-- The text of a method is no text of a type. -/
theorem method_ne_elem {name : String} {rest : List Char} (hname : IsName name)
    (h : ReadsElem c params t cs) (hr : EndsMember r) :
    cs ++ r ≠ name.toList ++ '(' :: rest := by
  intro heq
  have hne := h.terms_ne_nil
  obtain ⟨-, css, hcss, rfl⟩ := h
  generalize t.terms = terms at hcss hne
  cases hcss with
  | nil => exact hne rfl
  | @cons x ds terms css hx hcss =>
    obtain ⟨after, hafter, hjoined⟩ := joined_cons_append ends_bar hr.ends ds css
    rw [hjoined] at heq
    have hkind := hx.kind_eq hc hafter
    rw [heq, Kind.ofChars_word hname.1 (stops_cons (by decide)), Kind.ofWord_name hname.2] at hkind
    rcases hx.after_word hc hkind.symm hafter hname.1 (by decide) heq with h | h | rfl
    · exact absurd h (by decide)
    · exact absurd h (by decide)
    · exact absurd (hafter.head_mem '(' rfl) (by decide)

theorem method_unique {m m' : Method} {ss ss' : List Char}
    (hdecides : ∀ t ∈ m.signature.types, Decides (Reads c params) Ends t) (hname : IsWord m.name)
    (hname' : IsWord m'.name) (hss : ReadsSignature c params m.signature ss)
    (hss' : ReadsSignature c params m'.signature ss') (hr : Ends r) (hr' : Ends r')
    (heq : m.name.toList ++ (ss ++ r) = m'.name.toList ++ (ss' ++ r')) : m = m' ∧ r = r' := by
  have hstops {s : Signature} {ss r : List Char} (h : ReadsSignature c params s ss) :
      Stops (ss ++ r) := by
    obtain ⟨ds, rfl⟩ := h.exists_cons
    exact stops_cons (by decide)
  obtain ⟨hnames, hafter⟩ := hname.unique hname' (hstops hss) (hstops hss') heq
  obtain ⟨hsignatures, hrest⟩ := signature_unique hc hdecides hss hss' hr hr' hafter
  cases m
  cases m'
  cases hnames
  cases hsignatures
  exact ⟨rfl, hrest⟩

theorem decides_member {m : Member} (hdecides : ∀ t ∈ m.types, Decides (Reads c params) Ends t) :
    Decides (ReadsMember c params) EndsMember m := by
  intro cs m' ds r r' h h' hr hr' heq
  have hmethod {m : Method} {t : GoType} {ss ds r r' : List Char} (hname : IsName m.name)
      (hss : ReadsSignature c params m.signature ss) (ht : ReadsElem c params t ds)
      (hr' : EndsMember r') (heq : m.name.toList ++ ss ++ r = ds ++ r') : False := by
    obtain ⟨es, rfl⟩ := hss.exists_cons
    rw [List.append_assoc, List.cons_append] at heq
    exact method_ne_elem hc hname ht hr' heq.symm
  cases m with
  | embedded t =>
    obtain ⟨hembeddable, ht⟩ := h
    cases m' with
    | embedded u =>
      obtain ⟨rfl, hrest⟩ := elem_unique hdecides ht h'.2 hr hr' heq
      exact ⟨rfl, hrest⟩
    | method m' =>
      obtain ⟨hname, ss, hss, rfl⟩ := h'
      exact (hmethod hname hss ht hr heq.symm).elim
    | typeSet u =>
      obtain ⟨rfl, -⟩ := elem_unique hdecides ht h'.2 hr hr' heq
      cases hembeddable.symm.trans h'.1
  | method m =>
    obtain ⟨hname, ss, hss, rfl⟩ := h
    cases m' with
    | embedded u => exact (hmethod hname hss h'.2 hr' heq).elim
    | method m' =>
      obtain ⟨hname', ss', hss', rfl⟩ := h'
      rw [List.append_assoc, List.append_assoc] at heq
      obtain ⟨rfl, hrest⟩ := method_unique hc hdecides hname.1 hname'.1 hss hss' hr.ends hr'.ends
        heq
      exact ⟨rfl, hrest⟩
    | typeSet u => exact (hmethod hname hss h'.2 hr' heq).elim
  | typeSet t =>
    obtain ⟨hembeddable, ht⟩ := h
    cases m' with
    | embedded u =>
      obtain ⟨rfl, -⟩ := elem_unique hdecides ht h'.2 hr hr' heq
      cases hembeddable.symm.trans h'.1
    | method m' =>
      obtain ⟨hname, ss, hss, rfl⟩ := h'
      exact (hmethod hname hss ht hr heq.symm).elim
    | typeSet u =>
      obtain ⟨rfl, hrest⟩ := elem_unique hdecides ht h'.2 hr hr' heq
      exact ⟨rfl, hrest⟩

theorem decides_interface {body : InterfaceBody}
    (hdecides : ∀ t ∈ body.types, ∀ x ∈ t.terms, Decides (Reads c params) Ends x) :
    Decides (Reads c params) Ends (.interface body) := by
  have hmembers : ∀ m ∈ body.members, Decides (ReadsMember c params) EndsMember m := by
    intro m hm
    apply decides_member hc
    simp only [InterfaceBody.members, List.mem_append, List.mem_map] at hm
    simp only [InterfaceBody.types, List.mem_append, List.mem_flatMap] at hdecides
    rcases hm with (⟨t, ht, rfl⟩ | ⟨m, hm, rfl⟩) | ⟨t, ht, rfl⟩
    · exact hdecides t (Or.inr (Or.inl ht))
    · exact fun t ht => decides_of_terms (hdecides t (Or.inl ⟨m, hm, ht⟩))
    · exact hdecides t (Or.inr (Or.inr ht))
  intro cs u ds r r' h h' hr hr' heq
  have hkind := kind_eq_of_append hc h h' hr hr' heq
  cases u with
  | interface body' =>
    obtain ⟨css, hcss, rfl⟩ := h.interface
    obtain ⟨css', hcss', rfl⟩ := h'.interface
    rw [List.append_assoc, List.append_assoc] at heq
    obtain ⟨hbodies, hrest⟩ := members_unique hmembers hcss hcss' (List.append_cancel_left heq)
    exact ⟨by rw [InterfaceBody.members_inj hbodies], hrest⟩
  | chan direction elem => cases direction <;> cases hkind
  | _ => cases hkind

/-- The terms of a type are told by their texts, by induction on the parts of the type. -/
theorem decides_terms (t : GoType) : ∀ x ∈ t.terms, Decides (Reads c params) Ends x := by
  induction t using GoType.inductionOnParts with
  | step t ih =>
    have hparts (part : GoType) (hp : part ∈ t.parts) : Decides (Reads c params) Ends part :=
      decides_of_terms (ih part hp)
    cases t with
    -- a union is no term itself, and its parts are its terms
    | union terms => exact hparts
    | builtin | param | named =>
      exact List.forall_mem_singleton.mpr (decides_name hc rfl hparts)
    | pointer elem =>
      exact List.forall_mem_singleton.mpr (decides_prefixed hc (fun _ _ h => h.pointer)
        (fun u => u.prefixed_of_kind.1) (hparts elem List.mem_cons_self))
    | slice elem =>
      exact List.forall_mem_singleton.mpr (decides_prefixed hc (fun _ _ h => h.slice)
        (fun u => u.prefixed_of_kind.2.1) (hparts elem List.mem_cons_self))
    | tilde elem =>
      exact List.forall_mem_singleton.mpr (decides_prefixed hc (fun _ _ h => h.tilde)
        (fun u => u.prefixed_of_kind.2.2) (hparts elem List.mem_cons_self))
    | array length elem =>
      exact List.forall_mem_singleton.mpr (decides_array hc (hparts elem List.mem_cons_self))
    | map key value =>
      exact List.forall_mem_singleton.mpr (decides_map hc (hparts key (by simp [GoType.parts]))
        (hparts value (by simp [GoType.parts])))
    | chan direction elem =>
      exact List.forall_mem_singleton.mpr (decides_chan hc (hparts elem List.mem_cons_self))
    | func signature => exact List.forall_mem_singleton.mpr (decides_func hc hparts)
    | struct fields =>
      refine List.forall_mem_singleton.mpr (decides_struct hc fun f hf => ?_)
      exact hparts f.type (List.mem_map_of_mem hf)
    | interface body => exact List.forall_mem_singleton.mpr (decides_interface hc ih)
    | unsupported reason =>
      refine List.forall_mem_singleton.mpr fun cs u ds r r' h => ?_
      exact absurd rfl h.kind_ne_other

/-- Types of the form that types have in a Go source are the same if the same text is printed for
them, where the local names of imports are words and each stands for one package. -/
theorem GoType.eq_of_text_eq {f g : Fragment} (ht : t.Formed c params) (hu : u.Formed c params)
    (hf : t.text c = .ok f) (hg : u.text c = .ok g) (h : f.text = g.text) : t = u := by
  have htext : f.text.toList ++ [] = g.text.toList ++ [] := by rw [h]
  exact (elem_unique (decides_terms hc t) (readsElem ht hf) (readsElem hu hg) .finish .finish
    htext).1

end Types

def feedScope : StubScope where
  package := "example.com/feed"
  declared := []
  imports := ImportTable.empty.insert "example.com/queue" none

/-- `func(chan (<-chan T), ...*queue.Key) (error, struct { queue.Key; size [8]int })` -/
def feedType : GoType :=
  .func {
    params := [.chan .both (.chan .receive (.param "T")),
      .pointer (.plain "example.com/queue" "Key")]
    variadic := true
    results := [.builtin "error", .struct [
      { name := "Key", type := .plain "example.com/queue" "Key", embedded := true, tag := none },
      { name := "size", type := .array (.literal "8") (.builtin "int"), embedded := false,
        tag := none }]] }

theorem feedScope_imports_formed : feedScope.imports.Formed where
  word := by
    intro path name h
    have hwords : ∀ name ∈ feedScope.imports.names.values, IsWord name := by decide +kernel
    exact hwords name (ImportTable.mem_values_of_localName? h)
  distinct := ImportTable.distinct_empty.insert _ _

theorem feedType_formed : feedType.Formed feedScope ["T"] := by
  have hbuiltin (name : String) (h : Name.isPredeclared name = true) :
      (GoType.builtin name).Formed feedScope ["T"] :=
    GoType.formed_iff.mpr ⟨h, List.forall_mem_nil _⟩
  have hparam : (GoType.param "T").Formed feedScope ["T"] :=
    GoType.formed_iff.mpr ⟨⟨by decide, by decide, by decide⟩, List.forall_mem_nil _⟩
  have hkey : (GoType.plain "example.com/queue" "Key").Formed feedScope ["T"] :=
    GoType.formed_iff.mpr ⟨⟨by decide, by simp [feedScope], by simp⟩, List.forall_mem_nil _⟩
  have hone {t elem : GoType} (h : t.FormedHere feedScope ["T"]) (hparts : t.parts = [elem])
      (helem : elem.Formed feedScope ["T"]) : t.Formed feedScope ["T"] :=
    GoType.formed_iff.mpr ⟨h, hparts ▸ List.forall_mem_singleton.mpr helem⟩
  have hchan : (GoType.chan .both (.chan .receive (.param "T"))).Formed feedScope ["T"] :=
    hone rfl rfl (hone rfl rfl hparam)
  have hpointer : (GoType.pointer (.plain "example.com/queue" "Key")).Formed feedScope ["T"] :=
    hone rfl rfl hkey
  have harray : (GoType.array (.literal "8") (.builtin "int")).Formed feedScope ["T"] :=
    hone ⟨show IsWord "8" by decide, rfl⟩ rfl (hbuiltin "int" (by decide))
  have hstruct : (GoType.struct [⟨"Key", .plain "example.com/queue" "Key", true, none⟩,
      ⟨"size", .array (.literal "8") (.builtin "int"), false, none⟩]).Formed feedScope ["T"] := by
    refine GoType.formed_iff.mpr ⟨?_, by simpa [GoType.parts] using ⟨hkey, harray⟩⟩
    refine List.forall_mem_cons.mpr ⟨⟨rfl, rfl, by simp⟩, List.forall_mem_singleton.mpr ?_⟩
    exact ⟨rfl, by decide, by simp⟩
  refine GoType.formed_iff.mpr ⟨⟨by decide, by simp⟩, ?_⟩
  simpa [feedType, GoType.parts, Signature.types] using
    ⟨hchan, hpointer, hbuiltin "error" (by decide), hstruct⟩

/-- No other type is printed like this one. -/
theorem feedType_told_by_text : feedType.Formed feedScope ["T"] ∧
    ∃ f, feedType.text feedScope = .ok f ∧
      f.text = "func(chan (<-chan T), ...*queue.Key) " ++
        "(error, struct\x7b queue.Key; size [8]int \x7d)" ∧
      ∀ u g, u.Formed feedScope ["T"] → u.text feedScope = .ok g → g.text = f.text →
        u = feedType := by
  refine ⟨feedType_formed, _, rfl, by decide +kernel, fun u g hu hg h => ?_⟩
  exact GoType.eq_of_text_eq feedScope_imports_formed hu feedType_formed hg rfl h

end GoStub
