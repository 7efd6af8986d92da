import GoStub.Output.License
import GoStub.Proofs.Files
import GoStub.Proofs.Settle
import Mathlib.Data.List.Induction
import Mathlib.Data.List.Nodup

/-! How a tree of files changes. A path leads to the same place in every tree where it leads
anywhere, and creating directories, writing files and copying them leaves all as it was except for
new directories and the places that are written. -/

namespace GoStub

namespace Text

theorem not_mem_of_mem_split {sep : Char} {cs piece : List Char} (h : piece ∈ split sep cs) :
    sep ∉ piece := by
  induction cs generalizing piece with
  | nil => simp_all [split]
  | cons c cs ih =>
    rw [split] at h
    split at h
    · rcases List.mem_cons.mp h with rfl | h
      · exact List.not_mem_nil
      · exact ih h
    next hc =>
      cases hcs : split sep cs with
      | nil => exact absurd hcs (split_ne_nil sep cs)
      | cons first rest =>
        rw [hcs] at h ih
        rcases List.mem_cons.mp h with rfl | h
        · have hfirst := ih List.mem_cons_self
          simp [hfirst, Ne.symm hc]
        · exact ih (List.mem_cons_of_mem first h)

theorem mem_of_mem_split {sep c : Char} {cs piece : List Char} (h : piece ∈ split sep cs)
    (hc : c ∈ piece) : c ∈ cs := by
  induction cs generalizing piece with
  | nil =>
    obtain rfl := List.mem_singleton.mp h
    exact hc
  | cons first cs ih =>
    rw [split] at h
    split at h
    · rcases List.mem_cons.mp h with rfl | h
      · cases hc
      · exact List.mem_cons_of_mem first (ih h hc)
    next =>
      cases hcs : split sep cs with
      | nil => exact absurd hcs (split_ne_nil sep cs)
      | cons head rest =>
        rw [hcs] at h ih
        rcases List.mem_cons.mp h with rfl | h
        · rcases List.mem_cons.mp hc with rfl | hc
          · exact List.mem_cons_self
          · exact List.mem_cons_of_mem first (ih List.mem_cons_self hc)
        · exact List.mem_cons_of_mem first (ih (List.mem_cons_of_mem head h) hc)

theorem split_of_not_mem {sep : Char} {cs : List Char} (h : sep ∉ cs) : split sep cs = [cs] := by
  induction cs with
  | nil => rfl
  | cons c cs ih =>
    obtain ⟨hc, hcs⟩ := not_or.mp (mt List.mem_cons.mpr h)
    rw [split, if_neg (Ne.symm hc), ih hcs]

/-- What is neither in the separator nor in a text is not in the texts joined. -/
theorem not_mem_joinWith {c : Char} {sep : String} {texts : List String} (hsep : c ∉ sep.toList)
    (h : ∀ s ∈ texts, c ∉ s.toList) : c ∉ (joinWith sep texts).toList := by
  induction texts with
  | nil => simp [joinWith]
  | cons s texts ih =>
    obtain ⟨hs, htexts⟩ := List.forall_mem_cons.mp h
    cases texts with
    | nil => exact hs
    | cons t texts => simpa [joinWith, hs, hsep] using ih htexts

/-- Joining names and splitting the text again gives the names. -/
theorem splitText_joinWith_of {sep : Char} {mark : String} (hmark : mark.toList = [sep])
    {names : List String} (hne : names ≠ []) (h : ∀ name ∈ names, sep ∉ name.toList) :
    splitText sep (joinWith mark names) = names := by
  induction names with
  | nil => exact absurd rfl hne
  | cons name rest ih =>
    have hname := split_of_not_mem (h name List.mem_cons_self)
    cases rest with
    | nil => simp [joinWith, splitText, hname]
    | cons next rest =>
      have hrest := ih (List.cons_ne_nil next rest) fun n hn => h n (List.mem_cons_of_mem name hn)
      have htext : (joinWith mark (name :: next :: rest)).toList =
          name.toList ++ sep :: (joinWith mark (next :: rest)).toList := by
        simp [joinWith, hmark]
      rw [splitText, htext, split_append, hname, List.map_append, ← splitText, hrest]
      simp

theorem splitText_joinWith {names : List String} (hne : names ≠ [])
    (h : ∀ name ∈ names, '/' ∉ name.toList) : splitText '/' (joinWith "/" names) = names :=
  splitText_joinWith_of (by simp) hne h

theorem joinWith_splitText (s : String) : joinWith "/" (splitText '/' s) = s := by
  have hsplit (cs : List Char) :
      joinWith "/" ((split '/' cs).map String.ofList) = String.ofList cs := by
    induction cs with
    | nil => rfl
    | cons c cs ih =>
      rw [split]
      split
      next hc =>
        cases hcs : split '/' cs with
        | nil => exact absurd hcs (split_ne_nil '/' cs)
        | cons first rest =>
          rw [hcs] at ih
          simp only [List.map_cons, joinWith] at ih ⊢
          rw [ih, hc]
          apply String.toList_inj.mp
          simp
      next =>
        cases hcs : split '/' cs with
        | nil => exact absurd hcs (split_ne_nil '/' cs)
        | cons first rest =>
          rw [hcs] at ih
          cases rest with
          | nil =>
            simp only [List.map_cons, List.map_nil, joinWith] at ih ⊢
            rw [String.ofList_inj.mp ih]
          | cons next rest =>
            simp only [List.map_cons, joinWith] at ih ⊢
            rw [String.ofList_cons, String.ofList_cons, ← ih]
            simp only [String.append_assoc]
  rw [splitText, hsplit, String.ofList_toList]

end Text

/-- A name that an entry of a directory can have. -/
structure IsEntryName (name : String) : Prop where
  notEmpty : name ≠ ""
  notDot : name ≠ "."
  notUp : name ≠ ".."
  noSlash : '/' ∉ name.toList
  noNul : '\x00' ∉ name.toList

instance (name : String) : Decidable (IsEntryName name) :=
  decidable_of_iff (name ≠ "" ∧ name ≠ "." ∧ name ≠ ".." ∧ '/' ∉ name.toList ∧
      '\x00' ∉ name.toList)
    ⟨fun ⟨h₁, h₂, h₃, h₄, h₅⟩ => ⟨h₁, h₂, h₃, h₄, h₅⟩,
      fun ⟨h₁, h₂, h₃, h₄, h₅⟩ => ⟨h₁, h₂, h₃, h₄, h₅⟩⟩

namespace Path

theorem not_mem_of_mem_pieces {p : Path} {piece : String} (h : piece ∈ p.pieces) :
    '/' ∉ piece.toList := by
  obtain ⟨cs, hcs, rfl⟩ := List.mem_map.mp h
  rw [String.toList_ofList]
  exact Text.not_mem_of_mem_split hcs

theorem isIdle_eq_false_iff {piece : String} : isIdle piece = false ↔ piece ≠ "" ∧ piece ≠ "." := by
  simp [isIdle]

theorem pieces_of_not_mem {name : String} (h : '/' ∉ name.toList) : pieces ⟨name⟩ = [name] := by
  simp [pieces, Text.splitText, Text.split_of_not_mem h]

theorem isAbsolute_of_not_mem {name : String} (h : '/' ∉ name.toList) :
    isAbsolute ⟨name⟩ = false := by
  cases hname : name.toList with
  | nil => simp [isAbsolute, hname, Text.startsWith, Text.dropPrefix?]
  | cons c cs =>
    have hc : ¬ '/' = c := fun heq => h (hname ▸ heq ▸ List.mem_cons_self)
    simp [isAbsolute, hname, Text.startsWith, Text.dropPrefix?, hc]

/-- A name at the end of a path is its last piece. -/
theorem exists_pieces_join {p : Path} {name : String} (h : '/' ∉ name.toList) :
    ∃ front, (p / name).pieces = front ++ [name] := by
  obtain ⟨text⟩ := p
  have hjoin : (⟨text⟩ : Path) / name = join ⟨text⟩ ⟨name⟩ := rfl
  rw [hjoin, join, isAbsolute_of_not_mem h, if_neg Bool.false_ne_true]
  have hslash (cs : List Char) (s : String) (hs : s.toList = cs ++ '/' :: name.toList) :
      pieces ⟨s⟩ = (Text.split '/' cs).map String.ofList ++ [name] := by
    simp [pieces, Text.splitText, hs, Text.split_append, Text.split_of_not_mem h]
  split
  next hp =>
    rcases Bool.or_eq_true_iff.mp hp with hp | hp
    · obtain rfl : text = "" := of_decide_eq_true hp
      exact ⟨[], by simp [pieces_of_not_mem h]⟩
    · obtain ⟨cs, hcs⟩ := Text.exists_append_of_endsWith hp
      exact ⟨_, hslash cs _ (by simp_all)⟩
  next => exact ⟨_, hslash text.toList _ (by simp)⟩

theorem steps_of_entryName {name : String} (h : IsEntryName name) : steps ⟨name⟩ = [name] := by
  simp [steps, pieces_of_not_mem h.noSlash, isIdle_eq_false_iff.mpr ⟨h.notEmpty, h.notDot⟩]

theorem steps_div {p : Path} {name : String} (h : IsEntryName name) :
    (p / name).steps = p.steps ++ [name] := by
  rw [← steps_of_entryName h]
  exact steps_join (isAbsolute_of_not_mem h.noSlash)

theorem endsInDot_div {p : Path} {name : String} (h : IsEntryName name) :
    (p / name).endsInDot = false := by
  obtain ⟨front, hpieces⟩ := exists_pieces_join (p := p) h.noSlash
  simp [endsInDot, hpieces, List.filter_append, h.notEmpty, h.notDot]

theorem namesDirectory_div {p : Path} {name : String} (h : IsEntryName name) :
    (p / name).namesDirectory = false := by
  obtain ⟨front, hpieces⟩ := exists_pieces_join (p := p) h.noSlash
  simp [namesDirectory, hpieces, isIdle_eq_false_iff.mpr ⟨h.notEmpty, h.notDot⟩]

theorem text_join_ne_empty {p q : Path} (hp : p.text ≠ "") : (p.join q).text ≠ "" := by
  unfold join
  split
  next hq =>
    intro hempty
    rw [isAbsolute, hempty] at hq
    cases hq
  next => split <;> simp [hp]

theorem isAbsolute_join {p q : Path} (hp : p.text ≠ "") (hq : q.isAbsolute = false) :
    (p.join q).isAbsolute = p.isAbsolute := by
  have hstart (rest : String) : isAbsolute ⟨p.text ++ rest⟩ = p.isAbsolute := by
    cases htext : p.text.toList with
    | nil => exact absurd (String.toList_eq_nil_iff.mp htext) hp
    | cons c cs =>
      simp only [isAbsolute, String.toList_append, htext, List.cons_append, Text.startsWith,
        Text.dropPrefix?]
      split <;> rfl
  rw [join, hq, if_neg Bool.false_ne_true]
  split
  · exact hstart q.text
  · rw [String.append_assoc]
    exact hstart ("/" ++ q.text)

theorem hasNul_iff {p : Path} : p.hasNul = true ↔ '\x00' ∈ p.text.toList :=
  List.contains_iff_mem

theorem hasNul_join_iff {p q : Path} (hq : q.isAbsolute = false) :
    (p.join q).hasNul = true ↔ p.hasNul = true ∨ q.hasNul = true := by
  simp only [hasNul_iff]
  rw [join, hq, if_neg Bool.false_ne_true]
  split <;> simp

theorem Usable.div {p : Path} {name : String} (hp : p.Usable) (h : IsEntryName name) :
    (p / name).Usable := by
  refine ⟨text_join_ne_empty hp.1, fun hnul => ?_⟩
  rcases (hasNul_join_iff (isAbsolute_of_not_mem h.noSlash)).mp hnul with hnul | hnul
  · exact hp.2 hnul
  · exact h.noNul (hasNul_iff.mp hnul)

theorem Usable.of_join {p q : Path} (h : (p.join q).Usable) (hp : p.text ≠ "")
    (hq : q.isAbsolute = false) : p.Usable :=
  ⟨hp, fun hnul => h.2 ((hasNul_join_iff hq).mpr (Or.inl hnul))⟩

/-- The steps of a path are names of entries, or lead up. -/
theorem isEntryName_of_mem_steps {p : Path} {name : String} (hp : p.Usable) (h : name ∈ p.steps)
    (hup : name ≠ "..") : IsEntryName name := by
  obtain ⟨hmem, hidle⟩ := List.mem_filter.mp h
  obtain ⟨hempty, hdot⟩ := isIdle_eq_false_iff.mp (by simpa using hidle)
  refine ⟨hempty, hdot, hup, not_mem_of_mem_pieces hmem, fun hnul => hp.2 (hasNul_iff.mpr ?_)⟩
  obtain ⟨cs, hcs, rfl⟩ := List.mem_map.mp hmem
  exact Text.mem_of_mem_split hcs (by simpa using hnul)

/-- The components of a path are its steps, after the root or the dot it begins with. -/
theorem exists_components_eq (p : Path) :
    ∃ front, p.components = front ++ p.steps.map component ∧ ∀ name, .name name ∉ front := by
  have hdot : isIdle "." = true := by decide
  have hempty : isIdle "" = true := by decide
  unfold components steps
  cases hpieces : p.pieces with
  | nil => exact ⟨[], rfl, by simp⟩
  | cons first rest =>
    dsimp only
    split
    next habs =>
      obtain rfl : first = "" := by
        unfold pieces Text.splitText at hpieces
        cases htext : p.text.toList with
        | nil => simp [isAbsolute, htext, Text.startsWith, Text.dropPrefix?] at habs
        | cons c cs =>
          obtain rfl : '/' = c := by
            by_contra hc
            simp [isAbsolute, htext, Text.startsWith, Text.dropPrefix?, hc] at habs
          rw [htext, Text.split, if_pos rfl, List.map_cons] at hpieces
          exact (List.cons.inj hpieces).1.symm
      exact ⟨[.root], by simp [hempty], by simp⟩
    next =>
      split
      next hfirst =>
        subst hfirst
        exact ⟨[.here], by simp [hdot], by simp⟩
      next => exact ⟨[], rfl, by simp⟩

theorem fileName?_eq_some_iff {p : Path} {name : String} :
    p.fileName? = some name ↔ ∃ names, p.steps = names ++ [name] ∧ name ≠ ".." := by
  obtain ⟨front, hcomponents, hfront⟩ := p.exists_components_eq
  have hlast : p.fileName? = some name ↔ p.components.getLast? = some (.name name) := by
    unfold fileName?
    split
    next heq => simp [heq]
    next hne => exact ⟨fun h => (by cases h), fun h => absurd h (hne name)⟩
  rw [hlast, hcomponents]
  rcases List.eq_nil_or_concat p.steps with hsteps | ⟨names, last, hsteps⟩
  · simp only [hsteps, List.map_nil, List.append_nil]
    exact ⟨fun h => absurd (List.mem_of_getLast? h) (hfront name), fun ⟨_, h, _⟩ => by simp at h⟩
  · rw [hsteps, List.concat_eq_append, List.map_append, List.map_singleton, ← List.append_assoc,
      List.getLast?_concat, Option.some.injEq, component]
    constructor
    · intro h
      split at h
      · cases h
      next hup =>
        cases h
        exact ⟨names, rfl, hup⟩
    · rintro ⟨names', heq, hup⟩
      obtain ⟨-, rfl⟩ := List.append_inj' heq rfl |>.imp_right fun h => List.singleton_inj.mp h
      rw [if_neg hup]

theorem fileName?_div {p : Path} {name : String} (h : IsEntryName name) :
    (p / name).fileName? = some name :=
  fileName?_eq_some_iff.mpr ⟨p.steps, steps_div h, h.notUp⟩

theorem endsInDot_of_steps_eq_nil {p : Path} (hp : p.text ≠ "") (habs : p.isAbsolute = false)
    (h : p.steps = []) : p.endsInDot = true := by
  have hidle (piece : String) (hpiece : piece ∈ p.pieces) (hempty : piece ≠ "") : piece = "." := by
    have := List.filter_eq_nil_iff.mp h piece hpiece
    simpa [isIdle, hempty] using this
  obtain ⟨first, hfirst, hne⟩ : ∃ first ∈ p.pieces, first ≠ "" := by
    cases htext : p.text.toList with
    | nil => exact absurd (String.toList_eq_nil_iff.mp htext) hp
    | cons c cs =>
      have hc : c ≠ '/' := by
        rintro rfl
        simp [isAbsolute, htext, Text.startsWith, Text.dropPrefix?] at habs
      simp only [pieces, Text.splitText, htext, Text.split, if_neg hc]
      split <;> exact ⟨_, List.mem_cons_self, by simp [← String.toList_eq_nil_iff]⟩
  unfold endsInDot
  cases hget : (p.pieces.filter (· ≠ "")).getLast? with
  | none =>
    have hnil := List.getLast?_eq_none_iff.mp hget
    exact absurd (List.filter_eq_nil_iff.mp hnil first hfirst) (by simpa using hne)
  | some piece =>
    obtain ⟨hmem, hempty⟩ := List.mem_filter.mp (List.mem_of_getLast? hget)
    rw [hidle piece hmem (by simpa using hempty)]
    rfl

end Path

namespace FileTree

/-- Where names lead from a directory. -/
def walk (dir : Location) (names : List String) : Location :=
  names.foldl (fun l name => if name = ".." then l.dropLast else l ++ [name]) dir

theorem walk_append (dir : Location) (first second : List String) :
    walk dir (first ++ second) = walk (walk dir first) second :=
  List.foldl_append ..

theorem walk_of_not_mem {dir : Location} {names : List String} (h : ".." ∉ names) :
    walk dir names = dir ++ names := by
  induction names generalizing dir with
  | nil => simp [walk]
  | cons name names ih =>
    obtain ⟨hname, hnames⟩ := not_or.mp (mt List.mem_cons.mpr h)
    have hstep : walk dir (name :: names) = walk (dir ++ [name]) names := by
      simp [walk, Ne.symm hname]
    rw [hstep, ih hnames, List.append_assoc, List.singleton_append]

variable {t t' t₁ : FileTree} {dir l k : Location} {names : List String} {p : Path}

theorem follow_cons_ok {name : String} (h : t.follow dir (name :: names) = .ok l) :
    t.get? dir = some .directory ∧
      t.follow (if name = ".." then dir.dropLast else dir ++ [name]) names = .ok l := by
  rw [follow] at h
  split at h
  next hdir => exact ⟨hdir, h⟩
  next => cases h
  next => cases h

theorem eq_walk_of_follow (h : t.follow dir names = .ok l) : l = walk dir names := by
  induction names generalizing dir with
  | nil =>
    cases h
    rfl
  | cons name names ih => exact ih (follow_cons_ok h).2

/-- Where a path leads, if every directory on the way is there. -/
def place (t : FileTree) (p : Path) : Location :=
  walk (if p.isAbsolute then [] else t.current) p.steps

theorem eq_place_of_locate (h : t.locate p = .ok l) : l = t.place p :=
  eq_walk_of_follow (locate_eq_ok_iff.mp h).2.1

theorem eq_place_of_find {node : Node} (h : t.find p = .ok (l, node)) : l = t.place p :=
  eq_place_of_locate (find_eq_ok_iff.mp h).1

theorem place_div {name : String} (hp : p.text ≠ "") (h : IsEntryName name) :
    t.place (p / name) = t.place p ++ [name] := by
  have habs : (p / name).isAbsolute = p.isAbsolute :=
    Path.isAbsolute_join hp (Path.isAbsolute_of_not_mem h.noSlash)
  rw [place, place, habs, Path.steps_div h, walk_append]
  simp [walk, h.notUp]

theorem place_congr (h : t'.current = t.current) (p : Path) : t'.place p = t.place p := by
  simp only [place, h]

@[simp] theorem get?_nil : t.get? [] = some .directory :=
  if_pos rfl

theorem lookup_setEntry (l k : Location) (n : Node) (entries : List (Location × Node)) :
    (setEntry l n entries).lookup k = if k = l then some n else entries.lookup k := by
  have hbeq {a b : Location} (hab : a ≠ b) : (a == b) = false := by simpa using hab
  induction entries with
  | nil => by_cases hk : k = l <;> simp [setEntry, List.lookup_cons, hk, hbeq]
  | cons e entries ih =>
    obtain ⟨j, m⟩ := e
    rw [setEntry]
    split
    next hj =>
      subst hj
      by_cases hk : k = j <;> simp [List.lookup_cons, hk, hbeq]
    next hj =>
      rw [List.lookup_cons, List.lookup_cons, ih]
      by_cases hk : k = j
      · subst hk
        simp [hj]
      · simp [hbeq hk]

theorem get?_set {n : Node} (hl : l ≠ []) :
    (t.set l n).get? k = if k = l then some n else t.get? k := by
  by_cases hk : k = []
  · subst hk
    simp [Ne.symm hl]
  · simp only [get?, if_neg hk]
    exact lookup_setEntry l k n t.entries

theorem setEntry_setEntry (l : Location) (m n : Node) (entries : List (Location × Node)) :
    setEntry l n (setEntry l m entries) = setEntry l n entries := by
  induction entries with
  | nil => simp [setEntry]
  | cons e entries ih =>
    obtain ⟨j, x⟩ := e
    simp only [setEntry]
    split
    next hj => simp [setEntry]
    next hj => simp [setEntry, hj, ih]

theorem set_set (l : Location) (m n : Node) : (t.set l m).set l n = t.set l n := by
  simp only [set, setEntry_setEntry]

/-- Setting what is there already changes nothing. -/
theorem set_of_get? {n : Node} (hl : l ≠ []) (h : t.get? l = some n) : t.set l n = t := by
  have hentries (entries : List (Location × Node)) (h : entries.lookup l = some n) :
      setEntry l n entries = entries := by
    induction entries with
    | nil => cases h
    | cons e entries ih =>
      obtain ⟨j, x⟩ := e
      rw [List.lookup_cons] at h
      by_cases hj : j = l
      · subst hj
        simp only [beq_self_eq_true, Option.some.injEq] at h
        simp [setEntry, h]
      · have hlj : (l == j) = false := by simpa using Ne.symm hj
        rw [hlj] at h
        rw [setEntry, if_neg hj, ih h]
  rw [get?, if_neg hl] at h
  rw [set, hentries t.entries h]

theorem get?_remove (hk : k ≠ []) : (t.remove l).get? k = if l <+: k then none else t.get? k := by
  have hfilter (entries : List (Location × Node)) :
      (entries.filter fun e => !l.isPrefixOf e.1).lookup k =
        if l <+: k then none else entries.lookup k := by
    induction entries with
    | nil => simp
    | cons e entries ih =>
      obtain ⟨j, x⟩ := e
      rw [List.filter_cons]
      by_cases hj : l <+: j
      · rw [if_neg (by simpa using hj), ih, List.lookup_cons]
        by_cases hkj : k = j
        · subst hkj
          simp [hj]
        · simp [show (k == j) = false by simpa using hkj]
      · rw [if_pos (by simpa [← Bool.not_eq_true] using hj), List.lookup_cons, List.lookup_cons, ih]
        by_cases hkj : k = j
        · subst hkj
          simp [hj]
        · simp [show (k == j) = false by simpa using hkj]
  simp only [get?, if_neg hk]
  exact hfilter t.entries

/-- A tree as a file system has it: every place is listed once, with names that entries can have,
and lies in a directory. -/
structure WellFormed (t : FileTree) : Prop where
  distinct : (t.entries.map (·.1)).Nodup
  named : ∀ e ∈ t.entries, e.1 ≠ [] ∧ ∀ name ∈ e.1, IsEntryName name
  inDirectory : ∀ l name, t.get? (l ++ [name]) ≠ none → t.get? l = some .directory

theorem WellFormed.of_entries (hdistinct : (t.entries.map (·.1)).Nodup)
    (hnamed : ∀ e ∈ t.entries, e.1 ≠ [] ∧ ∀ name ∈ e.1, IsEntryName name)
    (hdirs : ∀ e ∈ t.entries, t.get? e.1.dropLast = some .directory) : t.WellFormed := by
  refine ⟨hdistinct, hnamed, fun l name hget => ?_⟩
  obtain ⟨n, hn⟩ := Option.ne_none_iff_exists'.mp hget
  rw [get?, if_neg (by simp)] at hn
  obtain ⟨_, _, hentries, -⟩ := List.lookup_eq_some_iff.mp hn
  have hentry : (l ++ [name], n) ∈ t.entries := by simp [hentries]
  simpa using hdirs _ hentry

namespace WellFormed

variable (h : t.WellFormed)
include h

theorem mem_entries_iff {n : Node} : (l, n) ∈ t.entries ↔ l ≠ [] ∧ t.get? l = some n := by
  have hlookup (entries : List (Location × Node)) (hd : (entries.map (·.1)).Nodup) :
      (l, n) ∈ entries ↔ entries.lookup l = some n := by
    induction entries with
    | nil => simp
    | cons e entries ih =>
      obtain ⟨j, m⟩ := e
      rw [List.map_cons, List.nodup_cons] at hd
      rw [List.mem_cons, List.lookup_cons, Prod.mk.injEq]
      by_cases hj : l = j
      · subst hj
        have hnot : (l, n) ∉ entries := fun hmem => hd.1 (List.mem_map_of_mem (f := (·.1)) hmem)
        simp [hnot, eq_comm]
      · simp [hj, show (l == j) = false by simpa using hj, ih hd.2]
  constructor
  · intro hmem
    have hl := (h.named _ hmem).1
    exact ⟨hl, by rw [get?, if_neg hl]; exact (hlookup _ h.distinct).mp hmem⟩
  · rintro ⟨hl, hget⟩
    rw [get?, if_neg hl] at hget
    exact (hlookup _ h.distinct).mpr hget

theorem get?_dropLast (hdir : t.get? l = some .directory) :
    t.get? l.dropLast = some .directory := by
  rcases List.eq_nil_or_concat l with rfl | ⟨init, last, rfl⟩
  · simp
  · rw [List.concat_eq_append] at hdir ⊢
    rw [List.dropLast_concat]
    exact h.inDirectory init last (by simp [hdir])

/-- Every place above an entry is a directory. -/
theorem get?_of_append {rest : List String} (hrest : rest ≠ []) (hget : t.get? (l ++ rest) ≠ none) :
    t.get? l = some .directory := by
  induction rest using List.reverseRecOn with
  | nil => exact absurd rfl hrest
  | append_singleton rest name ih =>
    rw [← List.append_assoc] at hget
    have hdir := h.inDirectory _ name hget
    cases rest with
    | nil => simpa using hdir
    | cons first rest => exact ih (List.cons_ne_nil first rest) (by simp [hdir])

/-- What a path leads to, unless it is a directory, lies in one under a proper name. -/
theorem exists_parent_of_locate (hlocate : t.locate p = .ok l)
    (hget : t.get? l ≠ some .directory) :
    ∃ dir name, l = dir ++ [name] ∧ t.get? dir = some .directory ∧ IsEntryName name := by
  obtain ⟨hp, hl, hdot⟩ := locate_eq_ok_iff.mp hlocate
  have hfollow (names : List String) (hnames : names ⊆ p.steps) (dir : Location)
      (hl : t.follow dir names = .ok l) : (names = [] ∧ l = dir) ∨
        ∃ dir name, l = dir ++ [name] ∧ t.get? dir = some .directory ∧ IsEntryName name := by
    induction names generalizing dir with
    | nil =>
      cases hl
      exact Or.inl ⟨rfl, rfl⟩
    | cons name names ih =>
      obtain ⟨hdir, hl⟩ := follow_cons_ok hl
      obtain ⟨hname, hnames⟩ := List.cons_subset.mp hnames
      refine Or.inr ?_
      rcases ih hnames _ hl with ⟨-, hl⟩ | hparent
      · split at hl
        · exact absurd (h.get?_dropLast hdir) (hl ▸ hget)
        next hup => exact ⟨dir, name, hl, hdir, Path.isEntryName_of_mem_steps hp hname hup⟩
      · exact hparent
  refine (hfollow p.steps (List.Subset.refl _) _ hl).resolve_left fun ⟨hsteps, hstart⟩ => hget ?_
  cases habs : p.isAbsolute with
  | true => simp [hstart, habs]
  | false => exact hdot (Path.endsInDot_of_steps_eq_nil hp.1 habs hsteps)

theorem set {name : String} {n : Node} (hdir : t.get? dir = some .directory)
    (hname : IsEntryName name) (hget : t.get? (dir ++ [name]) ≠ some .directory) :
    (t.set (dir ++ [name]) n).WellFormed := by
  have hne : dir ++ [name] ≠ [] := by simp
  have hdirNames : ∀ x ∈ dir, IsEntryName x := by
    intro x hx
    by_cases hnil : dir = []
    · simp [hnil] at hx
    · exact (h.named _ (h.mem_entries_iff.mpr ⟨hnil, hdir⟩)).2 x hx
  have hentry (e : Location × Node) (he : e ∈ (t.set (dir ++ [name]) n).entries) :
      e ∈ t.entries ∨ e = (dir ++ [name], n) := by
    have hset (entries : List (Location × Node)) (he : e ∈ setEntry (dir ++ [name]) n entries) :
        e ∈ entries ∨ e = (dir ++ [name], n) := by
      induction entries with
      | nil => exact Or.inr (List.mem_singleton.mp he)
      | cons first entries ih =>
        rw [setEntry] at he
        split at he <;> rcases List.mem_cons.mp he with rfl | he
        · exact Or.inr rfl
        · exact Or.inl (List.mem_cons_of_mem _ he)
        · exact Or.inl List.mem_cons_self
        · exact (ih he).imp_left (List.mem_cons_of_mem _)
    exact hset _ he
  refine ⟨?_, fun e he => ?_, fun l' name' hget' => ?_⟩
  · have hkeys (entries : List (Location × Node)) :
        (setEntry (dir ++ [name]) n entries).map (·.1) =
          if dir ++ [name] ∈ entries.map (·.1) then entries.map (·.1)
          else entries.map (·.1) ++ [dir ++ [name]] := by
      induction entries with
      | nil => simp [setEntry]
      | cons first entries ih =>
        obtain ⟨j, m⟩ := first
        rw [setEntry]
        split
        next hj => simp [hj]
        next hj =>
          rw [List.map_cons, ih]
          by_cases hmem : dir ++ [name] ∈ entries.map (·.1)
          · rw [if_pos hmem, List.map_cons, if_pos (List.mem_cons_of_mem _ hmem)]
          · rw [if_neg hmem, List.map_cons, if_neg, List.cons_append]
            exact mt List.mem_cons.mp (not_or.mpr ⟨Ne.symm hj, hmem⟩)
    rw [FileTree.set, hkeys]
    split
    · exact h.distinct
    next hmem =>
      refine List.nodup_append.mpr ⟨h.distinct, List.nodup_singleton _, fun a ha b hb => ?_⟩
      rintro rfl
      exact hmem (List.mem_singleton.mp hb ▸ ha)
  · rcases hentry e he with he | rfl
    · exact h.named e he
    · refine ⟨hne, fun x hx => ?_⟩
      rcases List.mem_append.mp hx with hx | hx
      · exact hdirNames x hx
      · rwa [List.mem_singleton.mp hx]
  · rw [get?_set hne] at hget' ⊢
    split at hget'
    next heq =>
      obtain ⟨rfl, -⟩ := List.append_inj' heq rfl
      rw [if_neg (by simp), hdir]
    next hne' =>
      have hparent := h.inDirectory l' name' hget'
      rw [if_neg]
      · exact hparent
      · rintro rfl
        exact hget hparent

theorem remove (l : Location) : (t.remove l).WellFormed := by
  refine ⟨?_, fun e he => h.named e (List.mem_filter.mp he).1, fun k name hget => ?_⟩
  · exact List.Nodup.sublist (List.filter_sublist.map _) h.distinct
  · rw [get?_remove (by simp)] at hget
    split at hget
    · exact absurd rfl hget
    next hpre =>
      by_cases hk : k = []
      · simp [hk]
      · rw [get?_remove hk, if_neg fun hl => hpre (hl.trans (List.prefix_append k [name]))]
        exact h.inDirectory k name hget

end WellFormed

/-- What making directories and writing files leads to: each place is as it was, or is a new
directory, or is one of those written and holds a file. -/
structure Edits (written : Location → Prop) (t t' : FileTree) : Prop where
  current : t'.current = t.current
  wellFormed : t.WellFormed → t'.WellFormed
  change : ∀ l, t'.get? l = t.get? l ∨ (t.get? l = none ∧ t'.get? l = some .directory) ∨
    (written l ∧ t.get? l ≠ some .directory ∧ ∃ content, t'.get? l = some (.file content))

namespace Edits

variable {written written' : Location → Prop}

theorem refl (t : FileTree) : Edits written t t :=
  ⟨rfl, id, fun _ => Or.inl rfl⟩

theorem trans (h : Edits written t t₁) (h' : Edits written t₁ t') : Edits written t t' := by
  refine ⟨h'.current.trans h.current, h'.wellFormed ∘ h.wellFormed, fun l => ?_⟩
  rcases h'.change l with hsame | ⟨hnone, hdir⟩ | ⟨hw, hnot, hfile⟩
  · rw [hsame]
    exact h.change l
  · rcases h.change l with hsame | ⟨-, hdir'⟩ | ⟨-, -, content, hfile⟩
    · exact Or.inr (Or.inl ⟨hsame ▸ hnone, hdir⟩)
    · cases hnone.symm.trans hdir'
    · cases hnone.symm.trans hfile
  · rcases h.change l with hsame | ⟨-, hdir⟩ | ⟨-, hnot', -⟩
    · exact Or.inr (Or.inr ⟨hw, hsame ▸ hnot, hfile⟩)
    · exact absurd hdir hnot
    · exact Or.inr (Or.inr ⟨hw, hnot', hfile⟩)

theorem mono (h : Edits written t t') (hsub : ∀ l, written l → written' l) : Edits written' t t' :=
  ⟨h.current, h.wellFormed, fun l => (h.change l).imp_right (Or.imp_right (And.imp_left (hsub l)))⟩

/-- What is not written stays, unless nothing was there. -/
theorem get?_of_not_written (h : Edits written t t') (hl : ¬ written l) {n : Node}
    (hget : t.get? l = some n) : t'.get? l = some n := by
  rcases h.change l with hsame | ⟨hnone, -⟩ | ⟨hw, -, -⟩
  · rw [hsame, hget]
  · cases hget.symm.trans hnone
  · exact absurd hw hl

theorem get?_directory (h : Edits written t t') (hget : t.get? l = some .directory) :
    t'.get? l = some .directory := by
  rcases h.change l with hsame | ⟨hnone, -⟩ | ⟨-, hnot, -⟩
  · rw [hsame, hget]
  · cases hget.symm.trans hnone
  · exact absurd hget hnot

/-- A file stays a file. -/
theorem exists_file (h : Edits written t t') {content : ByteArray}
    (hget : t.get? l = some (.file content)) : ∃ content', t'.get? l = some (.file content') := by
  rcases h.change l with hsame | ⟨hnone, -⟩ | ⟨-, -, hfile⟩
  · exact ⟨content, hsame ▸ hget⟩
  · cases hget.symm.trans hnone
  · exact hfile

/-- A file was there before, or is at a place that was written. -/
theorem get?_file (h : Edits written t t') {content : ByteArray}
    (hget : t'.get? l = some (.file content)) :
    t.get? l = some (.file content) ∨ written l := by
  rcases h.change l with hsame | ⟨-, hdir⟩ | ⟨hw, -, -⟩
  · exact Or.inl (hsame ▸ hget)
  · cases hget.symm.trans hdir
  · exact Or.inr hw

/-- A path that led somewhere still leads there. -/
theorem follow_ok (h : Edits written t t') (hl : t.follow dir names = .ok l) :
    t'.follow dir names = .ok l := by
  induction names generalizing dir with
  | nil => exact hl
  | cons name names ih =>
    obtain ⟨hdir, hl⟩ := follow_cons_ok hl
    rw [follow, h.get?_directory hdir]
    exact ih hl

theorem locate_ok (h : Edits written t t') (hl : t.locate p = .ok l) : t'.locate p = .ok l := by
  obtain ⟨htext, hfollow, hdot⟩ := locate_eq_ok_iff.mp hl
  exact locate_eq_ok_iff.mpr ⟨htext, h.current ▸ h.follow_ok hfollow,
    fun hp => h.get?_directory (hdot hp)⟩

end Edits

theorem edits_set_directory (hlocate : t.locate p = .ok l) (hget : t.get? l = none) :
    Edits (fun _ => False) t (t.set l .directory) := by
  have hne : l ≠ [] := by
    rintro rfl
    cases hget
  refine ⟨rfl, fun hwf => ?_, fun k => ?_⟩
  · obtain ⟨dir, name, rfl, hdir, hname⟩ := hwf.exists_parent_of_locate hlocate (by simp [hget])
    exact hwf.set hdir hname (by simp [hget])
  · rw [get?_set hne]
    split
    next hk => exact Or.inr (Or.inl ⟨hk ▸ hget, rfl⟩)
    next => exact Or.inl rfl

theorem edits_set_file {content : ByteArray} (hlocate : t.locate p = .ok l)
    (hget : t.get? l ≠ some .directory) : Edits (· = l) t (t.set l (.file content)) := by
  have hne : l ≠ [] := by
    rintro rfl
    exact hget get?_nil
  refine ⟨rfl, fun hwf => ?_, fun k => ?_⟩
  · obtain ⟨dir, name, rfl, hdir, hname⟩ := hwf.exists_parent_of_locate hlocate hget
    exact hwf.set hdir hname hget
  · rw [get?_set hne]
    split
    next hk => exact Or.inr (Or.inr ⟨hk, hk ▸ hget, content, rfl⟩)
    next => exact Or.inl rfl

theorem edits_createDirectory (h : t.createDirectory p = .ok t') :
    Edits (fun _ => False) t t' := by
  unfold createDirectory at h
  split at h
  · cases h
  next l hlocate =>
    split at h
    · cases h
    next hget =>
      cases h
      exact edits_set_directory hlocate hget

theorem edits_createChain {paths : List Path} (h : t.createChain paths = .ok t') :
    Edits (fun _ => False) t t' := by
  induction paths generalizing t t' with
  | nil =>
    cases h
    exact .refl t
  | cons p outer ih =>
    rw [createChain] at h
    split at h
    · cases h
      exact .refl t
    · split at h
      next hp =>
        cases h
        exact edits_createDirectory hp
      next =>
        split at h
        · cases h
        next t₁ houter =>
          have hfirst := ih houter
          split at h
          next hp =>
            cases h
            exact hfirst.trans (edits_createDirectory hp)
          next =>
            split at h
            · cases h
              exact hfirst
            · cases h
      next =>
        split at h
        · cases h
          exact .refl t
        · cases h

theorem edits_createDirectories (h : t.createDirectories p = .ok t') :
    Edits (fun _ => False) t t' :=
  edits_createChain h

theorem isDirectory_iff : t.isDirectory p = true ↔ ∃ l, t.find p = .ok (l, .directory) := by
  unfold isDirectory
  rcases t.find p with _ | ⟨l, _ | _⟩ <;> simp

/-- A directory that is created can be found. -/
theorem isDirectory_of_createDirectories (hp : p.text ≠ "")
    (h : t.createDirectories p = .ok t') : t'.isDirectory p = true := by
  have hnew {t t' : FileTree} (h : t.createDirectory p = .ok t') : t'.isDirectory p = true := by
    have hedits := edits_createDirectory h
    unfold createDirectory at h
    split at h
    · cases h
    next l hlocate =>
      split at h
      · cases h
      next hget =>
        have hne : l ≠ [] := by
          rintro rfl
          cases hget
        cases h
        refine isDirectory_iff.mpr ⟨l, find_eq_ok_iff.mpr ⟨hedits.locate_ok hlocate, ?_, ?_⟩⟩
        · rw [get?_set hne, if_pos rfl]
        · rintro ⟨content, hfile⟩
          cases hfile
  obtain ⟨outer, houter⟩ : ∃ outer, p.ancestors = p :: outer := by
    unfold Path.ancestors
    cases p.pieces.length with
    | zero => exact ⟨[], rfl⟩
    | succ n =>
      rw [Path.ancestorsFrom]
      split <;> exact ⟨_, rfl⟩
  rw [createDirectories, houter, createChain, if_neg hp] at h
  split at h
  next hcreate =>
    cases h
    exact hnew hcreate
  next =>
    split at h
    · cases h
    next =>
      split at h
      next hcreate =>
        cases h
        exact hnew hcreate
      next =>
        split at h
        next hdir =>
          cases h
          exact hdir
        next => cases h
  next =>
    split at h
    next hdir =>
      cases h
      exact hdir
    next => cases h

/-- Creating a directory that is there changes nothing. -/
theorem usable_of_createDirectories (hp : p.text ≠ "") (h : t.createDirectories p = .ok t') :
    p.Usable := by
  obtain ⟨l, hfind⟩ := isDirectory_iff.mp (isDirectory_of_createDirectories hp h)
  exact (locate_eq_ok_iff.mp (find_eq_ok_iff.mp hfind).1).1

theorem createDirectories_of_find (h : t.find p = .ok (l, .directory)) :
    t.createDirectories p = .ok t := by
  obtain ⟨hlocate, hget, -⟩ := find_eq_ok_iff.mp h
  have hcreate : t.createDirectory p = .error .alreadyExists := by
    simp only [createDirectory, hlocate, hget]
  have hdir : t.isDirectory p = true := isDirectory_iff.mpr ⟨l, h⟩
  have hchain (outer : List Path) : t.createChain (p :: outer) = .ok t := by
    rw [createChain, if_neg (locate_eq_ok_iff.mp hlocate).1.1, hcreate]
    simp [hdir]
  unfold createDirectories Path.ancestors
  cases p.pieces.length with
  | zero => exact hchain []
  | succ n =>
    rw [Path.ancestorsFrom]
    split <;> exact hchain _

theorem write_eq_ok_iff {content : ByteArray} :
    t.write p content = .ok t' ↔ ∃ l, t.locate p = .ok l ∧ t.get? l ≠ some .directory ∧
      p.namesDirectory = false ∧ t' = t.set l (.file content) := by
  unfold write
  cases t.locate p with
  | error fault => simp
  | ok l =>
    simp only [Except.ok.injEq]
    rcases hget : t.get? l with _ | ⟨_ | _⟩ <;> cases p.namesDirectory <;> simp [hget, eq_comm]

/-- A copy is a file at the target. -/
theorem exists_of_copy {source : Path} (h : t.copy source p = .ok t') :
    ∃ l content, t.locate p = .ok l ∧ t.get? l ≠ some .directory ∧
      t' = t.set l (.file content) := by
  unfold copy at h
  split at h
  · cases h
  · split at h
    · cases h
    next emptied hemptied =>
      split at h
      · cases h
      next content _ =>
        obtain ⟨l, hlocate, hget, -, rfl⟩ := write_eq_ok_iff.mp hemptied
        obtain ⟨l', hlocate', -, -, rfl⟩ := write_eq_ok_iff.mp h
        cases ((edits_set_file hlocate hget).locate_ok hlocate).symm.trans hlocate'
        exact ⟨l, content, hlocate, hget, set_set l _ _⟩

theorem find_directory (hlocate : t.locate p = .ok l) (hget : t.get? l = some .directory) :
    t.find p = .ok (l, .directory) := by
  refine find_eq_ok_iff.mpr ⟨hlocate, hget, ?_⟩
  rintro ⟨content, hfile⟩
  cases hfile

/-- A file that was written can be read. -/
theorem readBytes_of_get? {content : ByteArray} (hlocate : t.locate p = .ok l)
    (hget : t.get? l = some (.file content)) (hp : p.namesDirectory = false) :
    t.readBytes p = .ok content :=
  readBytes_eq_ok_iff.mpr ⟨l, find_eq_ok_iff.mpr ⟨hlocate, hget, fun _ => hp⟩⟩

end FileTree

end GoStub
