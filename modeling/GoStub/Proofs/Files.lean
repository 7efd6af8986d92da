import GoStub.Ignore.Rules
import GoStub.Proofs.Dict
import GoStub.Usage.Scan

/-! Paths and trees of files. Paths are equal in their order when they have the same components. A
new source in a tree changes nothing else: the other sources are found and read as before. -/

namespace GoStub

namespace Text

theorem eq_append_of_dropPrefix? {affix cs rest : List Char} (h : dropPrefix? affix cs = some rest) :
    cs = affix ++ rest := by
  induction affix generalizing cs with
  | nil => simpa [dropPrefix?] using h
  | cons a affix ih =>
    cases cs with
    | nil => cases h
    | cons c cs =>
      rw [dropPrefix?] at h
      split at h
      next hac => rw [hac, ih h, List.cons_append]
      next => cases h

theorem dropPrefix?_append (affix cs : List Char) : dropPrefix? affix (affix ++ cs) = some cs := by
  induction affix with
  | nil => rfl
  | cons a affix ih => rw [List.cons_append, dropPrefix?, if_pos rfl, ih]

theorem dropSuffix?_append (affix cs : List Char) : dropSuffix? affix (cs ++ affix) = some cs := by
  rw [dropSuffix?, List.reverse_append, dropPrefix?_append, Option.map_some, List.reverse_reverse]

theorem eq_append_of_dropSuffix? {affix cs rest : List Char}
    (h : dropSuffix? affix cs = some rest) : cs = rest ++ affix := by
  obtain ⟨rest', hrest, rfl⟩ := Option.map_eq_some_iff.mp h
  apply List.reverse_injective
  rw [eq_append_of_dropPrefix? hrest, List.reverse_append, List.reverse_reverse]

theorem exists_append_of_endsWith {affix cs : List Char} (h : endsWith affix cs = true) :
    ∃ rest, cs = rest ++ affix := by
  obtain ⟨rest, hrest⟩ := Option.isSome_iff_exists.mp h
  exact ⟨rest, eq_append_of_dropSuffix? hrest⟩

theorem split_ne_nil (sep : Char) (cs : List Char) : split sep cs ≠ [] := by
  cases cs with
  | nil => simp [split]
  | cons c cs =>
    rw [split]
    split
    · simp
    · split <;> simp

theorem split_append (sep : Char) (cs rest : List Char) :
    split sep (cs ++ sep :: rest) = split sep cs ++ split sep rest := by
  induction cs with
  | nil => simp [split]
  | cons c cs ih =>
    rw [List.cons_append, split, split, ih]
    split
    · rfl
    · cases hcs : split sep cs with
      | nil => exact absurd hcs (split_ne_nil sep cs)
      | cons piece pieces => rfl

end Text

namespace Component

/-- What names are compared by. -/
def text : Component → String
  | .name text => text
  | _ => ""

theorem cmp_eq : cmp = compareLex (compareOn rank) (compareOn text) := by
  funext a b
  cases a <;> cases b <;> rfl

instance : Std.TransCmp cmp :=
  cmp_eq ▸ inferInstance

instance : Std.LawfulEqCmp cmp where
  eq_of_compare {a b} h := by
    cases a <;> cases b <;> simp_all [cmp, rank]

theorem cmpAll_eq : cmpAll = List.compareLex cmp := by
  funext a b
  induction a generalizing b with
  | nil => cases b <;> rfl
  | cons x a ih =>
    cases b with
    | nil => rfl
    | cons y b => rw [cmpAll, ih, List.compareLex_cons_cons]

instance : Std.TransCmp cmpAll :=
  cmpAll_eq ▸ inferInstance

instance : Std.LawfulEqCmp cmpAll :=
  cmpAll_eq ▸ inferInstance

end Component

namespace Path

theorem cmp_eq_iff {p q : Path} : p.cmp q = .eq ↔ p.components = q.components := by
  unfold cmp
  exact Std.LawfulEqCmp.compare_eq_iff_eq

instance : Std.TransCmp cmp where
  eq_swap {p q} := by
    unfold cmp
    exact Std.OrientedCmp.eq_swap
  isLE_trans {p q r} hpq hqr := by
    unfold cmp at hpq hqr ⊢
    exact Std.TransCmp.isLE_trans hpq hqr

/-- The steps of a relative path come after those of the path it is joined to. -/
theorem steps_join {p q : Path} (hq : q.isAbsolute = false) :
    (p.join q).steps = p.steps ++ q.steps := by
  have hsteps {s : String} {cs rest : List Char} (hs : s.toList = cs ++ '/' :: rest) :
      steps ⟨s⟩ = steps ⟨String.ofList cs⟩ ++ steps ⟨String.ofList rest⟩ := by
    simp only [steps, pieces, Text.splitText, hs, String.toList_ofList, Text.split_append,
      List.map_append, List.filter_append]
  have hempty : steps ⟨""⟩ = [] := by decide
  obtain ⟨p⟩ := p
  obtain ⟨q⟩ := q
  rw [join, hq, if_neg Bool.false_ne_true]
  split
  next hp =>
    rcases Bool.or_eq_true_iff.mp hp with hp | hp
    · obtain rfl : p = "" := of_decide_eq_true hp
      rw [String.empty_append, hempty, List.nil_append]
    · obtain ⟨cs, hcs⟩ := Text.exists_append_of_endsWith hp
      have hleft : (p ++ q).toList = cs ++ '/' :: q.toList := by simp_all
      rw [hsteps hleft, hsteps hcs, String.ofList_toList, String.ofList_nil, hempty,
        List.append_nil]
  next =>
    have hboth : (p ++ "/" ++ q).toList = p.toList ++ '/' :: q.toList := by simp
    rw [hsteps hboth, String.ofList_toList, String.ofList_toList]

/-- A path that file operations take: it is not empty and has no NUL. -/
def Usable (p : Path) : Prop :=
  p.text ≠ "" ∧ ¬ p.hasNul = true

end Path

namespace FileTree

theorem locate_eq_ok_iff {tree : FileTree} {p : Path} {l : Location} :
    tree.locate p = .ok l ↔ p.Usable ∧
      tree.follow (if p.isAbsolute then [] else tree.current) p.steps = .ok l ∧
      (p.endsInDot = true → tree.get? l = some .directory) := by
  unfold locate Path.Usable
  by_cases htext : p.text = ""
  · simp [htext]
  by_cases hnul : p.hasNul = true
  · simp [htext, hnul]
  · rw [if_neg htext, if_neg hnul]
    cases tree.follow (if p.isAbsolute then [] else tree.current) p.steps with
    | error fault => simp
    | ok k =>
      simp only [ne_eq, htext, hnul, not_false_eq_true, true_and, Except.ok.injEq]
      rcases hget : tree.get? k with _ | ⟨_ | _⟩ <;> cases p.endsInDot <;> grind

theorem find_eq_ok_iff {tree : FileTree} {p : Path} {found : Location × Node} :
    tree.find p = .ok found ↔ tree.locate p = .ok found.1 ∧ tree.get? found.1 = some found.2 ∧
      ((∃ content, found.2 = .file content) → p.namesDirectory = false) := by
  obtain ⟨l, node⟩ := found
  unfold find
  cases tree.locate p with
  | error fault => simp
  | ok k =>
    simp only [Except.ok.injEq]
    rcases hget : tree.get? k with _ | ⟨_ | _⟩ <;> cases p.namesDirectory <;> grind

theorem readBytes_eq_ok_iff {tree : FileTree} {p : Path} {content : ByteArray} :
    tree.readBytes p = .ok content ↔ ∃ l, tree.find p = .ok (l, .file content) := by
  unfold readBytes
  rcases tree.find p with _ | ⟨l, _ | _⟩ <;> simp

theorem isFile_iff {tree : FileTree} {p : Path} :
    tree.isFile p = true ↔ ∃ content, tree.readBytes p = .ok content := by
  unfold isFile readBytes
  rcases tree.find p with _ | ⟨l, _ | _⟩ <;> simp

/-- A path whose last step is a name leads to a place of that name. -/
theorem getLast?_of_follow {tree : FileTree} {dir l : Location} {names : List String}
    {name : String} (hup : name ≠ "..") (h : tree.follow dir (names ++ [name]) = .ok l) :
    l.getLast? = some name := by
  induction names generalizing dir with
  | nil =>
    simp only [List.nil_append, follow, hup, ↓reduceIte] at h
    split at h
    · cases h
      simp
    · cases h
    · cases h
  | cons first rest ih =>
    simp only [List.cons_append, follow] at h
    split at h
    · exact ih h
    · cases h
    · cases h

theorem getLast?_of_locate {tree : FileTree} {p : Path} {l : Location} {names : List String}
    {name : String} (hp : p.steps = names ++ [name]) (hup : name ≠ "..")
    (h : tree.locate p = .ok l) : l.getLast? = some name := by
  obtain ⟨-, hfollow, -⟩ := locate_eq_ok_iff.mp h
  exact getLast?_of_follow hup (hp ▸ hfollow)

/-- Whether a file of this name is a source. -/
def isSourceName (name : String) : Bool :=
  Text.endsWith ".go".toList name.toList

/-- The second tree has a source more than the first. -/
structure AddsSource (tree tree' : FileTree) (l : Location) : Prop where
  fresh : tree.get? l = none
  named : ∃ name, l.getLast? = some name ∧ isSourceName name = true
  added : ∃ content, tree'.get? l = some (.file content)
  others : ∀ k, k ≠ l → tree'.get? k = tree.get? k
  entries : tree.entries ⊆ tree'.entries
  current : tree'.current = tree.current

theorem setEntry_of_lookup_eq_none {entries : List (Location × Node)} {l : Location} {n : Node}
    (h : entries.lookup l = none) : setEntry l n entries = entries ++ [(l, n)] := by
  induction entries with
  | nil => rfl
  | cons e rest ih =>
    obtain ⟨k, m⟩ := e
    rw [List.lookup_cons] at h
    split at h
    · cases h
    next hne =>
      have hkl : k ≠ l := fun heq => by simp [heq] at hne
      rw [setEntry, if_neg hkl, ih h, List.cons_append]

/-- A source is added by a file with the name of a source, where nothing was. -/
theorem addsSource_set {tree : FileTree} {dir : Location} {name : String} (content : ByteArray)
    (hfresh : tree.get? (dir ++ [name]) = none) (hname : isSourceName name = true) :
    tree.AddsSource (tree.set (dir ++ [name]) (.file content)) (dir ++ [name]) := by
  have hlookup : tree.entries.lookup (dir ++ [name]) = none := by simpa [get?] using hfresh
  have hentries : (tree.set (dir ++ [name]) (.file content)).entries =
      tree.entries ++ [(dir ++ [name], .file content)] := setEntry_of_lookup_eq_none hlookup
  refine ⟨hfresh, ⟨name, by simp, hname⟩, ⟨content, ?_⟩, fun k hk => ?_, ?_, rfl⟩
  · simp [get?, hentries, List.lookup_append, hlookup]
  · have hne : (k == dir ++ [name]) = false := by simpa using hk
    simp [get?, hentries, List.lookup_append, List.lookup_cons, hne]
  · rw [hentries]
    exact List.subset_append_left _ _

namespace AddsSource

variable {tree tree' : FileTree} {l k : Location} {p : Path} (h : tree.AddsSource tree' l)
include h

theorem ne_of_getLast? {name : String} (hk : k.getLast? = some name)
    (hname : isSourceName name = false) : k ≠ l := by
  rintro rfl
  obtain ⟨name', hl, hsource⟩ := h.named
  cases hk.symm.trans hl
  exact absurd (hname.symm.trans hsource) Bool.false_ne_true

/-- What is at a place without the name of a source is the same. -/
theorem get?_append {dir : Location} {name : String} (hname : isSourceName name = false) :
    tree'.get? (dir ++ [name]) = tree.get? (dir ++ [name]) :=
  h.others _ (h.ne_of_getLast? (by simp) hname)

/-- Nothing is found beyond a source, so paths lead where they did. -/
theorem follow_ok_iff (dir : Location) (names : List String) :
    tree'.follow dir names = .ok k ↔ tree.follow dir names = .ok k := by
  induction names generalizing dir with
  | nil => rfl
  | cons name rest ih =>
    simp only [follow]
    by_cases hdir : dir = l
    · obtain ⟨content, hcontent⟩ := h.added
      simp [hdir, h.fresh, hcontent]
    · rw [h.others dir hdir]
      cases tree.get? dir with
      | none => rfl
      | some node =>
        cases node with
        | directory => exact ih _
        | file content => rfl

theorem locate_ok_iff : tree'.locate p = .ok k ↔ tree.locate p = .ok k := by
  have hdirectory : tree'.get? k = some .directory ↔ tree.get? k = some .directory := by
    by_cases hk : k = l
    · obtain ⟨content, hcontent⟩ := h.added
      simp [hk, h.fresh, hcontent]
    · rw [h.others k hk]
  rw [locate_eq_ok_iff, locate_eq_ok_iff, h.current, h.follow_ok_iff, hdirectory]

/-- A path to a place without the name of a source leads to what it did. -/
theorem find_ok_iff {names : List String} {name : String} {found : Location × Node}
    (hp : p.steps = names ++ [name]) (hup : name ≠ "..") (hname : isSourceName name = false) :
    tree'.find p = .ok found ↔ tree.find p = .ok found := by
  rw [find_eq_ok_iff, find_eq_ok_iff, h.locate_ok_iff]
  refine and_congr_right fun hlocate => ?_
  have hlast := getLast?_of_locate hp hup hlocate
  rw [h.others _ (h.ne_of_getLast? hlast hname)]

theorem readBytes_ok_iff {names : List String} {name : String} {content : ByteArray}
    (hp : p.steps = names ++ [name]) (hup : name ≠ "..") (hname : isSourceName name = false) :
    tree'.readBytes p = .ok content ↔ tree.readBytes p = .ok content := by
  simp only [readBytes_eq_ok_iff, h.find_ok_iff hp hup hname]

theorem isFile_eq {names : List String} {name : String}
    (hp : p.steps = names ++ [name]) (hup : name ≠ "..") (hname : isSourceName name = false) :
    tree'.isFile p = tree.isFile p := by
  rw [Bool.eq_iff_iff, isFile_iff, isFile_iff]
  simp only [h.readBytes_ok_iff hp hup hname]

/-- What was there is found as before. -/
theorem find_of_find {found : Location × Node} (hfind : tree.find p = .ok found) :
    tree'.find p = .ok found := by
  obtain ⟨hlocate, hget, hfile⟩ := find_eq_ok_iff.mp hfind
  have hne : found.1 ≠ l := fun heq => by simp [heq, h.fresh] at hget
  exact find_eq_ok_iff.mpr ⟨h.locate_ok_iff.mpr hlocate, (h.others _ hne).trans hget, hfile⟩

theorem readText_of_readText {text : String} (hread : tree.readText p = .ok text) :
    tree'.readText p = .ok text := by
  unfold readText at hread ⊢
  cases hbytes : tree.readBytes p with
  | error fault => simp [hbytes] at hread
  | ok content =>
    obtain ⟨k, hfind⟩ := readBytes_eq_ok_iff.mp hbytes
    rw [hbytes] at hread
    rw [readBytes_eq_ok_iff.mpr ⟨k, h.find_of_find hfind⟩]
    exact hread

end AddsSource

end FileTree

namespace Ignore

open FileTree

variable {tree tree' : FileTree} {l k : Location} {w : Walk} (h : tree.AddsSource tree' l)
include h

theorem rulesAt_eq {name : String} (hk : k.getLast? = some name)
    (hname : isSourceName name = false) : rulesAt tree' k = rulesAt tree k := by
  rw [rulesAt, rulesAt, h.others k (h.ne_of_getLast? hk hname)]

theorem firstLine?_eq {p : Path} {names : List String} {name : String}
    (hp : p.steps = names ++ [name]) (hup : name ≠ "..") (hname : isSourceName name = false) :
    firstLine? tree' p = firstLine? tree p := by
  have hread (content : ByteArray) :
      tree'.readBytes p = .ok content ↔ tree.readBytes p = .ok content :=
    h.readBytes_ok_iff hp hup hname
  unfold firstLine?
  cases hold : tree.readBytes p with
  | ok content => rw [(hread content).mpr hold]
  | error fault =>
    cases hnew : tree'.readBytes p with
    | ok content => simp [(hread content).mp hnew] at hold
    | error fault' => rfl

theorem commonDir?_eq (content : ByteArray) : commonDir? tree' content = commonDir? tree content := by
  have hfirst (own : Path) :
      firstLine? tree' (own / "commondir") = firstLine? tree (own / "commondir") :=
    firstLine?_eq h (Path.steps_join rfl) (by decide) (by decide)
  simp only [commonDir?, hfirst]

theorem repositoryRules_eq (dir : Location) :
    repositoryRules tree' dir = repositoryRules tree dir := by
  have hlast : (dir ++ [".git", "info", "exclude"]).getLast? = some "exclude" := by simp
  have hown : rulesAt tree' (dir ++ [".git", "info", "exclude"]) =
      rulesAt tree (dir ++ [".git", "info", "exclude"]) := rulesAt_eq h hlast (by decide)
  unfold repositoryRules
  rw [h.get?_append (by decide)]
  rcases tree.get? (dir ++ [".git"]) with _ | ⟨_ | content⟩
  · exact hown
  · exact hown
  · simp only [commonDir?_eq h]
    cases commonDir? tree content with
    | none => rfl
    | some common =>
      have hsteps : (common / "info/exclude").steps = (common.steps ++ ["info"]) ++ ["exclude"] :=
        (Path.steps_join rfl).trans (List.append_assoc _ ["info"] ["exclude"]).symm
      simp only [Option.map_some]
      cases hold : tree.locate (common / "info/exclude") with
      | ok k =>
        rw [h.locate_ok_iff.mpr hold]
        exact rulesAt_eq h (getLast?_of_locate hsteps (by decide) hold) (by decide)
      | error fault =>
        cases hnew : tree'.locate (common / "info/exclude") with
        | ok k => simp [h.locate_ok_iff.mp hnew] at hold
        | error fault' => rfl

theorem ofDirectory_eq (dir : Location) :
    Level.ofDirectory tree' w dir k = Level.ofDirectory tree w dir k := by
  have hrules {name : String} (hname : isSourceName name = false) :
      rulesAt tree' (dir ++ [name]) = rulesAt tree (dir ++ [name]) :=
    rulesAt_eq h (by simp) hname
  have hgit : isSourceName ".git" = false := by decide
  have hjj : isSourceName ".jj" = false := by decide
  simp only [Level.ofDirectory, repositoryRules_eq h, List.any_cons, List.any_nil,
    h.get?_append hgit, h.get?_append hjj]
  rw [hrules (by decide), hrules (by decide)]

theorem isIgnored_eq (isDir : Bool) : isIgnored tree' w k isDir = isIgnored tree w k isDir := by
  simp only [isIgnored, levels, ofDirectory_eq h]

end Ignore

theorem mem_scannedFiles_iff {o : ScanSettings} {tree : FileTree} {root path : Path} :
    path ∈ scannedFiles o tree root ↔ ∃ base l content, tree.locate root = .ok base ∧
      (l, .file content) ∈ tree.entries ∧ base.isPrefixOf l = true ∧
      o.wants (Ignore.Walk.pathTo ⟨root, base⟩ l) = true ∧ o.reaches tree ⟨root, base⟩ l = true ∧
      path = Ignore.Walk.pathTo ⟨root, base⟩ l := by
  unfold scannedFiles
  cases tree.locate root with
  | error fault => simp
  | ok base =>
    simp only [List.mem_mergeSort, List.mem_filterMap, Except.ok.injEq]
    constructor
    · rintro ⟨⟨l, node⟩, hentry, hpath⟩
      cases node with
      | directory => cases hpath
      | file content =>
        obtain ⟨hfound, hpath⟩ := Option.ite_none_right_eq_some.mp hpath
        simp only [Bool.and_eq_true] at hfound
        obtain ⟨⟨hbelow, hwants⟩, hreaches⟩ := hfound
        exact ⟨base, l, content, rfl, hentry, hbelow, hwants, hreaches, (Option.some.inj hpath).symm⟩
    · rintro ⟨base, l, content, rfl, hentry, hbelow, hwants, hreaches, rfl⟩
      exact ⟨(l, .file content), hentry, by simp [hbelow, hwants, hreaches]⟩

namespace FileTree.AddsSource

variable {tree tree' : FileTree} {l k : Location} {o : ScanSettings} {root path : Path}
  (h : tree.AddsSource tree' l)
include h

theorem reaches_eq {w : Ignore.Walk} : o.reaches tree' w k = o.reaches tree w k := by
  simp only [ScanSettings.reaches, ScanSettings.visits, Ignore.isIgnored_eq h]

theorem mem_scannedFiles (hpath : path ∈ scannedFiles o tree root) :
    path ∈ scannedFiles o tree' root := by
  obtain ⟨base, k, content, hbase, hentry, hbelow, hwants, hreaches, rfl⟩ :=
    mem_scannedFiles_iff.mp hpath
  exact mem_scannedFiles_iff.mpr ⟨base, k, content, h.locate_ok_iff.mpr hbase, h.entries hentry,
    hbelow, hwants, h.reaches_eq.trans hreaches, rfl⟩

theorem moduleDir?_eq : Loader.moduleDir? tree' root = Loader.moduleDir? tree root := by
  have hfile (dir : Path) : tree'.isFile (dir / "go.mod") = tree.isFile (dir / "go.mod") :=
    h.isFile_eq (Path.steps_join rfl) (by decide) (by decide)
  simp only [Loader.moduleDir?, hfile]

theorem scannedModule_eq {module : Option String} (hmodule : scannedModule tree root = .ok module) :
    scannedModule tree' root = .ok module := by
  unfold scannedModule at hmodule ⊢
  rw [h.moduleDir?_eq]
  cases hdir : Loader.moduleDir? tree root with
  | none => rwa [hdir] at hmodule
  | some dir =>
    simp only [hdir] at hmodule ⊢
    split at hmodule
    · cases hmodule
    next text hread =>
      rw [h.readText_of_readText hread]
      exact hmodule

end FileTree.AddsSource

end GoStub
