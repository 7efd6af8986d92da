import GoStub.Proofs.VendorSources

/-! What becomes of licences. A licence that is found for a stub comes beside it with the contents
it had before, as long as it is not removed with the old tree, no other stub goes to the same place,
and none that is written before touches it. One that lies where it is to be copied is emptied. -/

namespace GoStub

open FileTree (Edits)

namespace FileTree

variable {t t' : FileTree} {p dir path : Path} {l k : Location} {name : String}
  {content : ByteArray} {written : Location → Prop}

/-- An entry lies in the place of its directory; the empty path stands for the working
directory. -/
theorem place_entry (h : IsEntryName name) : t.place (p / name) = t.place p ++ [name] := by
  by_cases hp : p.text = ""
  · obtain ⟨text⟩ := p
    obtain rfl : text = "" := hp
    have hslash : '/' ∉ name.toList := h.noSlash
    have hjoin : (⟨""⟩ : Path) / name = ⟨name⟩ := by
      change Path.join ⟨""⟩ ⟨name⟩ = ⟨name⟩
      simp [Path.join, Path.isAbsolute_of_not_mem hslash]
    have hempty : t.place ⟨""⟩ = t.current := rfl
    rw [hjoin, hempty, place, Path.isAbsolute_of_not_mem hslash, Path.steps_of_entryName h]
    simp [walk, h.notUp]
  · exact place_div hp h

theorem follow_concat_ok {names : List String} {last : String} {start : Location}
    (h : t.follow start (names ++ [last]) = .ok l) :
    ∃ d, t.get? d = some .directory ∧ l = if last = ".." then d.dropLast else d ++ [last] := by
  induction names generalizing start with
  | nil =>
    obtain ⟨hdir, h⟩ := follow_cons_ok h
    cases h
    exact ⟨start, hdir, rfl⟩
  | cons name names ih => exact ih (follow_cons_ok h).2

/-- A path to a file ends in the name of the file. -/
theorem WellFormed.exists_fileName? (hwf : t.WellFormed) (h : t.readBytes p = .ok content) :
    ∃ name, p.fileName? = some name ∧ IsEntryName name ∧ (t.place p).getLast? = some name := by
  obtain ⟨l, hfind⟩ := readBytes_eq_ok_iff.mp h
  obtain ⟨hlocate, hget, -⟩ := find_eq_ok_iff.mp hfind
  dsimp only at hlocate hget
  obtain ⟨hp, hfollow, hdot⟩ := locate_eq_ok_iff.mp hlocate
  have hnot : t.get? l ≠ some .directory := by simp [hget]
  rcases List.eq_nil_or_concat p.steps with hsteps | ⟨names, last, hsteps⟩
  · -- without a step the path leads to the working directory or the root
    have hl := eq_walk_of_follow hfollow
    rw [hsteps] at hl
    cases habs : p.isAbsolute with
    | true => exact absurd (hl.trans (if_pos habs)) (by rintro rfl; exact hnot get?_nil)
    | false => exact absurd (hdot (Path.endsInDot_of_steps_eq_nil hp.1 habs hsteps)) hnot
  · rw [List.concat_eq_append] at hsteps
    rw [hsteps] at hfollow
    obtain ⟨d, hdir, hl⟩ := follow_concat_ok hfollow
    have hup : last ≠ ".." := by
      rintro rfl
      rw [if_pos rfl] at hl
      exact hnot (hl ▸ hwf.get?_dropLast hdir)
    have hlast : last ∈ p.steps := by simp [hsteps]
    refine ⟨last, Path.fileName?_eq_some_iff.mpr ⟨names, hsteps, hup⟩,
      Path.isEntryName_of_mem_steps hp hlast hup, ?_⟩
    rw [← eq_place_of_locate hlocate]
    exact getLast?_of_locate hsteps hup hlocate

/-- What can be read in a tree can be read in one that has more. -/
theorem readBytes_mono (hcurrent : t'.current = t.current)
    (hmore : ∀ k n, t.get? k = some n → t'.get? k = some n) (h : t.readBytes p = .ok content) :
    t'.readBytes p = .ok content := by
  obtain ⟨l, hfind⟩ := readBytes_eq_ok_iff.mp h
  obtain ⟨hlocate, hget, hname⟩ := find_eq_ok_iff.mp hfind
  obtain ⟨hp, hfollow, hdot⟩ := locate_eq_ok_iff.mp hlocate
  have hmono (names : List String) (start : Location) (h : t.follow start names = .ok l) :
      t'.follow start names = .ok l := by
    induction names generalizing start with
    | nil => exact h
    | cons name names ih =>
      obtain ⟨hdir, h⟩ := follow_cons_ok h
      rw [follow, hmore _ _ hdir]
      exact ih _ h
  have hlocate' : t'.locate p = .ok l :=
    locate_eq_ok_iff.mpr ⟨hp, hcurrent ▸ hmono _ _ hfollow, fun hd => hmore _ _ (hdot hd)⟩
  exact readBytes_of_get? hlocate' (hmore _ _ hget) (hname ⟨content, rfl⟩)

theorem readBytes_of_remove (h : (t.remove l).readBytes p = .ok content) :
    t.readBytes p = .ok content := by
  refine readBytes_mono (t := t.remove l) rfl (fun k n hget => ?_) h
  by_cases hk : k = []
  · subst hk
    rw [get?_nil] at hget ⊢
    exact hget
  · rw [get?_remove hk] at hget
    split at hget
    · cases hget
    · exact hget

/-- A file that is not written could be read before, if the path never leads up. -/
theorem Edits.readBytes_before (h : Edits written t t') (hwf : t.WellFormed)
    (hup : ".." ∉ p.steps) (hread : t'.readBytes p = .ok content) (hp : ¬ written (t.place p)) :
    t.readBytes p = .ok content := by
  obtain ⟨l, hfind⟩ := readBytes_eq_ok_iff.mp hread
  obtain ⟨hlocate, hget, hname⟩ := find_eq_ok_iff.mp hfind
  obtain ⟨husable, -, hdot⟩ := locate_eq_ok_iff.mp hlocate
  have hl : l = t.place p := (eq_place_of_locate hlocate).trans (place_congr h.current p)
  have hget' : t.get? l = some (.file content) :=
    (h.get?_file hget).resolve_right (hl ▸ hp)
  have hfollow : t.follow (if p.isAbsolute then [] else t.current) p.steps = .ok l := by
    rw [hl, place, walk_of_not_mem hup] at hget' ⊢
    exact hwf.follow_of_get? hup (ne_of_eq_of_ne hget' (Option.some_ne_none _))
  refine readBytes_of_get? (locate_eq_ok_iff.mpr ⟨husable, hfollow, fun hd => ?_⟩) hget'
    (hname ⟨content, rfl⟩)
  cases hget.symm.trans (hdot hd)

/-- The same for what lies at a path or right below it, if there was something at the path. -/
theorem Edits.readBytes_before_of_exists (h : Edits written t t') (hdir : t.exists? dir = true)
    (hpath : path = dir ∨ ∃ name, IsEntryName name ∧ path = dir / name)
    (hread : t'.readBytes path = .ok content) (hp : ¬ written (t.place path)) :
    t.readBytes path = .ok content := by
  obtain ⟨l, hfind⟩ := readBytes_eq_ok_iff.mp hread
  obtain ⟨hlocate, hget, hname⟩ := find_eq_ok_iff.mp hfind
  have hl : l = t.place path := (eq_place_of_locate hlocate).trans (place_congr h.current path)
  have hget' : t.get? l = some (.file content) := (h.get?_file hget).resolve_right (hl ▸ hp)
  have hlocate' : t.locate path = .ok l := by
    unfold exists? at hdir
    cases hfound : t.find dir with
    | error fault =>
      rw [hfound] at hdir
      cases hdir
    | ok found =>
      obtain ⟨k, node⟩ := found
      obtain ⟨hk, hnode, -⟩ := find_eq_ok_iff.mp hfound
      rcases hpath with rfl | ⟨name, hentry, rfl⟩
      · rw [hk, hl, eq_place_of_locate hk]
      · have htext := (locate_eq_ok_iff.mp hk).1.1
        have hthere := find_of_locate_join htext (Path.isAbsolute_of_not_mem hentry.noSlash)
          (by simp [Path.steps_of_entryName hentry]) hlocate
        cases node with
        | directory => rw [locate_div hfound hentry, hl, place_div htext hentry,
            ← eq_place_of_locate hk]
        | file other =>
          -- a file stays a file, but a path leads through the place
          obtain ⟨other', hfile⟩ := h.exists_file hnode
          have hk' : k = t'.place dir :=
            (eq_place_of_locate hk).trans (place_congr h.current dir).symm
          cases (hk' ▸ hfile).symm.trans (find_eq_ok_iff.mp hthere).2.1
  exact readBytes_of_get? hlocate' hget' (hname ⟨content, rfl⟩)

/-- After writing a file, a path that led to the same place reads what was written, and any other
what it read before. -/
theorem readBytes_write {source : Path} {new : ByteArray} (h : t.write p new = .ok t')
    (hread : t.readBytes source = .ok content) :
    t'.readBytes source = .ok (if t.place source = t.place p then new else content) := by
  obtain ⟨hedits, hnew⟩ := edits_write h
  split
  next hsame =>
    obtain ⟨l, hfind⟩ := readBytes_eq_ok_iff.mp hread
    obtain ⟨hlocate, -, hname⟩ := find_eq_ok_iff.mp hfind
    obtain ⟨k, hfound⟩ := readBytes_eq_ok_iff.mp hnew
    have hk : k = l := (eq_place_of_find hfound).trans ((place_congr hedits.current p).trans
      (hsame.symm.trans (eq_place_of_locate hlocate).symm))
    exact readBytes_of_get? (hedits.locate_ok hlocate) (hk ▸ (find_eq_ok_iff.mp hfound).2.1)
      (hname ⟨content, rfl⟩)
  next hne => exact hedits.readBytes_ok hread hne

/-- A copy has the contents of the source, unless it is the source: opening the target for writing
has emptied it. In either case both are the same then. -/
theorem readBytes_copy {source : Path} (h : t.copy source p = .ok t')
    (hread : t.readBytes source = .ok content) :
    t'.readBytes p = .ok (if t.place source = t.place p then .empty else content) ∧
      t'.readBytes source = .ok (if t.place source = t.place p then .empty else content) := by
  unfold copy at h
  rw [hread] at h
  dsimp only at h
  split at h
  · cases h
  next emptied hemptied =>
    have hplace (q : Path) : emptied.place q = t.place q :=
      place_congr (edits_write hemptied).1.current q
    have hsource := readBytes_write hemptied hread
    rw [hsource] at h
    refine ⟨(edits_write h).2, ?_⟩
    rw [readBytes_write h hsource, ite_self]

end FileTree

section Found

variable {t t' : FileTree} {dir packageDir license other : Path} {moduleDir : Option Path}
  {name : String} {content : ByteArray}

/-- What is looked at as a licence of a directory: the path itself, or an entry of it. -/
def LooksIn (dir path : Path) : Prop :=
  path = dir ∨ ∃ name, IsEntryName name ∧ path = dir / name

/-- The licences are the files with the name of one that are looked at. -/
theorem mem_licensesIn_iff_readBytes (hwf : t.WellFormed) :
    license ∈ licensesIn t dir ↔ dir.text ≠ "" ∧ LooksIn dir license ∧
      ∃ name content, license.fileName? = some name ∧ isLicenseName name = true ∧
        t.readBytes license = .ok content := by
  constructor
  · intro h
    unfold licensesIn at h
    split at h
    next => cases h
    next l content hfind =>
      split at h
      next hlicense =>
        obtain rfl := List.mem_singleton.mp h
        have hread := FileTree.readBytes_eq_ok_iff.mpr ⟨l, hfind⟩
        obtain ⟨name, hname, -⟩ := hwf.exists_fileName? hread
        rw [hname, Option.getD_some] at hlicense
        exact ⟨(FileTree.locate_eq_ok_iff.mp (FileTree.find_eq_ok_iff.mp hfind).1).1.1, Or.inl rfl,
          name, content, hname, hlicense, hread⟩
      next => cases h
    next l hfind =>
      obtain ⟨hpath, hfile⟩ := List.mem_filter.mp ((List.mergeSort_perm _ _).mem_iff.mp h)
      obtain ⟨child, hchild, rfl⟩ := List.mem_map.mp hpath
      obtain ⟨hchild, hlicense⟩ := List.mem_filter.mp hchild
      obtain ⟨node, hentry⟩ := FileTree.mem_childNames_iff.mp hchild
      have hentryName : IsEntryName child := (hwf.named _ hentry).2 child (by simp)
      obtain ⟨content, hread⟩ := FileTree.isFile_iff.mp hfile
      exact ⟨(FileTree.locate_eq_ok_iff.mp (FileTree.find_eq_ok_iff.mp hfind).1).1.1,
        Or.inr ⟨child, hentryName, rfl⟩, child, content, Path.fileName?_div hentryName, hlicense,
        hread⟩
  · rintro ⟨htext, rfl | ⟨entry, hentry, rfl⟩, name, content, hname, hlicense, hread⟩
    · obtain ⟨l, hfind⟩ := FileTree.readBytes_eq_ok_iff.mp hread
      simp [licensesIn, hfind, hname, hlicense]
    · obtain rfl : entry = name := Option.some.inj ((Path.fileName?_div hentry).symm.trans hname)
      obtain ⟨k, hfound⟩ := FileTree.readBytes_eq_ok_iff.mp hread
      obtain ⟨hlocate, hget, -⟩ := FileTree.find_eq_ok_iff.mp hfound
      have hfind := FileTree.find_of_locate_join htext (Path.isAbsolute_of_not_mem hentry.noSlash)
        (by simp [Path.steps_of_entryName hentry]) hlocate
      cases (FileTree.locate_div hfind hentry).symm.trans hlocate
      exact (mem_licensesIn_iff hwf hfind).mpr ⟨entry, rfl, hlicense, content, hget⟩

/-- The licences of a directory have different names. -/
theorem eq_of_mem_licensesIn (hwf : t.WellFormed) (h : license ∈ licensesIn t dir)
    (h' : other ∈ licensesIn t dir) (hname : license.fileName? = some name)
    (hname' : other.fileName? = some name) : other = license := by
  obtain ⟨htext, hlooks, -, content, -, -, hread⟩ := (mem_licensesIn_iff_readBytes hwf).mp h
  obtain ⟨-, hlooks', -, content', -, -, hread'⟩ := (mem_licensesIn_iff_readBytes hwf).mp h'
  have hnot (entry : String) (hentry : IsEntryName entry) {x y : ByteArray}
      (hx : t.readBytes dir = .ok x) (hy : t.readBytes (dir / entry) = .ok y) : False := by
    -- the path itself is no file if it has entries
    obtain ⟨l, hfind⟩ := FileTree.readBytes_eq_ok_iff.mp hx
    obtain ⟨k, hfound⟩ := FileTree.readBytes_eq_ok_iff.mp hy
    have hdir := FileTree.find_of_locate_join htext (Path.isAbsolute_of_not_mem hentry.noSlash)
      (by simp [Path.steps_of_entryName hentry]) (FileTree.find_eq_ok_iff.mp hfound).1
    cases hfind.symm.trans hdir
  rcases hlooks with rfl | ⟨entry, hentry, rfl⟩ <;>
    rcases hlooks' with rfl | ⟨entry', hentry', rfl⟩
  · rfl
  · exact (hnot entry' hentry' hread hread').elim
  · exact (hnot entry hentry hread' hread).elim
  · rw [Path.fileName?_div hentry] at hname
    rw [Path.fileName?_div hentry', ← hname] at hname'
    rw [Option.some.inj hname']

theorem exists_dir_licensesOf (h : license ∈ licensesOf t packageDir moduleDir) :
    ∃ dir, licensesOf t packageDir moduleDir = licensesIn t dir := by
  unfold licensesOf at h ⊢
  dsimp only at h ⊢
  split at h
  next hempty =>
    cases moduleDir with
    | none => cases h
    | some dir => exact ⟨dir, by simp [hempty]⟩
  next hempty => exact ⟨packageDir, by rw [if_neg hempty]⟩

/-- Copies of different licences come to different places, and not to that of a licence. -/
theorem place_ne_of_mem_licensesOf (hwf : t.WellFormed)
    (h : license ∈ licensesOf t packageDir moduleDir)
    (h' : other ∈ licensesOf t packageDir moduleDir) (hne : other ≠ license) {name' : String}
    (hname : license.fileName? = some name) (hname' : other.fileName? = some name') (dir : Path) :
    t.place (dir / name') ≠ t.place (dir / name) ∧ t.place (dir / name') ≠ t.place license := by
  obtain ⟨found, hfound⟩ := exists_dir_licensesOf h
  rw [hfound] at h h'
  have hnames : name' ≠ name := by
    rintro rfl
    exact hne (eq_of_mem_licensesIn hwf h h' hname hname')
  have hlast {path : Path} {name : String} (hpath : path ∈ licensesIn t found)
      (hname : path.fileName? = some name) :
      IsEntryName name ∧ (t.place path).getLast? = some name := by
    obtain ⟨-, -, -, content, -, -, hread⟩ := (mem_licensesIn_iff_readBytes hwf).mp hpath
    obtain ⟨name', hname', hlast⟩ := hwf.exists_fileName? hread
    cases hname.symm.trans hname'
    exact hlast
  obtain ⟨hentry, hplace⟩ := hlast h hname
  obtain ⟨hentry', -⟩ := hlast h' hname'
  constructor <;> intro heq <;> have hget := congrArg List.getLast? heq
  · rw [FileTree.getLast?_place_div hentry', FileTree.getLast?_place_div hentry] at hget
    exact hnames (Option.some.inj hget)
  · rw [FileTree.getLast?_place_div hentry', hplace] at hget
    exact hnames (Option.some.inj hget)

/-- A licence is found in a later tree if it can still be read and the directory of the package has
got no licence since. -/
theorem mem_licensesOf_later (hwf : t.WellFormed) (hwf' : t'.WellFormed)
    (h : license ∈ licensesOf t packageDir moduleDir) (hread : t'.readBytes license = .ok content)
    (hback : ∀ path name, LooksIn packageDir path → path.fileName? = some name →
      isLicenseName name = true → t'.isFile path = true → t.isFile path = true) :
    license ∈ licensesOf t' packageDir moduleDir := by
  have hlater (dir : Path) (h : license ∈ licensesIn t dir) : license ∈ licensesIn t' dir := by
    obtain ⟨htext, hlooks, name, -, hname, hlicense, -⟩ := (mem_licensesIn_iff_readBytes hwf).mp h
    exact (mem_licensesIn_iff_readBytes hwf').mpr
      ⟨htext, hlooks, name, content, hname, hlicense, hread⟩
  have hbefore (path : Path) (h : path ∈ licensesIn t' packageDir) :
      path ∈ licensesIn t packageDir := by
    obtain ⟨htext, hlooks, name, x, hname, hlicense, hx⟩ :=
      (mem_licensesIn_iff_readBytes hwf').mp h
    obtain ⟨y, hy⟩ := FileTree.isFile_iff.mp
      (hback path name hlooks hname hlicense (FileTree.isFile_iff.mpr ⟨x, hx⟩))
    exact (mem_licensesIn_iff_readBytes hwf).mpr ⟨htext, hlooks, name, y, hname, hlicense, hy⟩
  unfold licensesOf at h ⊢
  dsimp only at h ⊢
  split at h
  next hempty =>
    have hempty' : (licensesIn t' packageDir).isEmpty = true := by
      rw [List.isEmpty_iff] at hempty ⊢
      refine List.eq_nil_iff_forall_not_mem.mpr fun path hpath => ?_
      have := hbefore path hpath
      simp [hempty] at this
    rw [if_pos hempty']
    cases moduleDir with
    | none => cases h
    | some dir => exact hlater dir h
  next =>
    have hmem := hlater packageDir h
    rwa [if_neg (by simpa using List.ne_nil_of_mem hmem)]

end Found

section Copied

variable {c c' : Console} {dir license : Path} {licenses : List Path} {name : String}
  {content : ByteArray}

/-- A licence is copied as it is before, or emptied if it is copied onto itself, if no other licence
is copied to its place or over its copy. -/
theorem copyLicenses_ok (h : (copyLicenses dir licenses).run c = (.ok (), c'))
    (hmem : license ∈ licenses) (hname : license.fileName? = some name)
    (hread : c.files.readBytes license = .ok content)
    (hothers : ∀ other ∈ licenses, ∀ name', other.fileName? = some name' → other ≠ license →
      c.files.place (dir / name') ≠ c.files.place (dir / name) ∧
        c.files.place (dir / name') ≠ c.files.place license) :
    c'.files.readBytes (dir / name) =
      .ok (if c.files.place license = c.files.place (dir / name) then .empty else content) := by
  induction licenses generalizing c content with
  | nil => cases hmem
  | cons first rest ih =>
    rw [copyLicenses] at h
    have hrest := (List.forall_mem_cons.mp hothers).2
    by_cases hfirst : first = license
    · subst hfirst
      rw [hname] at h
      obtain ⟨⟨⟩, c₁, hchange, h⟩ := run_bind_eq_ok.mp h
      obtain ⟨files, hfiles, rfl⟩ := Action.run_change_eq_ok.mp hchange
      obtain ⟨hbytes, hsource⟩ := FileTree.readBytes_copy hfiles hread
      have hplace (p : Path) : (c.setFiles files).files.place p = c.files.place p :=
        FileTree.place_congr (FileTree.edits_copy hfiles).current p
      by_cases hagain : first ∈ rest
      · have hlater := ih h hagain hsource (by simpa only [hplace] using hrest)
        rw [hlater, hplace, hplace]
        split <;> rfl
      · refine (edits_copyLicenses h).readBytes_ok hbytes ?_
        rintro ⟨other, hother, name', hname', hwritten⟩
        rw [hplace, hplace] at hwritten
        exact (hrest other hother name' hname' (ne_of_mem_of_not_mem hother hagain)).1 hwritten.symm
    · have hmem := (List.mem_cons.mp hmem).resolve_left (Ne.symm hfirst)
      cases hname' : first.fileName? with
      | none =>
        rw [hname'] at h
        exact ih h hmem hread hrest
      | some name' =>
        rw [hname'] at h
        obtain ⟨⟨⟩, c₁, hchange, h⟩ := run_bind_eq_ok.mp h
        obtain ⟨files, hfiles, rfl⟩ := Action.run_change_eq_ok.mp hchange
        have hcopy := FileTree.edits_copy hfiles
        have hplace (p : Path) : (c.setFiles files).files.place p = c.files.place p :=
          FileTree.place_congr hcopy.current p
        have hother := hothers first List.mem_cons_self name' hname' hfirst
        have hkept := hcopy.readBytes_ok hread (Ne.symm hother.2)
        have hlater := ih h hmem hkept (by simpa only [hplace] using hrest)
        rwa [hplace, hplace] at hlater

end Copied

namespace StubWriter

variable {e : StubWriter} {root : Path} {s : SourcedStub} {text : String} {c c' : Console}

theorem vendorStubs_append {xs ys : List (SourcedStub × String)}
    (h : (e.vendorStubs root (xs ++ ys)).run c = (.ok (), c')) :
    ∃ c₁, (e.vendorStubs root xs).run c = (.ok (), c₁) ∧
      (e.vendorStubs root ys).run c₁ = (.ok (), c') := by
  induction xs generalizing c with
  | nil => exact ⟨c, rfl, h⟩
  | cons x xs ih =>
    obtain ⟨s, text⟩ := x
    obtain ⟨⟨⟩, c₁, hfirst, h⟩ := run_bind_eq_ok.mp h
    obtain ⟨c₂, hxs, hys⟩ := ih h
    exact ⟨c₂, run_bind_eq_ok.mpr ⟨(), c₁, hfirst, hxs⟩, hys⟩

theorem readBytes_of_startTree {t : FileTree} {p : Path} {content : ByteArray}
    (h : (e.startTree root t).readBytes p = .ok content) : t.readBytes p = .ok content := by
  unfold startTree at h
  split at h
  · exact FileTree.readBytes_of_remove h
  · exact h

/-- The places that are written for stubs lie right in their directories. -/
theorem exists_of_vendored {t : FileTree} {stubs written : List SourcedStub} {l : Location}
    (hwf : t.WellFormed) (h : Vendored t root stubs written l) :
    ∃ s ∈ written, l.dropLast = t.place (root / s.stub.package) ∧ l ≠ [] := by
  obtain ⟨s, hs, rfl | ⟨name, hname, rfl⟩⟩ := h
  · rw [FileTree.place_entry isEntryName_stubFileName]
    exact ⟨s, hs, by simp, by simp⟩
  · rw [FileTree.place_entry (hname.isEntryName hwf)]
    exact ⟨s, hs, by simp, by simp⟩

theorem vendored_mono {t : FileTree} {stubs written written' : List SourcedStub} {l : Location}
    (h : Vendored t root stubs written l) (hsub : ∀ s ∈ written, s ∈ written') :
    Vendored t root stubs written' l := by
  obtain ⟨s, hs, hl⟩ := h
  exact ⟨s, hsub s hs, hl⟩

/-- The directories whose files count when a licence is looked for: that of the licence, the
directory of the package, and the one above it if the package directory has the name of a licence
and so might be one. -/
def licensePlaces (t : FileTree) (packageDir license : Path) : List Location :=
  [(t.place license).dropLast, t.place packageDir] ++
    if packageDir.fileName?.any isLicenseName then [(t.place packageDir).dropLast] else []

theorem dropLast_mem_licensePlaces {t : FileTree} {packageDir license path : Path} {name : String}
    (hlooks : LooksIn packageDir path) (hname : path.fileName? = some name)
    (hlicense : isLicenseName name = true) :
    (t.place path).dropLast ∈ licensePlaces t packageDir license := by
  rcases hlooks with rfl | ⟨entry, hentry, rfl⟩
  · simp [licensePlaces, hname, hlicense]
  · rw [FileTree.place_entry hentry, List.dropLast_concat]
    simp [licensePlaces]

theorem licensePlaces_congr {t t' : FileTree} (h : t'.current = t.current)
    (packageDir license : Path) :
    licensePlaces t' packageDir license = licensePlaces t packageDir license := by
  simp only [licensePlaces, FileTree.place_congr h]

section Lookup

variable {t t₁ : FileTree} {stubs before after : List SourcedStub} {license path : Path}
  {name : String} {content : ByteArray}

/-- Places that are written before the licences of a stub are looked for. -/
def WrittenBefore (t : FileTree) (root : Path) (stubs before : List SourcedStub) (s : SourcedStub)
    (l : Location) : Prop :=
  Vendored t root stubs before l ∨ l = t.place (stubPath root s)

theorem not_writtenBefore (hwf : t.WellFormed) (hlast : (t.place path).getLast? = some name)
    (hlicense : isLicenseName name = true)
    (hapart : ∀ s' ∈ before, t.place (root / s'.stub.package) ≠ (t.place path).dropLast) :
    ¬ WrittenBefore t root stubs before s (t.place path) := by
  rintro (hwritten | hstub)
  · obtain ⟨s', hs', hplace, -⟩ := exists_of_vendored hwf hwritten
    exact hapart s' hs' hplace.symm
  · rw [hstub, stubPath, FileTree.getLast?_place_div isEntryName_stubFileName] at hlast
    cases hlast
    cases hlicense.symm.trans isLicenseName_stubFileName

/-- Nothing that is written before makes a licence in the directory of the package. -/
theorem isFile_of_writtenBefore (hwf : t.WellFormed)
    (hedits : Edits (WrittenBefore t root stubs before s) t t₁)
    (hup : ".." ∈ s.packageDir.steps → t.exists? s.packageDir = true)
    (hbefore : ∀ s' ∈ before,
      t.place (root / s'.stub.package) ∉ licensePlaces t s.packageDir license)
    (hlooks : LooksIn s.packageDir path) (hname : path.fileName? = some name)
    (hlicense : isLicenseName name = true) (hfile : t₁.isFile path = true) :
    t.isFile path = true := by
  obtain ⟨content, hread⟩ := FileTree.isFile_iff.mp hfile
  obtain ⟨name', hname', -, hlast⟩ := (hedits.wellFormed hwf).exists_fileName? hread
  cases hname.symm.trans hname'
  rw [FileTree.place_congr hedits.current] at hlast
  have hapart : ∀ s' ∈ before, t.place (root / s'.stub.package) ≠ (t.place path).dropLast :=
    fun s' hs' hplace =>
      hbefore s' hs' (hplace ▸ dropLast_mem_licensePlaces hlooks hname hlicense)
  have hnot : ¬ WrittenBefore t root stubs before s (t.place path) :=
    not_writtenBefore hwf hlast hlicense hapart
  refine FileTree.isFile_iff.mpr ⟨content, ?_⟩
  by_cases hsteps : ".." ∈ s.packageDir.steps
  · exact hedits.readBytes_before_of_exists (hup hsteps) hlooks hread hnot
  · refine hedits.readBytes_before hwf ?_ hread hnot
    rcases hlooks with rfl | ⟨entry, hentry, rfl⟩
    · exact hsteps
    · rw [Path.steps_div hentry]
      simpa [hentry.notUp.symm] using hsteps

end Lookup

/-- What happens before and after the licences of one of the stubs are copied. -/
theorem writeAll_around {before after : List SourcedStub} (hdest : e.destination = .vendor root)
    (hwf : c.files.WellFormed) (haccepted : e.Accepted c.world.terminal (stubPath root s))
    (h : (e.writeAll (before ++ s :: after)).run c = (.ok (), c')) :
    ∃ c₁ c₂, Edits (WrittenBefore (e.startTree root c.files) root (before ++ s :: after) before s)
        (e.startTree root c.files) c₁.files ∧
      (copyLicenses (root / s.stub.package)
        (licensesOf c₁.files s.packageDir s.moduleDir)).run c₁ = (.ok (), c₂) ∧
      Edits (fun l => Vendored (e.startTree root c.files) root (before ++ s :: after) after l ∨
        l = c.files.place (root / modulesFileName)) c₂.files c'.files := by
  obtain ⟨texts, hstubs, -, hrun⟩ := writeAll_ok hdest h
  obtain ⟨c₀, c₄, n, hstart, hterminal, hrun, hmodules⟩ := vendorAll_ok hrun
  obtain ⟨xs, ys, rfl, hxs, hys⟩ := List.map_eq_append_iff.mp hstubs
  obtain ⟨⟨s, text⟩, zs, rfl, rfl, hzs⟩ := List.map_eq_cons_iff.mp hys
  obtain ⟨c₁, hrunBefore, hrun⟩ := vendorStubs_append hrun
  obtain ⟨⟨⟩, c₃, hrunStub, hrunAfter⟩ := run_bind_eq_ok.mp hrun
  have hterminal₁ : c₁.world.terminal = c.world.terminal := by
    have hkept := keepsTerminal_vendorStubs e root xs c₀
    rw [hrunBefore] at hkept
    exact hkept.trans hterminal
  obtain ⟨c₁', c₂, c₂', hsame, hput, hfiles, hcopy⟩ :=
    (vendorStub_steps hrunStub).resolve_left fun hleft => hleft.2 (hterminal₁ ▸ haccepted)
  -- what the stubs before, this one and those after it write
  have hwf₀ : (e.startTree root c.files).WellFormed := startTree_wellFormed hwf
  have hbase : Edits (Vendored (e.startTree root c.files) root (before ++ s :: after)
      (before ++ s :: after)) (e.startTree root c.files) c₀.files := hstart ▸ .refl _
  obtain ⟨hedits₁, -, -⟩ := vendorStubs_ok hwf₀ hbase
    (fun x hx => List.mem_append_left _ (hxs ▸ List.mem_map_of_mem hx)) hrunBefore
  rw [hxs] at hedits₁
  have hall₁ := hbase.trans (hedits₁.mono fun l hl =>
    vendored_mono hl fun s hs => List.mem_append_left _ hs)
  obtain ⟨hedits₃, -⟩ := vendorStub_ok hwf₀ hall₁ (by simp) hrunStub
  have hall₃ := hall₁.trans (hedits₃.mono fun l hl => vendored_mono hl (by simp))
  obtain ⟨hedits₄, -, -⟩ := vendorStubs_ok hwf₀ hall₃
    (fun x hx => List.mem_append_right _ (List.mem_cons_of_mem _ (hzs ▸ List.mem_map_of_mem hx)))
    hrunAfter
  rw [hzs] at hedits₄
  obtain ⟨hstub, -⟩ := putStub_ok hput
  rw [hsame] at hstub
  obtain ⟨-, t₄, hcreate, hwrite⟩ := writeModules_ok hmodules
  have hcreated := FileTree.edits_createDirectories hcreate
  obtain ⟨hwritten, -⟩ := FileTree.edits_write hwrite
  refine ⟨c₂', c₃, ?_, hfiles ▸ hcopy, ?_⟩
  · rw [hfiles]
    refine ((hstart ▸ hedits₁).mono fun _ => Or.inl).trans (hstub.mono fun l hl => Or.inr ?_)
    rw [hl, FileTree.place_congr hall₁.current]
  · refine (hedits₄.mono fun _ => Or.inl).trans
      ((hcreated.mono fun _ hl => hl.elim).trans (hwritten.mono fun l hl => Or.inr ?_))
    rw [hl, FileTree.place_congr hcreated.current, FileTree.place_congr hedits₄.current,
      FileTree.place_congr hall₃.current, FileTree.place_congr startTree_current]

/-- A licence of a stub that nobody declines comes beside the stub with the contents it had before
anything was written, or emptied if that is where it was. Conditions: it is there once an old tree
is removed; a package directory whose path leads up is there; no earlier stub goes to a directory
whose files count when the licence is looked for, and no later one where this one goes. -/
theorem license_beside_stub {before after : List SourcedStub} {license : Path}
    (hdest : e.destination = .vendor root) (hwf : c.files.WellFormed)
    (haccepted : e.Accepted c.world.terminal (root / s.stub.package / stubFileName))
    (hlicense : license ∈ licensesOf c.files s.packageDir s.moduleDir)
    (hkept : (e.startTree root c.files).isFile license = true)
    (hup : ".." ∈ s.packageDir.steps → (e.startTree root c.files).exists? s.packageDir = true)
    (hbefore : ∀ s' ∈ before,
      c.files.place (root / s'.stub.package) ∉ licensePlaces c.files s.packageDir license)
    (hafter : ∀ s' ∈ after,
      c.files.place (root / s'.stub.package) ≠ c.files.place (root / s.stub.package))
    (h : (e.writeAll (before ++ s :: after)).run c = (.ok (), c')) :
    ∃ name content, license.fileName? = some name ∧ isLicenseName name = true ∧
      c.files.readBytes license = .ok content ∧
      c'.files.readBytes (root / s.stub.package / name) =
        .ok (if c.files.place license = c.files.place (root / s.stub.package / name) then .empty
          else content) := by
  obtain ⟨c₁, c₂, hearlier, hcopy, hlater⟩ := writeAll_around hdest hwf haccepted h
  have hwf₀ : (e.startTree root c.files).WellFormed := startTree_wellFormed hwf
  have hplace₀ (p : Path) : (e.startTree root c.files).place p = c.files.place p :=
    FileTree.place_congr startTree_current p
  have hplace₁ (p : Path) : c₁.files.place p = c.files.place p :=
    (FileTree.place_congr hearlier.current p).trans (hplace₀ p)
  have hbefore₀ (s' : SourcedStub) (hs' : s' ∈ before) :
      (e.startTree root c.files).place (root / s'.stub.package) ∉
        licensePlaces (e.startTree root c.files) s.packageDir license := by
    rw [hplace₀, licensePlaces_congr startTree_current]
    exact hbefore s' hs'
  obtain ⟨content, hread⟩ := FileTree.isFile_iff.mp hkept
  obtain ⟨name, hname, hentry, hlast⟩ := hwf₀.exists_fileName? hread
  have hread₀ := readBytes_of_startTree hread
  obtain ⟨dir, hdir⟩ := exists_dir_licensesOf hlicense
  have hisLicense : isLicenseName name = true := by
    obtain ⟨-, -, name', -, hname', hn, -⟩ :=
      (mem_licensesIn_iff_readBytes hwf).mp (hdir ▸ hlicense)
    cases hname.symm.trans hname'
    exact hn
  have hread₁ : c₁.files.readBytes license = .ok content :=
    hearlier.readBytes_ok hread (not_writtenBefore hwf₀ hlast hisLicense fun s' hs' heq =>
      hbefore₀ s' hs' (heq ▸ List.mem_cons_self))
  have hfound : license ∈ licensesOf c₁.files s.packageDir s.moduleDir := by
    refine mem_licensesOf_later hwf (hearlier.wellFormed hwf₀) hlicense hread₁
      fun path name hlooks hname hlicense hfile => ?_
    obtain ⟨x, hx⟩ := FileTree.isFile_iff.mp (isFile_of_writtenBefore hwf₀ hearlier hup
      hbefore₀ hlooks hname hlicense hfile)
    exact FileTree.isFile_iff.mpr ⟨x, readBytes_of_startTree hx⟩
  have hcopied := copyLicenses_ok hcopy hfound hname hread₁ fun other hother name' hname' hne =>
    place_ne_of_mem_licensesOf (hearlier.wellFormed hwf₀) hfound hother hne hname hname' _
  rw [hplace₁, hplace₁] at hcopied
  refine ⟨name, content, hname, hisLicense, hread₀, hlater.readBytes_ok hcopied ?_⟩
  rw [FileTree.place_congr (edits_copyLicenses hcopy).current, hplace₁]
  rintro (hwritten | hmodules)
  · obtain ⟨s', hs', hplace, -⟩ := exists_of_vendored hwf₀ hwritten
    rw [FileTree.place_entry hentry, List.dropLast_concat, hplace₀] at hplace
    exact hafter s' hs' hplace.symm
  · -- the list of modules is no licence
    have hget := congrArg List.getLast? hmodules
    rw [FileTree.getLast?_place_div hentry,
      FileTree.getLast?_place_div isEntryName_modulesFileName] at hget
    cases hget
    exact absurd hisLicense (by decide)

def middleRenewal : Renewal (vendorWriter "./vendor" true)
    ([emptyStub "b"] ++ emptyStub "a" :: [emptyStub "c"]) :=
  .ofIsOk (by decide +kernel)

/-- The licence of a module comes to a package of a tree that is made anew, between two others. -/
theorem renewed_vendor_license :
    ∃ c', ((vendorWriter "./vendor" true).writeAll
        ([emptyStub "b"] ++ emptyStub "a" :: [emptyStub "c"])).run oldConsole = (.ok (), c') ∧
      c'.files.readBytes ((⟨"./vendor"⟩ : Path) / "a" / "LICENSE") = .ok "free\n".toUTF8 := by
  have hrun := middleRenewal.2
  have hwf : oldConsole.files.WellFormed := oldModule_wellFormed
  have hlicense : (⟨"./LICENSE"⟩ : Path) ∈ licensesOf oldConsole.files (emptyStub "a").packageDir
      (emptyStub "a").moduleDir := by decide +kernel
  obtain ⟨name, content, hname, -, hread, hcopied⟩ := license_beside_stub rfl hwf
    (accepted_of_not_interactive rfl) hlicense (by decide +kernel) (by decide +kernel)
    (by decide +kernel) (by decide +kernel) hrun
  have hfileName : Path.fileName? ⟨"./LICENSE"⟩ = some "LICENSE" := by decide +kernel
  have hbytes : oldConsole.files.readBytes ⟨"./LICENSE"⟩ = .ok "free\n".toUTF8 := by
    decide +kernel
  have hplaces : oldConsole.files.place ⟨"./LICENSE"⟩ ≠ oldConsole.files.place
      ((⟨"./vendor"⟩ : Path) / (emptyStub "a").stub.package / "LICENSE") := by
    decide +kernel
  cases hfileName.symm.trans hname
  cases hbytes.symm.trans hread
  rw [if_neg hplaces] at hcopied
  exact ⟨_, hrun, hcopied⟩

/-- A vendored package with a licence, and another one that is not vendored. -/
def licensedModule : FileTree where
  entries := [
    (["p"], .directory),
    (["p", "LICENSE"], .file "new\n".toUTF8),
    (["vendor"], .directory),
    (["vendor", "a"], .directory),
    (["vendor", "a", "LICENSE"], .file "old\n".toUTF8)]
  current := []

/-- An empty stub for a package with sources in a directory. -/
def stubFrom (package packageDir : String) (moduleDir : Option Path) : SourcedStub :=
  ⟨⟨package, ["T"], []⟩, ⟨package, "p", "package p\n", []⟩, ⟨packageDir⟩, moduleDir⟩

/-- The file that is left at a path after writing stubs to a vendor tree, if that succeeds. -/
def leftAt (root : String) (force : Bool) (stubs : List SourcedStub) (path : String) :
    Option (Option String) :=
  let (result, c) :=
    ((vendorWriter root force).writeAll stubs).run (.start (.ofFiles licensedModule))
  if result.isOk then some (c.files.readText ⟨path⟩).toOption else none

/-- The licence of a package that is found in its vendored copy is emptied, or with force removed.
It is lost as well to a second stub for the same package, to a stub that goes where it is found, to
a package directory that is found only once stubs are written, and to one that has the name of a
licence and is made a licence by a stub that goes to the directory above it. -/
theorem vendored_license_lost :
    licensesOf licensedModule ⟨"vendor/a"⟩ none = [⟨"vendor/a/LICENSE"⟩] ∧
      licensesOf licensedModule ⟨"new/../p"⟩ (some ⟨"vendor/a"⟩) = [⟨"vendor/a/LICENSE"⟩] ∧
      licensesOf licensedModule ⟨"vendor/b/LICENSE"⟩ (some ⟨"vendor/a"⟩) =
        [⟨"vendor/a/LICENSE"⟩] ∧
      licensedModule.readText ⟨"vendor/a/LICENSE"⟩ = .ok "old\n" ∧
      leftAt "vendor" false [stubFrom "a" "vendor/a" none] "vendor/a/LICENSE" = some (some "") ∧
      leftAt "vendor" true [stubFrom "a" "vendor/a" none] "vendor/a/LICENSE" = some none ∧
      leftAt "vendor" false [stubFrom "b" "vendor/a" none, stubFrom "b" "p" none]
        "vendor/b/LICENSE" = some (some "new\n") ∧
      leftAt "vendor" false [stubFrom "a" "p" none, stubFrom "b" "vendor/a" none]
        "vendor/b/LICENSE" = some (some "new\n") ∧
      leftAt "new" false [stubFrom "b" "new/../p" (some ⟨"vendor/a"⟩)] "new/b/LICENSE" =
        some (some "new\n") ∧
      leftAt "vendor" false
          [stubFrom "b" "p" none, stubFrom "c" "vendor/b/LICENSE" (some ⟨"vendor/a"⟩)]
          "vendor/c/LICENSE" = some (some "new\n") := by
  decide +kernel

end StubWriter

end GoStub
