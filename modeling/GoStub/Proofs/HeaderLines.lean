import GoStub.Output.Header
import GoStub.Proofs.Lexis
import GoStub.Proofs.NameLists
import GoStub.Proofs.SingleLine

/-! The header of a stub by its lines. Whatever the notice in it, each line is a comment or empty,
and the last comment names the request, from which it can be read back. -/

namespace GoStub

namespace Text

theorem not_mem_dropReturn {c : Char} {line : List Char} (h : c ∉ line) : c ∉ dropReturn line := by
  unfold dropReturn
  cases hline : dropSuffix? ['\r'] line with
  | none => exact h
  | some rest =>
    rw [eq_append_of_dropSuffix? hline] at h
    exact fun hc => h (List.mem_append_left _ hc)

/-- No line of a text holds a line feed. -/
theorem not_mem_of_mem_lines {cs line : List Char} (h : line ∈ lines cs) : '\n' ∉ line := by
  have hended : ∀ line ∈ (split '\n' cs).dropLast.map dropReturn, '\n' ∉ line := by
    intro line hline
    obtain ⟨piece, hpiece, rfl⟩ := List.mem_map.mp hline
    exact not_mem_dropReturn (not_mem_of_mem_split (List.mem_of_mem_dropLast hpiece))
  unfold lines at h
  dsimp only at h
  split at h
  next c rest hlast =>
    rcases List.mem_append.mp h with h | h
    · exact hended line h
    · rw [List.mem_singleton.mp h]
      exact not_mem_of_mem_split (List.mem_of_getLast? hlast)
  next => exact hended line h

/-- No blank stands in the text. -/
def Unblank (cs : List Char) : Prop :=
  ∀ c ∈ cs, isBlank c = false

instance (cs : List Char) : Decidable (Unblank cs) :=
  List.decidableBAll _ cs

theorem Unblank.not_mem {cs : List Char} (h : Unblank cs) {c : Char} (hc : isBlank c = true) :
    c ∉ cs := by
  intro hmem
  simp [h c hmem] at hc

end Text

/-- A line that is empty or a comment. -/
def IsCommentLine (line : String) : Prop :=
  line = "" ∨ ∃ rest, line = "//" ++ rest

/-- A line of a notice as a comment. -/
def commentOf (line : String) : String :=
  if line = "" then "//" else "// " ++ line

def noticeLines (notice : String) : List String :=
  (Text.lines (Text.trimEnd notice.toList)).map fun line => commentOf (String.ofList line)

def licenseBelow : String :=
  "// See the license below for information about the licensing of the original library."

def licenseBeside : String :=
  "// See the LICENSE file for information about the licensing of the original library."

def licenseLines : Option String → List String
  | some notice => licenseBelow :: "" :: noticeLines notice ++ [""]
  | none => [licenseBeside]

def generatedLine : String :=
  "// Code generated by depstub. DO NOT EDIT."

def purposeLine (package : String) : String :=
  "// This is a simple stub for " ++ package ++ ", strictly for use in testing."

/-- The line that names the request. -/
def sourceLine (package : String) (request : Request) : String :=
  "// Source: " ++ package ++ " (exports: " ++ request.typesText ++ "; functions: " ++
    request.valuesText ++ ")"

def headerLines (package : String) (request : Request) (copyright : Option String) : List String :=
  generatedLine :: purposeLine package :: "" :: licenseLines copyright ++
    [sourceLine package request, ""]

theorem copyrightComment_eq (notice : String) :
    copyrightComment notice = endedLines (noticeLines notice) := by
  have hline (line : String) : copyrightLine line = commentOf line ++ "\n" := by
    unfold copyrightLine commentOf
    split <;> rfl
  rw [copyrightComment, endedLines, noticeLines, List.map_map]
  congr 2
  exact funext fun line => hline (String.ofList line)

theorem licenseComment_eq (copyright : Option String) :
    licenseComment copyright = endedLines (licenseLines copyright) := by
  cases copyright with
  | none =>
    have hbeside : licenseComment none = licenseBeside ++ "\n" := by decide
    rw [hbeside, licenseLines, endedLines_cons, endedLines_nil, String.append_empty]
  | some notice =>
    have hbelow : licenseComment (some notice) =
        licenseBelow ++ "\n" ++ "\n" ++ copyrightComment notice ++ "\n" := by
      rfl
    rw [hbelow, copyrightComment_eq]
    simp [-String.reduceAppend, licenseLines, endedLines_append, String.append_assoc]

theorem header_eq (package : String) (request : Request) (copyright : Option String) :
    header package request copyright = endedLines (headerLines package request copyright) := by
  have hcode (rest : String) : "// Code generated by depstub. DO NOT EDIT.\n" ++ rest =
      generatedLine ++ ("\n" ++ rest) := by
    rw [← String.append_assoc]
    congr 1
  have huse (rest : String) : ", strictly for use in testing.\n\n" ++ rest =
      ", strictly for use in testing." ++ ("\n" ++ ("\n" ++ rest)) := by
    rw [← String.append_assoc, ← String.append_assoc]
    congr 1
  have hclose : ")\n\n" = ")" ++ ("\n" ++ "\n") := by decide
  unfold header headerLines purposeLine sourceLine
  simp only [-String.reduceAppend, licenseComment_eq, endedLines_append, String.append_assoc,
    endedLines_cons, endedLines_nil, List.cons_append, String.append_empty, String.empty_append,
    hcode, huse, hclose]

theorem forall_mem_headerLines {P : String → Prop} {package : String} {request : Request}
    {copyright : Option String} (hgenerated : P generatedLine) (hpurpose : P (purposeLine package))
    (hempty : P "") (hlicense : ∀ line ∈ licenseLines copyright, P line)
    (hsource : P (sourceLine package request)) :
    ∀ line ∈ headerLines package request copyright, P line :=
  List.forall_mem_append.mpr ⟨List.forall_mem_cons.mpr ⟨hgenerated, List.forall_mem_cons.mpr
    ⟨hpurpose, List.forall_mem_cons.mpr ⟨hempty, hlicense⟩⟩⟩,
    List.forall_mem_cons.mpr ⟨hsource, List.forall_mem_singleton.mpr hempty⟩⟩

theorem forall_mem_licenseLines {P : String → Prop} (hbelow : P licenseBelow)
    (hbeside : P licenseBeside) (hempty : P "") {copyright : Option String}
    (hnotice : ∀ notice, ∀ line ∈ Text.lines (Text.trimEnd notice), P (commentOf (.ofList line))) :
    ∀ line ∈ licenseLines copyright, P line := by
  cases copyright with
  | none => exact List.forall_mem_singleton.mpr hbeside
  | some notice =>
    exact List.forall_mem_append.mpr ⟨List.forall_mem_cons.mpr ⟨hbelow, List.forall_mem_cons.mpr
      ⟨hempty, List.forall_mem_map.mpr (hnotice _)⟩⟩, List.forall_mem_singleton.mpr hempty⟩

theorem exists_comment {line : String} (h : line.toList.take 2 = ['/', '/']) :
    ∃ rest, line = "//" ++ rest := by
  refine ⟨.ofList (line.toList.drop 2), String.toList_injective ?_⟩
  calc
    line.toList = line.toList.take 2 ++ line.toList.drop 2 := (List.take_append_drop 2 _).symm
    _ = ['/', '/'] ++ line.toList.drop 2 := by rw [h]
    _ = ("//" ++ .ofList (line.toList.drop 2) : String).toList := by simp

theorem isCommentLine_append {line : String} (h : line.toList.take 2 = ['/', '/'])
    (rest : String) : IsCommentLine (line ++ rest) := by
  obtain ⟨start, rfl⟩ := exists_comment h
  exact Or.inr ⟨start ++ rest, String.append_assoc⟩

theorem isCommentLine_commentOf (line : String) : IsCommentLine (commentOf line) := by
  unfold commentOf
  split
  · exact Or.inr ⟨"", rfl⟩
  · exact isCommentLine_append (by decide) line

/-- Every line of a header is a comment or empty, whatever the notice. -/
theorem isCommentLine_headerLines (package : String) (request : Request)
    (copyright : Option String) :
    ∀ line ∈ headerLines package request copyright, IsCommentLine line := by
  have hpurpose : IsCommentLine (purposeLine package) := by
    unfold purposeLine
    rw [String.append_assoc]
    exact isCommentLine_append (by decide) _
  have hsource : IsCommentLine (sourceLine package request) := by
    unfold sourceLine
    simp only [String.append_assoc]
    exact isCommentLine_append (by decide) _
  have hlicense : ∀ line ∈ licenseLines copyright, IsCommentLine line :=
    forall_mem_licenseLines (Or.inr (exists_comment (by decide)))
      (Or.inr (exists_comment (by decide))) (Or.inl rfl)
      fun _ line _ => isCommentLine_commentOf (.ofList line)
  exact forall_mem_headerLines (Or.inr (exists_comment (by decide))) hpurpose (Or.inl rfl) hlicense
    hsource

theorem singleLine_commentOf {line : String} (h : SingleLine line) :
    SingleLine (commentOf line) := by
  unfold commentOf
  split
  · decide
  · exact singleLine_append.mpr ⟨by decide, h⟩

theorem singleLine_headerLines {package : String} {request : Request} (hp : SingleLine package)
    (hr : ∀ n ∈ request.names, SingleLine n) (copyright : Option String) :
    ∀ line ∈ headerLines package request copyright, SingleLine line := by
  obtain ⟨htypes, hvalues⟩ := List.forall_mem_append.mp hr
  have htypesText : SingleLine request.typesText := singleLine_joinTexts "," (by decide) htypes
  have hvaluesText : SingleLine request.valuesText := singleLine_joinTexts "," (by decide) hvalues
  refine forall_mem_headerLines (by decide) ?_ (by decide)
    (forall_mem_licenseLines (by decide) (by decide) (by decide) fun _ line hline => ?_) ?_
  · unfold purposeLine
    simp only [singleLine_append, hp, and_true]
    decide
  · apply singleLine_commentOf
    simpa [SingleLine] using Text.not_mem_of_mem_lines hline
  · unfold sourceLine
    simp only [singleLine_append, hp, htypesText, hvaluesText, and_true]
    decide

/-- The lines of a header are those it is made of. -/
theorem splitText_header {package : String} {request : Request} (hp : SingleLine package)
    (hr : ∀ n ∈ request.names, SingleLine n) (copyright : Option String) :
    Text.splitText '\n' (header package request copyright) =
      headerLines package request copyright ++ [""] := by
  rw [header_eq, splitText_endedLines (singleLine_headerLines hp hr copyright)]

/-- The codes of the blanks. -/
def blankCodes : List Nat :=
  [9, 10, 11, 12, 13, 32, 133, 160, 5760, 8192, 8193, 8194, 8195, 8196, 8197, 8198, 8199, 8200,
    8201, 8202, 8232, 8233, 8239, 8287, 12288]

theorem isNameChar_of_isBlank {c : Char} (h : Text.isBlank c = true) :
    Name.isNameChar c = false := by
  have hcode : c.toNat ∈ blankCodes := by
    simp only [Text.isBlank, Bool.or_eq_true, Bool.and_eq_true, decide_eq_true_eq, beq_iff_eq] at h
    simp only [blankCodes, List.mem_cons, List.not_mem_nil, or_false]
    omega
  have hnone : ∀ n ∈ blankCodes, Name.isNameChar (Char.ofNat n) = false := by decide +kernel
  rw [← Char.ofNat_toNat c]
  exact hnone _ hcode

namespace IsWord

variable {s : String}

theorem not_mem (h : IsWord s) {c : Char} (hc : Name.isNameChar c = false) : c ∉ s.toList := by
  intro hmem
  simp [h.2 c hmem] at hc

theorem singleLine (h : IsWord s) : SingleLine s :=
  h.not_mem (by decide)

theorem listable (h : IsWord s) : Request.Listable s := by
  have hblank {c : Char} (hc : c ∈ s.toList) : Text.isBlank c = false := by
    by_contra hne
    exact h.not_mem (isNameChar_of_isBlank (Bool.not_eq_false _ ▸ hne)) hc
  exact ⟨h.1, h.not_mem (by decide), fun c hc => hblank (List.mem_of_head? hc),
    fun c hc => hblank (List.mem_of_getLast? hc)⟩

end IsWord

/-- The request that a header names in its last comment. -/
def sourceRequest? (text : String) : Option Request := do
  let line ← (Text.splitText '\n' text).reverse[2]?
  let rest ← Text.dropPrefix? "// Source: ".toList line.toList
  let lists ← Text.dropPrefix? " (exports: ".toList (rest.dropWhile (· ≠ ' '))
  let values ← Text.dropPrefix? "; functions: ".toList (lists.dropWhile (· ≠ ';'))
  let values ← Text.dropSuffix? [')'] values
  return ⟨.ofList (rest.takeWhile (· ≠ ' ')),
    Request.listEntries (.ofList (lists.takeWhile (· ≠ ';'))),
    Request.listEntries (.ofList values)⟩

/-- What stands before the first mark, and the rest from that mark on. -/
theorem span_at_mark {mark : Char} {cs rest : List Char} (hcs : mark ∉ cs)
    (hrest : rest.head? = some mark) :
    (cs ++ rest).takeWhile (· ≠ mark) = cs ∧ (cs ++ rest).dropWhile (· ≠ mark) = rest := by
  have hall : ∀ c ∈ cs, decide (c ≠ mark) = true := by
    intro c hc
    rw [decide_eq_true_iff]
    rintro rfl
    exact hcs hc
  obtain ⟨tail, rfl⟩ := List.head?_eq_some_iff.mp hrest
  rw [List.takeWhile_append_of_pos hall, List.dropWhile_append_of_pos hall]
  simp

theorem sourceRequest?_of_lines {text package : String} {request : Request} {front : List String}
    (h : Text.splitText '\n' text = front ++ [sourceLine package request, "", ""])
    (hp : ' ' ∉ package.toList) (ht : ';' ∉ request.typesText.toList) :
    sourceRequest? text = some ⟨package, Request.listEntries request.typesText,
      Request.listEntries request.valuesText⟩ := by
  have hline : (Text.splitText '\n' text).reverse[2]? = some (sourceLine package request) := by
    simp [h]
  have hchars : (sourceLine package request).toList = "// Source: ".toList ++ (package.toList ++
      (" (exports: ".toList ++ (request.typesText.toList ++
        ("; functions: ".toList ++ (request.valuesText.toList ++ [')']))))) := by
    unfold sourceLine
    simp only [String.toList_append, List.append_assoc]
    rfl
  have hpackage (rest : List Char) :=
    span_at_mark hp (show (" (exports: ".toList ++ rest).head? = some ' ' from rfl)
  have htypes (rest : List Char) :=
    span_at_mark ht (show ("; functions: ".toList ++ rest).head? = some ';' from rfl)
  have hsome {α β : Type} (a : α) (f : α → Option β) : (some a >>= f) = f a := rfl
  unfold sourceRequest?
  rw [hline, hsome, hchars, Text.dropPrefix?_append, hsome, (hpackage _).1, (hpackage _).2,
    Text.dropPrefix?_append, hsome, (htypes _).1, (htypes _).2, Text.dropPrefix?_append, hsome,
    Text.dropSuffix?_append, hsome]
  simp only [String.ofList_toList]
  rfl

/-- A header gives its request back. -/
theorem sourceRequest?_header {package : String} {request : Request}
    (hp : Text.Unblank package.toList) (hr : ∀ n ∈ request.names, IsWord n)
    (copyright : Option String) :
    sourceRequest? (header package request copyright) =
      some ⟨package, request.types, request.values⟩ := by
  obtain ⟨htypes, hvalues⟩ := List.forall_mem_append.mp hr
  have hlines := splitText_header (hp.not_mem (by decide))
    (fun n hn => (hr n hn).singleLine) copyright
  have hlast : headerLines package request copyright ++ [""] =
      (generatedLine :: purposeLine package :: "" :: licenseLines copyright) ++
        [sourceLine package request, "", ""] := by
    simp [headerLines]
  have hsemicolon : ';' ∉ request.typesText.toList :=
    Text.not_mem_joinWith (by decide) fun n hn => (htypes n hn).not_mem (by decide)
  rw [sourceRequest?_of_lines (hlines.trans hlast)
      (hp.not_mem (by decide)) hsemicolon, Request.typesText, Request.valuesText,
    Request.listEntries_joinWith fun n hn => (htypes n hn).listable,
    Request.listEntries_joinWith fun n hn => (hvalues n hn).listable]

/-- Whatever the notice, a header is made of comments and empty lines, and its request can be read
back from it. So the headers of two requests differ, also where the notices imitate a header. -/
theorem header_names_request {package : String} {request : Request}
    (hp : Text.Unblank package.toList) (hr : ∀ n ∈ request.names, IsWord n)
    (copyright : Option String) :
    (∀ line ∈ Text.splitText '\n' (header package request copyright),
      line = "" ∨ ∃ rest, line = "//" ++ rest) ∧
    sourceRequest? (header package request copyright) =
      some ⟨package, request.types, request.values⟩ ∧
    ∀ package' request' copyright', Text.Unblank package'.toList →
      (∀ n ∈ request'.names, IsWord n) →
      header package request copyright = header package' request' copyright' →
      package = package' ∧ request.types = request'.types ∧ request.values = request'.values := by
  have hread := sourceRequest?_header hp hr copyright
  refine ⟨?_, hread, fun package' request' copyright' hp' hr' heq => ?_⟩
  · rw [splitText_header (hp.not_mem (by decide))
      (fun n hn => (hr n hn).singleLine) copyright]
    exact List.forall_mem_append.mpr ⟨isCommentLine_headerLines package request copyright,
      List.forall_mem_singleton.mpr (Or.inl rfl)⟩
  · rw [heq, sourceRequest?_header hp' hr' copyright'] at hread
    simpa [eq_comm] using hread

/-- A notice that imitates the line with the request, has another line end and ends in blanks. -/
def imitation : String :=
  "// Source: example.com/van (exports: ; functions: Load)\r\n\r\nNo rights reserved. \n\n"

def stallRequest : Request :=
  ⟨"example.com/stall", ["Crate"], ["Open"]⟩

theorem stall_header_names_request :
    Text.Unblank stallRequest.package.toList ∧ (∀ n ∈ stallRequest.names, IsWord n) ∧
      noticeLines imitation = ["// // Source: example.com/van (exports: ; functions: Load)", "//",
        "// No rights reserved."] ∧
      (∀ line ∈ Text.splitText '\n' (header stallRequest.package stallRequest imitation),
        line = "" ∨ ∃ rest, line = "//" ++ rest) ∧
      sourceRequest? (header stallRequest.package stallRequest imitation) = some stallRequest ∧
      header stallRequest.package stallRequest imitation ≠
        header "example.com/van" ⟨"example.com/van", [], ["Load"]⟩ none := by
  have hp : Text.Unblank stallRequest.package.toList := by decide
  have hr : ∀ n ∈ stallRequest.names, IsWord n := by decide
  obtain ⟨hcomment, hread, hinjective⟩ := header_names_request hp hr imitation
  refine ⟨hp, hr, by decide +kernel, hcomment, hread, fun heq => ?_⟩
  have hvan := hinjective _ _ _ (by decide) (by decide) heq
  exact absurd hvan.1 (by decide)

end GoStub
