import NativeBridge.Proofs.Source.Comments
import NativeBridge.Proofs.Source.SingleFiles

/-!
# Headers of module files

The file of a module begins with two comments. The second one names the type as the catalogue does,
so that a line feed in the name ends the comment.

* `ModuleFile.isCommented_iff`: when the header is nothing but comments.
* `ModuleFile.reading?_eq_iff`: when the file reads back as it was emitted.
* `Rendering.header_stands`: the header of every module that is rendered.
-/

namespace NativeBridge

/-! ## Lines -/

namespace Text

theorem eq_of_lines {text line : List Char} {more : List (List Char)}
    (split : lines text = line :: more) : text = line ++ more.flatMap ('\n' :: ·) := by
  induction text generalizing line more with
  | nil =>
      cases split
      rfl
  | cons c rest ih =>
      rw [lines] at split
      by_cases feed : c = '\n'
      · rw [if_pos feed] at split
        obtain ⟨rfl, rfl⟩ := List.cons.inj split
        obtain ⟨first, others, parts⟩ := List.exists_cons_of_ne_nil (lines_ne_nil rest)
        rw [parts, List.nil_append, List.flatMap_cons, feed, List.cons_append, ← ih parts]
      · obtain ⟨first, others, parts⟩ := List.exists_cons_of_ne_nil (lines_ne_nil rest)
        rw [if_neg feed, parts] at split
        obtain ⟨rfl, rfl⟩ := List.cons.inj split
        rw [List.cons_append, ← ih parts]

theorem dropWhile_of_lines {text line : List Char} {more : List (List Char)}
    (split : lines text = line :: more) :
    text.dropWhile (· != '\n') = more.flatMap ('\n' :: ·) := by
  induction text generalizing line more with
  | nil =>
      cases split
      rfl
  | cons c rest ih =>
      obtain ⟨first, others, parts⟩ := List.exists_cons_of_ne_nil (lines_ne_nil rest)
      by_cases feed : c = '\n'
      · subst feed
        have text := eq_of_lines split
        rw [lines, if_pos rfl] at split
        obtain ⟨rfl, -⟩ := List.cons.inj split
        exact text
      · rw [lines, if_neg feed, parts] at split
        obtain ⟨rfl, rfl⟩ := List.cons.inj split
        rw [List.dropWhile_cons_of_pos (by simpa using feed), ih parts]

theorem dropWhile_of_whole {line : List Char} (whole : '\n' ∉ line) :
    line.dropWhile (· != '\n') = [] := by
  rw [List.dropWhile_eq_nil_iff]
  intro c member
  simp only [bne_iff_ne]
  rintro rfl
  exact whole member

theorem exists_lines_of_feed {text : List Char} (feed : '\n' ∈ text) :
    ∃ first line more, lines text = first :: line :: more := by
  obtain ⟨first, more, parts⟩ := List.exists_cons_of_ne_nil (lines_ne_nil text)
  cases more with
  | nil =>
      have whole := List.dropWhile_eq_nil_iff.mp (dropWhile_of_lines parts) '\n' feed
      exact absurd whole (by decide)
  | cons line more => exact ⟨first, line, more, parts⟩

end Text

namespace Source

theorem writtenDoc?_of_whole {doc : String} (whole : '\n' ∉ doc.toList) :
    writtenDoc? doc = some doc ↔ '\r' ∉ doc.toList := by
  simp [writtenDoc?, whole]

theorem passes_comment_iff (rest : List Char) : Passes ('/' :: '/' :: ' ' :: rest) [] ↔
    Passes (rest.dropWhile (· != '\n')) [] :=
  (Skips.line rfl).passes_iff

theorem passes_line_iff (rest : List Char) : Passes ('\n' :: rest) [] ↔ Passes rest [] :=
  (Skips.gap (by decide)).passes_iff

namespace ModuleFile

variable {file : ModuleFile}

def headerText (file : ModuleFile) : String :=
  fingerprintMark ++ file.fingerprint ++ "\n" ++ file.notice

def itemsText (file : ModuleFile) : String :=
  String.join ((file.codeFile.body.map line).map (· ++ "\n"))

theorem text_eq (file : ModuleFile) :
    file.codeFile.text = file.headerText ++ "\n\n" ++ file.itemsText := by
  have feeds : "\n\n" = "\n" ++ "\n" := by decide
  have header : file.codeFile.header = [fingerprintMark ++ file.fingerprint, file.notice] := rfl
  rw [CodeFile.text, header, List.map_append, List.map_append, itemsText, feeds]
  simp only [headerText, List.map_cons, List.map_nil, List.cons_append, List.nil_append,
    String.join_cons, String.append_assoc, String.empty_append]

/-- The header has no tokens. -/
def IsCommented (file : ModuleFile) : Prop := Passes file.headerText.toList []

theorem toList_headerText (file : ModuleFile) : file.headerText.toList = '/' :: '/' :: ' ' ::
    (("fingerprint: ".toList ++ file.fingerprint.toList) ++ '\n' :: file.notice.toList) := by
  have mark : fingerprintMark.toList = '/' :: '/' :: ' ' :: "fingerprint: ".toList := by decide
  have feed : "\n".toList = ['\n'] := by decide
  rw [headerText, String.toList_append, String.toList_append, String.toList_append, mark, feed]
  simp only [List.cons_append, List.nil_append, List.append_assoc]

theorem toList_notice (file : ModuleFile) : file.notice.toList = '/' :: '/' :: ' ' ::
    ("Generated by stackbind for ".toList ++ file.reference.toList ++ ". Do not edit.".toList) := by
  unfold notice
  rw [String.toList_append, String.toList_append]
  rfl

theorem isCommented_iff (whole : '\n' ∉ file.fingerprint.toList) :
    file.IsCommented ↔ Passes (file.notice.toList.dropWhile (· != '\n')) [] := by
  have opening : '\n' ∉ "fingerprint: ".toList ++ file.fingerprint.toList := by
    rw [List.mem_append]
    exact not_or.mpr ⟨by decide, whole⟩
  have behind (rest : List Char) : ('/' :: '/' :: ' ' :: rest).dropWhile (· != '\n') =
      rest.dropWhile (· != '\n') := by simp
  rw [IsCommented, toList_headerText, passes_comment_iff,
    dropWhile_append_line, Text.dropWhile_of_whole opening, List.nil_append, passes_line_iff,
    toList_notice,
    passes_comment_iff, behind]

theorem feed_mem_notice_iff : '\n' ∈ file.notice.toList ↔ '\n' ∈ file.reference.toList := by
  have opening : '\n' ∉ '/' :: '/' :: ' ' :: "Generated by stackbind for ".toList := by decide
  have ending : '\n' ∉ ". Do not edit.".toList := by decide
  rw [toList_notice, ← List.cons_append, ← List.cons_append, ← List.cons_append,
    ← List.cons_append, ← List.cons_append, ← List.cons_append, List.mem_append, List.mem_append]
  simp only [opening, ending, false_or, or_false]

theorem mem_doc_iff {c : Char} (other : c ∉ " Trampolines for \x60".toList) :
    c ∈ file.doc.toList ↔ c ∈ file.reference.toList := by
  have ending : c ∉ "\x60".toList := by
    intro member
    rw [List.mem_singleton.mp member] at other
    exact other (by decide)
  unfold doc
  rw [String.toList_append, String.toList_append, List.mem_append, List.mem_append]
  simp only [other, ending, false_or, or_false]

theorem isCommented_of_oneLine (whole : '\n' ∉ file.fingerprint.toList)
    (oneLine : '\n' ∉ file.reference.toList) : file.IsCommented := by
  rw [isCommented_iff whole, Text.dropWhile_of_whole (mt feed_mem_notice_iff.mp oneLine)]
  exact .done []

theorem innerDocTokens_inj {doc other : String} :
    innerDocTokens doc = innerDocTokens other ↔ doc = other := by
  simp [innerDocTokens, innerAttribute, brackets]

theorem readAttributes_nil {steps : Nat} {tokens : List Token}
    (read : readAttributes steps tokens = some []) : tokens = [] := by
  unfold readAttributes at read
  split at read
  · rfl
  · cases read
  · obtain ⟨⟨content, rest⟩, -, read⟩ := Option.bind_eq_some_iff.mp read
    obtain ⟨attributes, -, read⟩ := Option.bind_eq_some_iff.mp read
    split at read <;> cases read
  · cases read

theorem append_attributes_iff {added : List (List Token)} {doc : String} :
    added ++ [innerDocTokens doc, allowance] = file.attributes ↔ added = [] ∧ doc = file.doc := by
  constructor
  · intro same
    have none : added = [] := by
      have lengths := congrArg List.length same
      rw [List.length_append] at lengths
      exact List.eq_nil_of_length_eq_zero
        (Nat.add_right_cancel (lengths.trans (Nat.zero_add 2).symm))
    rw [none] at same
    exact ⟨none, innerDocTokens_inj.mp (List.cons.inj same).1⟩
  · rintro ⟨rfl, rfl⟩
    rfl

theorem reading?_eq_iff_attributes : file.reading? = some file.codeFile ↔
    file.readAttributes? = some file.attributes := by
  rw [reading?, Option.map_eq_some_iff]
  constructor
  · rintro ⟨attributes, read, same⟩
    have same := congrArg CodeFile.body same
    rw [read, List.append_cancel_right same]
  · intro read
    exact ⟨_, read, rfl⟩

theorem reading?_of_oneLine (oneLine : '\n' ∉ file.reference.toList) :
    file.reading? = some file.codeFile ↔ '\r' ∉ file.reference.toList := by
  rw [reading?_eq_iff_attributes, readAttributes?_eq oneLine]
  by_cases bare : '\r' ∈ file.reference.toList
  · simp [bare]
  · simp [bare]

theorem readAttributes?_of_feed (feed : '\n' ∈ file.reference.toList) :
    file.readAttributes? = some file.attributes ↔
      Passes (file.notice.toList.dropWhile (· != '\n')) [] ∧
        writtenDoc? file.doc = some file.doc := by
  obtain ⟨first, line, more, parts⟩ := Text.exists_lines_of_feed (feed_mem_notice_iff.mpr feed)
  rw [Text.dropWhile_of_lines parts, List.flatMap_cons, List.cons_append, passes_line_iff,
    ← scan_nil_iff, readAttributes?, parts]
  constructor
  · intro read
    obtain ⟨tokens, scanned, read⟩ := Option.bind_eq_some_iff.mp read
    obtain ⟨added, found, read⟩ := Option.bind_eq_some_iff.mp read
    obtain ⟨doc, written, same⟩ := Option.bind_eq_some_iff.mp read
    obtain ⟨rfl, rfl⟩ := append_attributes_iff.mp (Option.some.inj same)
    obtain rfl := readAttributes_nil found
    exact ⟨scanned, written⟩
  · rintro ⟨scanned, written⟩
    simp only [scanned, written]
    rfl

theorem reading?_eq_iff (whole : '\n' ∉ file.fingerprint.toList) :
    file.reading? = some file.codeFile ↔
      file.IsCommented ∧ writtenDoc? file.doc = some file.doc := by
  by_cases feed : '\n' ∈ file.reference.toList
  · rw [reading?_eq_iff_attributes, isCommented_iff whole, readAttributes?_of_feed feed]
  · have doc : '\n' ∉ file.doc.toList := mt (mem_doc_iff (by decide)).mp feed
    rw [reading?_of_oneLine feed, writtenDoc?_of_whole doc, mem_doc_iff (by decide)]
    exact (and_iff_right (isCommented_of_oneLine whole feed)).symm

theorem IsCommented.passes (commented : file.IsCommented) :
    Passes file.codeFile.text.toList file.itemsText.toList := by
  have feeds : "\n\n".toList = ['\n', '\n'] := by decide
  rw [text_eq, String.toList_append, String.toList_append, feeds, List.append_assoc]
  exact (commented.append_line _).trans (.step (.gap (by decide)) (.done _))

end ModuleFile

end Source

/-! ## Modules that are rendered -/

open Source

theorem Generation.exists_of_mem_modulesOf {catalogue : Catalogue} {options : Options}
    {listed : List TypeRef} {modules : List BindingModule} {skipped : List String}
    (made : modulesOf catalogue options listed = .ok (modules, skipped)) {self : BindingModule}
    (member : self ∈ modules) : ∃ type descriptor, self = .ofDescriptor type descriptor options := by
  induction listed generalizing modules skipped with
  | nil =>
      cases made
      cases member
  | cons type rest ih =>
      obtain ⟨descriptor, described, made⟩ := bind_eq_ok.mp made
      split at made
      · obtain ⟨⟨others, more⟩, remaining, same⟩ := bind_eq_ok.mp made
        cases same
        exact ih remaining member
      · obtain ⟨first, built, made⟩ := bind_eq_ok.mp made
        obtain ⟨⟨others, more⟩, remaining, same⟩ := bind_eq_ok.mp made
        cases same
        rcases List.mem_cons.mp member with rfl | later
        · obtain ⟨descriptor, -, same⟩ := bind_eq_ok.mp built
          exact ⟨type, descriptor, (pure_eq_ok.mp same).symm⟩
        · exact ih remaining later

theorem Generation.exists_of_mem {catalogue : Catalogue} {options : Options}
    {listed : List TypeRef} {generation : Generation}
    (generated : ofListed catalogue listed options = .ok generation) {self : BindingModule}
    (member : self ∈ generation.modules) :
    options.validate = .ok () ∧ ∃ type descriptor, self = .ofDescriptor type descriptor options := by
  obtain ⟨⟨⟩, valid, generated⟩ := bind_eq_ok.mp generated
  obtain ⟨⟨modules, skipped⟩, made, generated⟩ := bind_eq_ok.mp generated
  refine ⟨valid, exists_of_mem_modulesOf made ?_⟩
  dsimp only at generated
  split at generated
  · cases generated
  · cases generated
    exact member

theorem Source.Rendering.exists_of_mem [Grammar] {generation : Generation} {options : Options}
    {rendering : Rendering} (rendered : ofGeneration generation options = .ok rendering)
    {self : RenderedModule} (member : self ∈ rendering.modules) :
    ∃ runtime, ∃ made ∈ generation.modules, self = .ofModule runtime made := by
  obtain ⟨runtime, entries, -, -, rfl, -⟩ := ofGeneration_eq_ok_iff.mp rendered
  obtain ⟨made, listed, rfl⟩ := List.mem_map.mp member
  exact ⟨runtime, made, listed, rfl⟩

/-- The file of a module is its header and its items, and carries its fingerprint whatever the type is
called. It reads back as its items exactly if the header is nothing but comments, and if what the
file says of itself can be written; the former is sure for a name of one line. -/
theorem Source.Rendering.header_stands [Grammar] {catalogue : Catalogue}
    {options options' : Options}
    {listed : List TypeRef} {generation : Generation} {rendering : Rendering}
    (generated : Generation.ofListed catalogue listed options = .ok generation)
    (rendered : ofGeneration generation options' = .ok rendering) {self : RenderedModule}
    (member : self ∈ rendering.modules) :
    self.file.codeFile.text = self.file.headerText ++ "\n\n" ++ self.file.itemsText ∧
    recordedFingerprint? self.file.codeFile.text = some self.file.fingerprint ∧
    (∀ home folder before after, FileTree.IsReady home folder before →
      before.putIn? home folder (self.file.ident ++ ".rs") self.file.codeFile.text = some after →
      after.recordedIn? home folder (self.file.ident ++ ".rs") = some self.file.fingerprint) ∧
    (self.file.IsCommented → Passes self.file.codeFile.text.toList self.file.itemsText.toList) ∧
    (self.file.reading? = some self.file.codeFile ↔
      self.file.IsCommented ∧ writtenDoc? self.file.doc = some self.file.doc) ∧
    ('\n' ∉ self.file.reference.toList → self.file.IsCommented ∧
      (self.file.reading? = some self.file.codeFile ↔ '\r' ∉ self.file.reference.toList)) := by
  obtain ⟨runtime, made, inGeneration, rfl⟩ := exists_of_mem rendered member
  obtain ⟨valid, type, descriptor, rfl⟩ := Generation.exists_of_mem generated inGeneration
  generalize same : (RenderedModule.ofModule runtime _).file = file
  have fingerprint : file.fingerprint = digest (fingerprintSource descriptor options) := by
    rw [← same]
    rfl
  have ident : file.ident = type.bindingIdent options.suffix := by
    rw [← same]
    rfl
  have whole : '\n' ∉ file.fingerprint.toList := by
    intro feed
    rw [fingerprint] at feed
    cases isBlank_digest feed
  have recorded : recordedFingerprint? file.codeFile.text = some file.fingerprint := by
    have header : file.codeFile.header =
        (fingerprintMark ++ digest (fingerprintSource descriptor options)) :: [file.notice] := by
      rw [← fingerprint]
      rfl
    rw [fingerprint]
    exact recordedFingerprint?_text header
  refine ⟨file.text_eq, recorded, ?_, ModuleFile.IsCommented.passes,
    ModuleFile.reading?_eq_iff whole, ?_⟩
  · intro home folder before after ready put
    have plain : Path.IsPlain (file.ident ++ ".rs") := by
      rw [ident]
      exact Path.isPlain_file (type.all_isAsciiWord_bindingIdent (Options.suffix_word valid))
    obtain ⟨-, here, -⟩ := ready.putIn? plain put
    rw [FileTree.recordedIn?, here, Option.bind_some, recorded]
  · intro oneLine
    exact ⟨ModuleFile.isCommented_of_oneLine whole oneLine, ModuleFile.reading?_of_oneLine oneLine⟩

namespace GeneratorRun

theorem vectors_stand : ∃ self ∈ vectors.rendering.modules,
    recordedFingerprint? self.file.codeFile.text = some self.file.fingerprint ∧
      Passes self.file.codeFile.text.toList self.file.itemsText.toList ∧
      self.file.reading? = some self.file.codeFile := by
  have plain : ∃ self ∈ vectors.rendering.modules,
      '\n' ∉ self.file.reference.toList ∧ '\r' ∉ self.file.reference.toList := by
    decide +kernel
  obtain ⟨self, member, oneLine, noReturn⟩ := plain
  obtain ⟨-, recorded, -, passes, -, stands⟩ :=
    Rendering.header_stands vectors.generated vectors.rendered member
  exact ⟨self, member, recorded, passes (stands oneLine).1, (stands oneLine).2.mpr noReturn⟩

def intruder : GeneratorRun :=
  ofDescriptions [.ofType (.ofClass "" "Clock\n#![no_main]//")] {}
    [⟨⟨"Clock_100000a_1000023_1000021_100005bno_0main_100005d_100002f_100002f_Binding", false⟩,
      "Clock_100000a_1000023_1000021_100005bno_0main_100005d_100002f_100002f_Binding"⟩]
    (by decide) (by decide) runtimePath_default rfl (by decide +kernel)

theorem intruder_intrudes : ∃ self ∈ intruder.rendering.modules,
    self.file.readAttributes? = some (innerAttribute [.word "no_main"] :: self.file.attributes) := by
  decide +kernel

theorem not_always_stands :
    ¬ ∀ run : GeneratorRun, ∀ self ∈ run.rendering.modules,
        recordedFingerprint? self.file.codeFile.text = some self.file.fingerprint ∧
          self.file.IsCommented ∧ self.file.reading? = some self.file.codeFile := by
  intro stands
  obtain ⟨self, member, intrudes⟩ := intruder_intrudes
  obtain ⟨-, -, read⟩ := stands intruder self member
  rw [ModuleFile.reading?_eq_iff_attributes, intrudes, Option.some.injEq] at read
  have lengths := congrArg List.length read
  rw [List.length_cons] at lengths
  exact absurd lengths (Nat.succ_ne_self _)

end GeneratorRun

end NativeBridge
