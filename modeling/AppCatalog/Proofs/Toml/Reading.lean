import Mathlib.Data.List.DropRight
import AppCatalog.Proofs.Toml.Spelling

/-!
# Reading a spelled document

How the lines and sections of a document may be spelled around its values, and that a document is
read from its spelling. Keys are bare; blanks may stand wherever a line allows them, and a line may
be blank or end with a comment.

* **A key** (`SpellsKey`) is read up to what follows it (`dottedKey_of_spells`).
* **An assignment** (`SpellsAssignment`) is read if its value is (`assignment_of_spells`).
* **A value** (`SpellsValue`) does not nest, or is a table between braces (`readsAll_value`).
* **Lines, sections, documents** (`SpellsLines`, `SpellsSection`, `SpellsDocument`): the assignments
  and sections of a document come out of its spelling in order (`parse?_of_spells`).
-/

namespace AppCatalog.Toml

open Text

/-! ## Blanks and line ends -/

/-- Whether there are only blanks. -/
def AreBlanks (s : List Char) : Prop := ∀ c ∈ s, isBlank c = true

/-- Blanks are skipped up to anything else. -/
lemma skipBlanks_append {blanks s : List Char} (areBlanks : AreBlanks blanks) :
    skipBlanks (blanks ++ s) = skipBlanks s :=
  List.dropWhile_append_of_pos areBlanks

/-- Nothing is skipped where no blank stands. -/
lemma skipBlanks_cons {c : Char} (notBlank : isBlank c = false) (s : List Char) :
    skipBlanks (c :: s) = c :: s := by
  unfold skipBlanks
  rw [List.dropWhile_cons_of_neg (by rw [notBlank]; decide)]

/-- Whether characters end a line: blanks, perhaps a comment, and a newline. -/
def SpellsLineEnd (written : List Char) : Prop :=
  ∃ blanks comment newline, AreBlanks blanks ∧
    (comment = [] ∨ ∃ text, (∀ c ∈ text, isPlain c = true) ∧ comment = '#' :: text) ∧
    newline ∈ [['\n'], ['\r', '\n']] ∧ written = blanks ++ comment ++ newline

/-- The end of a line is read. -/
lemma lineEnd_of_spells {written rest : List Char} (spells : SpellsLineEnd written) :
    lineEnd (written ++ rest) = some rest := by
  obtain ⟨blanks, comment, newline, areBlanks, isComment, among, rfl⟩ := spells
  unfold lineEnd
  rw [List.append_assoc, List.append_assoc, skipBlanks_append areBlanks]
  simp only [List.mem_cons, List.not_mem_nil, or_false] at among
  rcases isComment with rfl | ⟨text, arePlain, rfl⟩
  · rcases among with rfl | rfl <;> rfl
  · have skipped (s : List Char) :
        skipComment (skipBlanks ('#' :: text ++ s)) = s.dropWhile isPlain :=
      List.dropWhile_append_of_pos arePlain
    rw [skipped]
    rcases among with rfl | rfl <;> rfl

/-- Blanks may follow a value. -/
lemma EndsValue.of_isBlank {c : Char} (blank : isBlank c = true) (rest : List Char) :
    EndsValue (c :: rest) := by
  unfold isBlank at blank
  simp only [Bool.or_eq_true, decide_eq_true_eq] at blank
  rcases blank with rfl | rfl <;> exact ⟨_, by decide, rest, rfl⟩

/-- Where a value may end, it may end in front of blanks. -/
lemma EndsValue.blanks_append {blanks rest : List Char} (areBlanks : AreBlanks blanks)
    (ends : EndsValue rest) : EndsValue (blanks ++ rest) := by
  cases blanks with
  | nil => exact ends
  | cons c blanks => exact .of_isBlank (areBlanks c List.mem_cons_self) _

/-- A value may end where its line does. -/
lemma SpellsLineEnd.endsValue {written : List Char} (spells : SpellsLineEnd written)
    (rest : List Char) : EndsValue (written ++ rest) := by
  obtain ⟨blanks, comment, newline, areBlanks, isComment, among, rfl⟩ := spells
  rw [List.append_assoc, List.append_assoc]
  refine .blanks_append areBlanks ?_
  simp only [List.mem_cons, List.not_mem_nil, or_false] at among
  rcases isComment with rfl | ⟨text, -, rfl⟩
  · rcases among with rfl | rfl <;> exact ⟨_, by decide, _, rfl⟩
  · exact ⟨'#', by decide, _, rfl⟩

/-- Skipping blanks before the end of a line changes nothing. -/
lemma lineEnd_skipBlanks (s : List Char) : lineEnd (skipBlanks s) = lineEnd s := by
  unfold lineEnd skipBlanks
  rw [List.dropWhile_idempotent isBlank s]

/-! ## Keys -/

/-- Whether a key may stand without quotation marks. -/
def IsBare (key : String) : Prop :=
  key.toList ≠ [] ∧ ∀ c ∈ key.toList, isBare c = true

instance (key : String) : Decidable (IsBare key) :=
  @instDecidableAnd _ _ inferInstance (List.decidableBAll _ _)

/-- Whether characters spell one part of a key, with blanks around it. -/
def SpellsPart (part : String) (written : List Char) : Prop :=
  IsBare part ∧ ∃ before after, AreBlanks before ∧ AreBlanks after ∧
    written = before ++ part.toList ++ after

/-- Whether characters spell a key, its parts separated by dots. -/
inductive SpellsKey : List String → List Char → Prop
  | one {part : String} {written : List Char} (spells : SpellsPart part written) :
      SpellsKey [part] written
  | dotted {part : String} {path : List String} {written more : List Char}
      (spells : SpellsPart part written) (spellsMore : SpellsKey path more) :
      SpellsKey (part :: path) (written ++ '.' :: more)

/-- The characters that may follow a part of a key. -/
def keyMarks : List Char := ['.', '=', ']']

/-- No blank is part of a bare key. -/
lemma isBare_of_isBlank {c : Char} (blank : isBlank c = true) : isBare c = false := by
  unfold isBlank at blank
  simp only [Bool.or_eq_true, decide_eq_true_eq] at blank
  rcases blank with rfl | rfl <;> rfl

/-- No character of a bare key is a blank. -/
lemma isBlank_of_isBare {c : Char} (bare : isBare c = true) : isBlank c = false := by
  rw [Bool.eq_false_iff]
  intro blank
  rw [isBare_of_isBlank blank] at bare
  cases bare

/-- A bare character that starts a key is no quotation mark. -/
lemma keyPart_of_isBare {first : Char} (bare : isBare first = true) (s : List Char) :
    keyPart (first :: s) = match (first :: s).takeWhile isBare with
      | [] => none
      | chars => some (String.ofList chars, (first :: s).dropWhile isBare) := by
  unfold keyPart
  split
  · next same =>
      cases same
      cases bare
  · next same =>
      cases same
      cases bare
  · rfl

/-- **A part of a key is read** up to the mark behind it. -/
lemma spacedPart_of_spells {part : String} {written : List Char} (spells : SpellsPart part written)
    {mark : Char} (among : mark ∈ keyMarks) (rest : List Char) :
    spacedPart (written ++ mark :: rest) = some (part, mark :: rest) := by
  obtain ⟨⟨notEmpty, areBare⟩, before, after, blanksBefore, blanksAfter, rfl⟩ := spells
  obtain ⟨first, more, chars_eq⟩ := List.exists_cons_of_ne_nil notEmpty
  have bare : isBare first = true := areBare first (by rw [chars_eq]; exact List.mem_cons_self)
  have ends : ∀ c ∈ keyMarks, isBare c = false ∧ isBlank c = false :=
    @of_decide_eq_true _ (List.decidableBAll _ _) rfl
  have stops : ∃ c s, after ++ mark :: rest = c :: s ∧ isBare c = false := by
    cases after with
    | nil => exact ⟨mark, rest, rfl, (ends mark among).1⟩
    | cons blank after =>
        exact ⟨blank, _, rfl, isBare_of_isBlank (blanksAfter blank List.mem_cons_self)⟩
  have readKey : keyPart (part.toList ++ (after ++ mark :: rest)) =
      some (part, after ++ mark :: rest) := by
    obtain ⟨c, s, stops, notBare⟩ := stops
    rw [chars_eq, List.cons_append, keyPart_of_isBare bare, ← List.cons_append, ← chars_eq, stops,
      List.takeWhile_append_of_pos areBare, List.dropWhile_append_of_pos areBare,
      List.takeWhile_cons_of_neg (by rw [notBare]; decide),
      List.dropWhile_cons_of_neg (by rw [notBare]; decide), List.append_nil, chars_eq]
    show some (String.ofList (first :: more), _) = _
    rw [← chars_eq, String.ofList_toList]
  have start : skipBlanks (before ++ part.toList ++ after ++ mark :: rest) =
      part.toList ++ (after ++ mark :: rest) := by
    rw [List.append_assoc, List.append_assoc, skipBlanks_append blanksBefore, chars_eq,
      List.cons_append, skipBlanks_cons (isBlank_of_isBare bare)]
  unfold spacedPart
  rw [start, readKey]
  show some (part, skipBlanks (after ++ mark :: rest)) = _
  rw [skipBlanks_append blanksAfter, skipBlanks_cons (ends mark among).2]

/-- The further parts of a key are read one after another. -/
lemma reads_dottedPart {path : List String} {written : List Char} (spells : SpellsKey path written)
    {mark : Char} (among : mark ∈ ['=', ']']) (rest : List Char) :
    ∃ first more after, path = first :: more ∧
      spacedPart (written ++ mark :: rest) = some (first, after) ∧
      after.length ≤ (written ++ mark :: rest).length ∧
      Step.Reads dottedPart after more (mark :: rest) := by
  have isMark : ∀ c ∈ ['=', ']'], c ∈ keyMarks ∧ ∀ s, dottedPart (c :: s) = none := by
    intro c among
    simp only [List.mem_cons, List.not_mem_nil, or_false] at among
    rcases among with rfl | rfl <;> exact ⟨by decide, fun _ => rfl⟩
  induction spells with
  | one spells =>
      exact ⟨_, [], _, rfl, spacedPart_of_spells spells (isMark mark among).1 rest,
        by rw [List.length_append]; omega, .stop ((isMark mark among).2 rest)⟩
  | @dotted part path written more spells spellsMore ih =>
      obtain ⟨second, others, after, rfl, read, short, reads⟩ := ih
      rw [List.append_assoc]
      refine ⟨part, second :: others, '.' :: (more ++ mark :: rest), rfl,
        spacedPart_of_spells spells (by decide) _, ?_, .next read (Nat.lt_succ_of_le short) reads⟩
      rw [List.length_append]
      exact Nat.le_add_left _ _

/-- **A key is read** up to the equals sign or the bracket behind it. -/
lemma dottedKey_of_spells {path : List String} {written : List Char}
    (spells : SpellsKey path written) (short : path.length < depthLimit) {mark : Char}
    (among : mark ∈ ['=', ']']) (rest : List Char) :
    dottedKey (written ++ mark :: rest) = some (path, mark :: rest) := by
  obtain ⟨first, more, after, rfl, read, -, reads⟩ := reads_dottedPart spells among rest
  unfold dottedKey
  rw [read]
  show (if (Step.many dottedPart after).1.length + 1 < depthLimit
    then some (first :: (Step.many dottedPart after).1, (Step.many dottedPart after).2)
    else none) = _
  rw [reads.many_eq]
  exact if_pos short

/-! ## Assignments -/

variable {SpellsContent : Value → List Char → Prop} {reader : Reader Value}

/-- Whether characters spell an assignment: a key, an equals sign, and a value. -/
def SpellsAssignment (SpellsContent : Value → List Char → Prop) (entry : List String × Value)
    (written : List Char) : Prop :=
  entry.1.length < depthLimit ∧ ∃ key blanks content, SpellsKey entry.1 key ∧ AreBlanks blanks ∧
    SpellsContent entry.2 content ∧ written = key ++ '=' :: (blanks ++ content)

/-- Whether a reader takes each value from each of its spellings, where a value may end, and no
spelling starts with a blank. -/
def ReadsAll (reader : Reader Value) (SpellsContent : Value → List Char → Prop) : Prop :=
  ∀ content written, SpellsContent content written → ∀ rest, EndsValue rest →
    reader (written ++ rest) = some (content, rest) ∧
      skipBlanks (written ++ rest) = written ++ rest

/-- **An assignment is read if its value is.** -/
lemma assignment_of_spells (readsAll : ReadsAll reader SpellsContent) {entry : List String × Value}
    {written : List Char} (spells : SpellsAssignment SpellsContent entry written) {rest : List Char}
    (ends : EndsValue rest) :
    assignment reader (written ++ rest) = some (entry, skipBlanks rest) := by
  obtain ⟨short, key, blanks, content, spellsKey, areBlanks, spells, rfl⟩ := spells
  obtain ⟨read, start⟩ := readsAll _ _ spells rest ends
  have isKey := dottedKey_of_spells spellsKey short (by decide : '=' ∈ ['=', ']'])
    (blanks ++ content ++ rest)
  unfold assignment
  rw [List.append_assoc, List.cons_append, isKey]
  show (reader (skipBlanks (blanks ++ content ++ rest))).bind _ = _
  rw [List.append_assoc, skipBlanks_append areBlanks, start, read]
  rfl

/-- Scalars are read from their spellings. -/
lemma readsAll_scalar (depth : Nat) : ReadsAll (value depth) Spells := by
  intro content written spells rest ends
  obtain ⟨first, more, written_eq, notBracket, notBrace, notBlank⟩ := spells.exists_cons
  have isScalar := scalar_of_spells spells ends
  rw [written_eq, List.cons_append] at isScalar ⊢
  refine ⟨?_, skipBlanks_cons notBlank _⟩
  unfold value
  split
  · next same => exact absurd (List.cons.inj same).1 notBracket
  · next same => exact absurd (List.cons.inj same).1 notBrace
  · exact isScalar

/-! ## Tables between braces -/

/-- Entries as the assignments that make them. -/
def asAssignments (entries : Entries) : List (List String × Value) :=
  entries.map fun entry => ([entry.1], entry.2)

/-- Whether characters spell an assignment with blanks behind it. -/
def SpellsItem (entry : List String × Value) (written : List Char) : Prop :=
  ∃ item blanks, SpellsAssignment Spells entry item ∧ AreBlanks blanks ∧ written = item ++ blanks

/-- Whether characters spell a value: one that does not nest, or a table of such values between
braces, its keys distinct and its assignments separated by commas. -/
inductive SpellsValue : Value → List Char → Prop
  | scalar {content : Value} {written : List Char} (spells : Spells content written) :
      SpellsValue content written
  | table {entries : Entries} {items : List (List Char)} (distinct : (entries.map Prod.fst).Nodup)
      (spells : List.Forall₂ SpellsItem (asAssignments entries) items) :
      SpellsValue (.table entries) ('\x7b' :: (List.intercalate [','] items ++ ['\x7d']))

/-- Nothing else is found in a table of one key. -/
lemma lookup_singleton_of_ne {other key : String} (apart : other ≠ key) (node : Node) :
    [(key, node)].lookup other = none := by
  rw [List.lookup_cons, beq_false_of_ne apart]
  rfl

/-- Setting a new key of a table at hand puts it behind the others. -/
lemma assign_single {draft : Draft} {key : String} (isNew : draft.lookup key = none)
    (content : Value) : draft.assign [key] content = some (draft ++ [(key, .value content)]) := by
  simp only [Draft.assign, List.dropLast_singleton, List.getLast?_singleton, Draft.descend, isNew,
    ne_eq, not_true_eq_false, false_and, if_false, Option.isSome_none, Bool.false_eq_true]

/-- Distinct single keys are all assigned, in order. -/
lemma assignAll_single {entries : Entries} (distinct : (entries.map Prod.fst).Nodup)
    (draft : Draft) (isNew : ∀ key ∈ entries.map Prod.fst, draft.lookup key = none) :
    draft.assignAll (asAssignments entries) =
      some (draft ++ entries.map fun entry => (entry.1, .value entry.2)) := by
  induction entries generalizing draft with
  | nil =>
      rw [List.map_nil, List.append_nil]
      rfl
  | cons entry entries ih =>
      obtain ⟨key, content⟩ := entry
      obtain ⟨notLater, distinct⟩ := List.nodup_cons.1 distinct
      have stillNew : ∀ other ∈ entries.map Prod.fst,
          (draft ++ [(key, Node.value content)]).lookup other = none := by
        intro other among
        have apart : other ≠ key := by
          rintro rfl
          exact notLater among
        rw [List.lookup_append, isNew other (List.mem_cons_of_mem _ among)]
        exact lookup_singleton_of_ne apart _
      show (draft.assign [key] content).bind
        (fun draft => draft.assignAll (asAssignments entries)) = _
      rw [assign_single (isNew key List.mem_cons_self), Option.bind_some, ih distinct _ stillNew,
        List.append_assoc]
      rfl

/-- Entries under assembly that have their values are finished. -/
lemma finishedEntries_values (entries : Entries) :
    finishedEntries (entries.map fun entry => (entry.1, .value entry.2)) = entries := by
  induction entries with
  | nil => rfl
  | cons entry entries ih =>
      rw [List.map_cons, finishedEntries, ih]
      rfl

/-- A table with distinct keys is what its assignments make. -/
lemma inlineTable?_asAssignments {entries : Entries} (distinct : (entries.map Prod.fst).Nodup) :
    inlineTable? (asAssignments entries) = some (.table entries) := by
  unfold inlineTable?
  rw [assignAll_single distinct [] fun _ _ => rfl, List.nil_append]
  exact congrArg (fun entries => some (Value.table entries)) (finishedEntries_values entries)

/-- An item of a table between braces is read up to the mark behind it. -/
lemma item_of_spells (depth : Nat) {entry : List String × Value} {written : List Char}
    (spells : SpellsItem entry written) {mark : Char} (among : mark ∈ [',', '\x7d'])
    (rest : List Char) :
    assignment (value depth) (written ++ mark :: rest) = some (entry, mark :: rest) := by
  obtain ⟨item, blanks, spells, areBlanks, rfl⟩ := spells
  have isMark : ∀ c ∈ [',', '\x7d'], c ∈ endMarks ∧ isBlank c = false :=
    @of_decide_eq_true _ (List.decidableBAll _ _) rfl
  have ends : EndsValue (blanks ++ mark :: rest) :=
    .blanks_append areBlanks ⟨mark, (isMark mark among).1, rest, rfl⟩
  rw [List.append_assoc, assignment_of_spells (readsAll_scalar depth) spells ends,
    skipBlanks_append areBlanks, skipBlanks_cons (isMark mark among).2]

/-- An item is read up to the items behind it. -/
lemma item_before_items (depth : Nat) {entry : List String × Value} {item : List Char}
    (spells : SpellsItem entry item) (items : List (List Char)) (rest : List Char) :
    assignment (value depth) (item ++ (items.flatMap (',' :: ·) ++ '\x7d' :: rest)) =
      some (entry, items.flatMap (',' :: ·) ++ '\x7d' :: rest) := by
  cases items with
  | nil => exact item_of_spells depth spells (by decide) rest
  | cons next items => exact item_of_spells depth spells (by decide) _

/-- The items behind the first one are read one after another. -/
lemma reads_afterComma (depth : Nat) {entries : List (List String × Value)}
    {items : List (List Char)} (spells : List.Forall₂ SpellsItem entries items) (rest : List Char) :
    Step.Reads (afterComma (assignment (value depth)))
      (items.flatMap (',' :: ·) ++ '\x7d' :: rest) entries ('\x7d' :: rest) := by
  induction spells with
  | nil => exact .stop rfl
  | @cons entry item entries items spells _ ih =>
      rw [List.flatMap_cons, List.append_assoc, List.cons_append]
      refine .next (item_before_items depth spells items rest) ?_ ih
      simp only [List.length_cons, List.length_append]
      omega

/-- Items with commas between them. -/
lemma intercalate_cons (item : List Char) (items : List (List Char)) :
    List.intercalate [','] (item :: items) = item ++ items.flatMap (',' :: ·) := by
  induction items generalizing item with
  | nil => simp [List.intercalate]
  | cons next items ih =>
      show item ++ ([','] ++ List.intercalate [','] (next :: items)) = _
      rw [ih next]
      rfl

/-- The items between braces are read as the table they make. -/
lemma inlineBody_of_spells (depth : Nat) {assignments : List (List String × Value)}
    {items : List (List Char)} (spells : List.Forall₂ SpellsItem assignments items)
    {content : Value} (isTable : inlineTable? assignments = some content) (rest : List Char) :
    inlineBody (value depth) (List.intercalate [','] items ++ '\x7d' :: rest) =
      some (content, rest) := by
  unfold inlineBody
  cases spells with
  | nil =>
      cases isTable
      rfl
  | @cons first item assignments items spellsFirst spells =>
      have reads := reads_afterComma depth spells rest
      rw [intercalate_cons, List.append_assoc, item_before_items depth spellsFirst]
      show (expect '\x7d' (Step.many (afterComma (assignment (value depth))) _).2).bind (fun rest =>
        (inlineTable? (first :: (Step.many (afterComma (assignment (value depth))) _).1)).bind
          fun content => some (content, rest)) = _
      rw [reads.many_eq]
      show (inlineTable? (first :: assignments)).bind _ = _
      rw [isTable]
      rfl

/-- **A value is read from each of its spellings**, if nesting is not exhausted. -/
lemma readsAll_value (depth : Nat) : ReadsAll (value (depth + 1)) SpellsValue := by
  intro content written spells rest ends
  cases spells with
  | scalar spells => exact readsAll_scalar _ _ _ spells rest ends
  | @table entries items distinct spells =>
      refine ⟨?_, skipBlanks_cons rfl _⟩
      rw [List.cons_append, List.append_assoc, List.singleton_append]
      have isTable := inlineTable?_asAssignments distinct
      exact inlineBody_of_spells depth spells isTable rest

/-! ## Lines -/

/-- Whether characters spell lines with these assignments; blank lines and lines with a comment may
stand between them. -/
inductive SpellsLines : List (List String × Value) → List Char → Prop
  | nil : SpellsLines [] []
  | void {entries : List (List String × Value)} {ending more : List Char}
      (ends : SpellsLineEnd ending) (spellsMore : SpellsLines entries more) :
      SpellsLines entries (ending ++ more)
  | cons {entry : List String × Value} {entries : List (List String × Value)}
      {written ending more : List Char} (spells : SpellsAssignment SpellsValue entry written)
      (ends : SpellsLineEnd ending) (spellsMore : SpellsLines entries more) :
      SpellsLines (entry :: entries) (written ++ (ending ++ more))

/-- A key starts, behind blanks, with a bare character. -/
lemma SpellsKey.exists_bare {path : List String} {written : List Char}
    (spells : SpellsKey path written) : ∃ blanks first more, AreBlanks blanks ∧
      isBare first = true ∧ written = blanks ++ first :: more := by
  have ofPart : ∀ {part written}, SpellsPart part written → ∃ blanks first more,
      AreBlanks blanks ∧ isBare first = true ∧ written = blanks ++ first :: more := by
    rintro part _ ⟨⟨notEmpty, areBare⟩, before, after, blanksBefore, -, rfl⟩
    obtain ⟨first, more, chars_eq⟩ := List.exists_cons_of_ne_nil notEmpty
    refine ⟨before, first, more ++ after, blanksBefore,
      areBare first (by rw [chars_eq]; exact List.mem_cons_self), ?_⟩
    rw [chars_eq, List.append_assoc, List.cons_append]
  induction spells with
  | one spells => exact ofPart spells
  | dotted spells =>
      obtain ⟨blanks, first, more, areBlanks, bare, rfl⟩ := ofPart spells
      exact ⟨blanks, first, _, areBlanks, bare, by rw [List.append_assoc, List.cons_append]⟩

/-- Blanks before an assignment change nothing. -/
lemma assignmentLine_skipBlanks (s : List Char) :
    assignmentLine (skipBlanks s) = assignmentLine s := by
  unfold assignmentLine assignment dottedKey spacedPart skipBlanks
  rw [List.dropWhile_idempotent isBlank s]

/-- A key starts with neither a bracket nor a byte-order mark. -/
lemma SpellsKey.exists_cons {path : List String} {written : List Char}
    (spells : SpellsKey path written) :
    ∃ first more, written = first :: more ∧ first ∉ ['[', '\uFEFF'] := by
  obtain ⟨blanks, first, more, areBlanks, bare, rfl⟩ := spells.exists_bare
  have apart : ∀ c ∈ ['[', '\uFEFF'], isBare c = false ∧ isBlank c = false :=
    @of_decide_eq_true _ (List.decidableBAll _ _) rfl
  cases blanks with
  | nil =>
      refine ⟨first, more, rfl, fun among => ?_⟩
      rw [(apart first among).1] at bare
      cases bare
  | cons blank blanks =>
      refine ⟨blank, _, rfl, fun among => ?_⟩
      have isBlank := areBlanks blank List.mem_cons_self
      rw [(apart blank among).2] at isBlank
      cases isBlank

/-- A line that starts, behind blanks, with a bare character holds an assignment or nothing. -/
lemma line_of_isBare {s : List Char} {first : Char} {more : List Char}
    (start : skipBlanks s = first :: more) (bare : isBare first = true) :
    line s = (assignmentLine s).map fun (found, rest) => (some found, rest) := by
  have notMark : ∀ c : Char, isBare c = false → first ≠ c := by
    rintro c notBare rfl
    rw [bare] at notBare
    cases notBare
  have notComment : skipComment (first :: more) = first :: more := by
    unfold skipComment
    split
    · next same => exact absurd (List.cons.inj same).1 (notMark '#' rfl)
    · rfl
  have notEnd : lineEnd (first :: more) = none := by
    unfold lineEnd newline
    rw [skipBlanks_cons (isBlank_of_isBare bare), notComment]
    dsimp only
    split
    · next same => exact absurd (List.cons.inj same).1 (notMark '\n' rfl)
    · next same => exact absurd (List.cons.inj same).1 (notMark '\r' rfl)
    · rfl
  unfold line
  split
  · next same =>
      rw [start] at same
      cases same
  · next same =>
      rw [start] at same
      exact absurd (List.cons.inj same).1 (notMark '[' rfl)
  · rw [start, notEnd, ← start, assignmentLine_skipBlanks]

/-- A line with an assignment is read. -/
lemma line_of_assignment {entry : List String × Value} {written ending : List Char}
    (spells : SpellsAssignment SpellsValue entry written) (ends : SpellsLineEnd ending)
    (rest : List Char) :
    line (written ++ (ending ++ rest)) = some (some entry, rest) := by
  have isEntry : assignment (value (depthLimit - 1)) (written ++ (ending ++ rest)) =
      some (entry, skipBlanks (ending ++ rest)) :=
    assignment_of_spells (readsAll_value 78) spells (ends.endsValue rest)
  have isAssignment : assignmentLine (written ++ (ending ++ rest)) = some (entry, rest) := by
    unfold assignmentLine
    rw [isEntry]
    show (lineEnd (skipBlanks (ending ++ rest))).bind _ = _
    rw [lineEnd_skipBlanks, lineEnd_of_spells ends]
    rfl
  obtain ⟨-, key, blanks, content, spellsKey, -, -, written_eq⟩ := spells
  obtain ⟨before, first, more, areBlanks, bare, rfl⟩ := spellsKey.exists_bare
  have start : skipBlanks (written ++ (ending ++ rest)) =
      first :: (more ++ '=' :: (blanks ++ content) ++ (ending ++ rest)) := by
    rw [written_eq, List.append_assoc, List.append_assoc, skipBlanks_append areBlanks,
      List.cons_append, skipBlanks_cons (isBlank_of_isBare bare), List.append_assoc]
  rw [line_of_isBare start bare, isAssignment]
  rfl

/-- A line without an assignment is read. -/
lemma line_of_void {ending : List Char} (ends : SpellsLineEnd ending) (rest : List Char) :
    line (ending ++ rest) = some (none, rest) := by
  have isEnd : lineEnd (skipBlanks (ending ++ rest)) = some rest := by
    rw [lineEnd_skipBlanks, lineEnd_of_spells ends]
  unfold line
  split
  · next start =>
      obtain ⟨blanks, comment, newline, -, -, among, rfl⟩ := ends
      have isNewline : '\n' ∈ newline := by
        simp only [List.mem_cons, List.not_mem_nil, or_false] at among
        rcases among with rfl | rfl <;> decide
      have blank := List.dropWhile_eq_nil_iff.1 start '\n' (by
        simp only [List.mem_append]
        exact Or.inl (Or.inr isNewline))
      cases blank
  · next start =>
      rw [start] at isEnd
      cases isEnd
  · rw [isEnd]

/-- Whether lines may end in front of these characters: the document does, or a header starts. -/
def EndsLines (rest : List Char) : Prop :=
  rest = [] ∨ ∃ more, rest = '[' :: more

/-- Lines are read one after another. -/
lemma reads_line {entries : List (List String × Value)} {written : List Char}
    (spells : SpellsLines entries written) {rest : List Char} (ends : EndsLines rest) :
    ∃ found, Step.Reads line (written ++ rest) found rest ∧ found.filterMap id = entries := by
  have shorter : ∀ {ending : List Char}, SpellsLineEnd ending → 0 < ending.length := by
    rintro ending ⟨blanks, comment, newline, -, -, among, rfl⟩
    have : 0 < newline.length := by
      simp only [List.mem_cons, List.not_mem_nil, or_false] at among
      rcases among with rfl | rfl <;> decide
    simp only [List.length_append]
    omega
  induction spells with
  | nil =>
      refine ⟨[], .stop ?_, rfl⟩
      rcases ends with rfl | ⟨more, rfl⟩ <;> rfl
  | @void entries ending more endsLine _ ih =>
      obtain ⟨found, reads, found_eq⟩ := ih
      have := shorter endsLine
      rw [List.append_assoc]
      refine ⟨none :: found, .next (line_of_void endsLine _) ?_ reads, found_eq⟩
      simp only [List.length_append]
      omega
  | @cons entry entries written ending more spells endsLine _ ih =>
      obtain ⟨found, reads, found_eq⟩ := ih
      have := shorter endsLine
      rw [List.append_assoc, List.append_assoc]
      refine ⟨some entry :: found, .next (line_of_assignment spells endsLine _) ?_ reads, ?_⟩
      · simp only [List.length_append]
        omega
      · rw [← found_eq]
        rfl

/-- **Lines are read from their spelling**, up to the next header. -/
lemma lines_of_spells {entries : List (List String × Value)} {written : List Char}
    (spells : SpellsLines entries written) {rest : List Char} (ends : EndsLines rest) :
    lines (written ++ rest) = (entries, rest) := by
  obtain ⟨found, reads, rfl⟩ := reads_line spells ends
  have stays : skipBlanks rest = rest := by
    rcases ends with rfl | ⟨more, rfl⟩ <;> rfl
  unfold lines
  rw [reads.many_eq]
  exact congrArg (Prod.mk _) stays

/-! ## Sections and documents -/

/-- Whether characters spell a section: a header on a line of its own, and lines. -/
def SpellsSection (part : Section) (written : List Char) : Prop :=
  part.isElement = false ∧ part.path.length < depthLimit ∧ ∃ key ending more,
    SpellsKey part.path key ∧ SpellsLineEnd ending ∧ SpellsLines part.assignments more ∧
      written = '[' :: (key ++ ']' :: (ending ++ more))

/-- **A section is read from its spelling**, up to the next header. -/
lemma headed_of_spells {part : Section} {written : List Char} (spells : SpellsSection part written)
    {rest : List Char} (ends : EndsLines rest) : headed (written ++ rest) = some (part, rest) := by
  obtain ⟨notElement, short, key, ending, more, spellsKey, endsLine, spells, rfl⟩ := spells
  have isKey := dottedKey_of_spells spellsKey short (by decide : ']' ∈ ['=', ']'])
    (ending ++ (more ++ rest))
  have isHeader : header ('[' :: (key ++ ']' :: (ending ++ (more ++ rest)))) =
      some ((false, part.path), more ++ rest) := by
    obtain ⟨first, others, rfl, notAmong⟩ := spellsKey.exists_cons
    unfold header
    split
    · next same =>
        cases same
        exact absurd List.mem_cons_self notAmong
    · next _ same =>
        cases same
        rw [isKey]
        show (lineEnd (ending ++ (more ++ rest))).bind _ = _
        rw [lineEnd_of_spells endsLine]
        rfl
    · next notHeader => exact absurd rfl (notHeader _)
  unfold headed
  rw [List.cons_append, List.append_assoc, List.cons_append, List.append_assoc, isHeader]
  show some (Section.mk false part.path (lines (more ++ rest)).1, (lines (more ++ rest)).2) = _
  rw [lines_of_spells spells ends, ← notElement]

/-- Sections are read one after another. -/
lemma reads_headed {sections : List Section} {parts : List (List Char)}
    (spells : List.Forall₂ SpellsSection sections parts) :
    EndsLines parts.flatten ∧ Step.Reads headed parts.flatten sections [] := by
  induction spells with
  | nil => exact ⟨.inl rfl, .stop rfl⟩
  | @cons part written sections parts spells _ ih =>
      obtain ⟨ends, reads⟩ := ih
      have taken := headed_of_spells spells ends
      obtain ⟨-, -, key, ending, more, -, -, -, rfl⟩ := spells
      refine ⟨.inr ⟨_, rfl⟩, .next taken ?_ reads⟩
      simp only [List.flatten_cons, List.cons_append, List.length_cons, List.length_append]
      omega

/-- Whether characters spell a document: lines, and sections behind them. -/
def SpellsDocument (top : List (List String × Value)) (sections : List Section)
    (written : List Char) : Prop :=
  ∃ body parts, SpellsLines top body ∧ List.Forall₂ SpellsSection sections parts ∧
    written = body ++ parts.flatten

/-- A document that is spelled starts with no byte-order mark. -/
lemma withoutMark_of_spells {top : List (List String × Value)} {sections : List Section}
    {written : List Char} (spells : SpellsDocument top sections written) :
    withoutMark written = written := by
  obtain ⟨body, parts, spellsBody, spellsParts, rfl⟩ := spells
  unfold withoutMark
  split
  · next same =>
    exfalso
    cases spellsBody with
    | nil =>
        rcases (reads_headed spellsParts).1 with isEmpty | ⟨more, isHeader⟩
        · rw [isEmpty] at same
          cases same
        · rw [isHeader] at same
          cases same
    | void ends _ =>
        obtain ⟨c, among, _, start⟩ := ends.endsValue (_ ++ parts.flatten)
        rw [List.append_assoc, start] at same
        cases same
        exact absurd among (by decide)
    | cons spells _ _ =>
        obtain ⟨-, key, blanks, content, spellsKey, -, -, rfl⟩ := spells
        obtain ⟨first, more, rfl, notAmong⟩ := spellsKey.exists_cons
        cases same
        exact notAmong (by decide)
  · rfl

/-- **A document is read from its spelling**: the table it stands for is what its assignments and
sections make in order. -/
theorem parse?_of_spells {top : List (List String × Value)} {sections : List Section}
    {document : String} (spells : SpellsDocument top sections document.toList) :
    parse? document = (Draft.assignAll [] top).bind fun draft =>
      (sections.foldlM addSection draft).map finishedEntries := by
  have noMark := withoutMark_of_spells spells
  obtain ⟨body, parts, spellsBody, spellsParts, document_eq⟩ := spells
  obtain ⟨ends, reads⟩ := reads_headed spellsParts
  unfold parse?
  rw [noMark, document_eq, lines_of_spells spellsBody ends]
  dsimp only
  rw [reads.many_eq]
  simp only [Option.map_eq_bind]
  rfl

/-! ## What is written -/

/-- A line end without anything in front of it. -/
lemma spellsLineEnd_newline : SpellsLineEnd ['\n'] :=
  ⟨[], [], ['\n'], nofun, .inl rfl, List.mem_cons_self, rfl⟩

/-- A bare key with a blank behind it spells itself. -/
lemma spellsPart_spaced {key : String} (bare : IsBare key) : SpellsPart key (key.toList ++ [' ']) :=
  ⟨bare, [], [' '], nofun, List.forall_mem_singleton.2 rfl, rfl⟩

/-- A bare key spells itself. -/
lemma spellsPart_toList {key : String} (bare : IsBare key) : SpellsPart key key.toList :=
  ⟨bare, [], [], nofun, nofun, by rw [List.nil_append, List.append_nil]⟩

/-- A key with blanks around the equals sign, and a value, spell an assignment. -/
lemma spellsAssignment_spaced {path : List String} {key : List Char}
    (spellsKey : SpellsKey path (key ++ [' '])) (short : path.length < depthLimit) {content : Value}
    {written : List Char} (spells : SpellsValue content written) :
    SpellsAssignment SpellsValue (path, content) (key ++ " = ".toList ++ written) :=
  ⟨short, _, [' '], written, spellsKey, List.forall_mem_singleton.2 rfl, spells, by simp⟩

/-- A written line spells its assignment. -/
lemma spellsLines_writtenLine {key : String} (bare : IsBare key) {content : Value}
    {written : List Char} (spells : SpellsValue content written)
    {entries : List (List String × Value)} {more : List Char}
    (spellsMore : SpellsLines entries more) :
    SpellsLines (([key], content) :: entries) (writtenLine key written ++ more) := by
  have single : 1 < depthLimit := by decide
  have line := SpellsLines.cons
    (spellsAssignment_spaced (.one (spellsPart_spaced bare)) single spells) spellsLineEnd_newline
    spellsMore
  unfold writtenLine
  rwa [List.append_assoc _ ['\n'] more]

/-- A written header and the lines behind it spell a section. -/
lemma spellsSection_writtenHeader {key : String} (bare : IsBare key)
    {assignments : List (List String × Value)} {more : List Char}
    (spells : SpellsLines assignments more) :
    SpellsSection ⟨false, [key], assignments⟩ (writtenHeader key ++ more) := by
  have single : 1 < depthLimit := by decide
  refine ⟨rfl, single, key.toList, ['\n'], more, .one (spellsPart_toList bare),
    spellsLineEnd_newline, spells, ?_⟩
  unfold writtenHeader
  simp

end AppCatalog.Toml
