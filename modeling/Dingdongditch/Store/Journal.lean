import Dingdongditch.Text.JsonText

/-!
# Line journals

A journal is a file of JSON records, one printed record on each line.
`readJournal` splits the file into lines and reads each of them, as
`str.splitlines` does: at the line feed that ends a record, and also at the
separators that a printed record may contain.

A journal is read back as its records exactly when no record contains a
separator (`readJournal_eq`); otherwise it is not read at all.
-/

namespace Dingdongditch.Store

open Text Text.Json

/-- Where `str.splitlines` ends a line. -/
def isLineBreak (c : Char) : Bool :=
  c.toNat ∈ [10, 11, 12, 13, 28, 29, 30, 0x85, 0x2028, 0x2029]

/-- `text.splitlines()` -/
def splitlines : List Char → List (List Char)
  | [] => []
  | '\r' :: '\n' :: rest => [] :: splitlines rest
  | c :: rest =>
      if isLineBreak c then [] :: splitlines rest
      else match splitlines rest with
        | [] => [[c]]
        | line :: lines => (c :: line) :: lines

variable {F : Type} [Floating F]

/-- The line that `append_json_line` adds for a record. -/
def journalLine (record : Json F) : List Char := dumpsText record ++ ['\n']

/-- The text of a journal after its records were appended, one after the other. -/
def journalText (records : List (Json F)) : List Char := records.flatMap journalLine

def isFilled (line : List Char) : Bool := !line.isEmpty

/-- The records of a journal, read line by line; `none` where a line is no JSON. -/
def readJournal [ReadsFloat F] (text : List Char) : Option (List (Json F)) :=
  ((splitlines text).filter isFilled).mapM loads

/-! ## Lines -/

theorem splitlines_cons {c : Char} (inside : isLineBreak c = false) (rest : List Char) :
    splitlines (c :: rest) = match splitlines rest with
      | [] => [[c]]
      | line :: lines => (c :: line) :: lines := by
  rw [splitlines]
  · simp [inside]
  · rintro rest' rfl
    cases inside

theorem splitlines_break {c : Char} (ends : isLineBreak c = true) (rest : List Char) :
    ∃ lines, splitlines (c :: rest) = [] :: lines := by
  by_cases crlf : c = '\r' ∧ ∃ rest', rest = '\n' :: rest'
  · obtain ⟨rfl, rest', rfl⟩ := crlf
    exact ⟨_, rfl⟩
  · rw [splitlines]
    · exact ⟨_, if_pos ends⟩
    · rintro rest' rfl rfl
      exact crlf ⟨rfl, rest', rfl⟩

/-- A line ends at its first break. -/
theorem splitlines_before {line : List Char} (inside : ∀ c ∈ line, isLineBreak c = false)
    {rest : List Char} {lines : List (List Char)} (next : splitlines rest = [] :: lines) :
    splitlines (line ++ rest) = line :: lines := by
  induction line with
  | nil => exact next
  | cons c line ih =>
      obtain ⟨here, later⟩ := List.forall_mem_cons.mp inside
      rw [List.cons_append, splitlines_cons here, ih later]

theorem splitlines_line {line : List Char} (inside : ∀ c ∈ line, isLineBreak c = false)
    (rest : List Char) : splitlines (line ++ '\n' :: rest) = line :: splitlines rest := by
  refine splitlines_before inside ?_
  rw [splitlines]
  · rfl
  · simp

/-! ## Reading what was appended -/

/-- The line breaks that a printed record can contain. -/
def isSeparator (c : Char) : Bool := c.toNat ∈ [0x85, 0x2028, 0x2029]

/-- A record none of whose strings contains a line break that JSON does not escape. -/
def Unbroken (record : Json F) : Prop :=
  ∀ s ∈ record.strings, ∀ c ∈ s.toList, isSeparator c = false

variable [ReadsFloat F]

theorem isSeparator_of_isLineBreak {c : Char} (printable : 32 ≤ c.toNat) (ends : isLineBreak c = true) :
    isSeparator c = true := by
  simp only [isLineBreak, isSeparator, decide_eq_true_eq, List.mem_cons, List.not_mem_nil,
    or_false] at ends ⊢
  omega

theorem unbroken_line {record : Json F} (unbroken : Unbroken record) :
    ∀ c ∈ dumpsText record, isLineBreak c = false := by
  intro c mem
  obtain ⟨printable, ascii | ⟨s, isString, inside⟩⟩ := graphic_dumpsText record c mem
  · simp only [isLineBreak, decide_eq_false_iff_not, List.mem_cons, List.not_mem_nil, or_false]
    omega
  · cases ends : isLineBreak c with
    | false => rfl
    | true =>
        have separator := isSeparator_of_isLineBreak printable ends
        rw [unbroken s isString c inside] at separator
        cases separator

omit [ReadsFloat F] in
/-- A record whose printed text stays on one line is unbroken. -/
theorem unbroken_of_line {record : Json F} (inside : ∀ c ∈ dumpsText record, isLineBreak c = false) :
    Unbroken record := by
  intro s isString c mem
  cases separator : isSeparator c with
  | false => rfl
  | true =>
      have wide : 0x80 ≤ c.toNat := by
        simp only [isSeparator, decide_eq_true_eq, List.mem_cons, List.not_mem_nil, or_false] at separator
        omega
      have ends : isLineBreak c = true := by
        simp only [isSeparator, isLineBreak, decide_eq_true_eq, List.mem_cons, List.not_mem_nil,
          or_false] at separator ⊢
        omega
      have unescaped : escapeText c = [c] := escapeText_wide wide
      rw [inside c (mem_dumpsText unescaped mem record isString)] at ends
      cases ends

theorem readJournal_cons {record : Json F} (inside : ∀ c ∈ dumpsText record, isLineBreak c = false)
    (records : List (Json F)) :
    readJournal (journalText (record :: records)) =
      (readJournal (journalText records)).map (record :: ·) := by
  have text : journalText (record :: records) = dumpsText record ++ '\n' :: journalText records := by
    simp [journalText, journalLine]
  have kept : isFilled (dumpsText record) = true := by
    obtain ⟨c, rest, nonempty, -⟩ := dumpsText_head record
    rw [nonempty]
    rfl
  unfold readJournal
  rw [text, splitlines_line inside, List.filter_cons_of_pos kept, List.mapM_cons, loads_dumpsText]
  generalize (splitlines (journalText records)).filter isFilled = lines
  cases lines.mapM (loads : List Char → Option (Json F)) with
  | none => rfl
  | some later => rfl

theorem readJournal_nil :
    readJournal (journalText ([] : List (Json F))) = some ([] : List (Json F)) := rfl

/-- A journal of unbroken records is read back. -/
theorem readJournal_unbroken {records : List (Json F)}
    (unbroken : ∀ record ∈ records, Unbroken record) :
    readJournal (journalText records) = some records := by
  induction records with
  | nil => exact readJournal_nil
  | cons record records ih =>
      obtain ⟨here, later⟩ := List.forall_mem_cons.mp unbroken
      rw [readJournal_cons (unbroken_line here), ih later]
      rfl

/-- A record with a line break makes the journal unreadable: what stands before
the break is a line of its own, and no document. -/
theorem readJournal_broken {record : Json F}
    (broken : (dumpsText record).any isLineBreak = true) (records : List (Json F)) :
    readJournal (journalText (record :: records)) = (none : Option (List (Json F))) := by
  obtain ⟨d, found⟩ : ∃ d, (dumpsText record).find? isLineBreak = some d := by
    obtain ⟨c, mem, ends⟩ := List.any_eq_true.mp broken
    exact Option.isSome_iff_exists.mp (List.find?_isSome.mpr ⟨c, mem, ends⟩)
  obtain ⟨ends, before, after, split, outside⟩ := List.find?_eq_some_iff_append.mp found
  have inside : ∀ c ∈ before, isLineBreak c = false := fun c mem => by simpa using outside c mem
  have wide : 127 ≤ d.toNat := by
    obtain ⟨printable, -⟩ := graphic_dumpsText record d (split ▸ by simp)
    have separator := isSeparator_of_isLineBreak printable ends
    simp only [isSeparator, decide_eq_true_eq, List.mem_cons, List.not_mem_nil, or_false] at separator
    omega
  have notWord : isWordChar d = false := by
    cases word : isWordChar d with
    | false => rfl
    | true =>
        have graphic := isWordChar_graphic word
        omega
  have notBlank : isBlank d = false := by
    have blanks : ∀ c ∈ [' ', '\t', '\n', '\r'], c.toNat < 127 := by decide
    have other (c : Char) (mem : c ∈ [' ', '\t', '\n', '\r']) : d ≠ c := by
      rintro rfl
      exact absurd (blanks d mem) (Nat.not_lt.mpr wide)
    simp [isBlank, other]
  have nonempty : isFilled before = true := by
    obtain ⟨c, rest, isHead, -, -, ascii⟩ := dumpsText_head record
    cases before with
    | nil =>
        rw [split] at isHead
        obtain ⟨rfl, -⟩ := List.cons.inj isHead
        exact absurd ascii (Nat.not_lt.mpr wide)
    | cons => rfl
  have text : journalText (record :: records) =
      before ++ d :: (after ++ '\n' :: journalText records) := by
    simp [journalText, journalLine, split]
  obtain ⟨lines, next⟩ := splitlines_break ends (after ++ '\n' :: journalText records)
  unfold readJournal
  rw [text, splitlines_before inside next, List.filter_cons_of_pos nonempty, List.mapM_cons,
    loads_prefix split notWord notBlank]
  rfl

/-- Whatever a journal is read as, it is what was appended. -/
theorem readJournal_eq {records read : List (Json F)}
    (isRead : readJournal (journalText records) = some read) : read = records := by
  induction records generalizing read with
  | nil =>
      rw [readJournal_nil] at isRead
      exact (Option.some.inj isRead).symm
  | cons record records ih =>
      by_cases broken : (dumpsText record).any isLineBreak = true
      · rw [readJournal_broken broken] at isRead
        cases isRead
      · have inside : ∀ c ∈ dumpsText record, isLineBreak c = false := by
          simpa using broken
        rw [readJournal_cons inside] at isRead
        obtain ⟨later, isLater, rfl⟩ := Option.map_eq_some_iff.mp isRead
        rw [ih isLater]

/-- A journal that can be read holds unbroken records only. -/
theorem unbroken_of_readJournal {records read : List (Json F)}
    (isRead : readJournal (journalText records) = some read) : ∀ record ∈ records, Unbroken record := by
  induction records generalizing read with
  | nil => exact fun _ mem => absurd mem List.not_mem_nil
  | cons record records ih =>
      by_cases broken : (dumpsText record).any isLineBreak = true
      · rw [readJournal_broken broken] at isRead
        cases isRead
      · have inside : ∀ c ∈ dumpsText record, isLineBreak c = false := by
          simpa using broken
        rw [readJournal_cons inside] at isRead
        obtain ⟨later, isLater, -⟩ := Option.map_eq_some_iff.mp isRead
        exact List.forall_mem_cons.mpr ⟨unbroken_of_line inside, ih isLater⟩

end Dingdongditch.Store
