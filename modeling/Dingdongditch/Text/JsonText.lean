import Dingdongditch.Text.Json

/-!
# Reading JSON text

`dumpsText` prints a value with its characters as they are, and `loads` reads a
document with a pushdown automaton: a state is the stack of the lists and
dictionaries that are open and what the next character belongs to.

`loads_dumpsText` reads a printed value back.  Since the automaton is
deterministic, no proper prefix of a printed value is a document
(`loads_prefix`).
-/

namespace Dingdongditch.Text.Json

variable {F : Type}

/-! ## Printing -/

/-- One character of a string, left as it is unless JSON has to escape it. -/
def escapeText (c : Char) : List Char :=
  match shortEscape c with
  | some letter => ['\\', letter]
  | none => if c.toNat < 32 then unicodeEscape c.toNat else [c]

def quoteText (s : String) : List Char := '"' :: (s.toList.flatMap escapeText ++ ['"'])

mutual

/-- `json.dumps(value, ensure_ascii=False)` -/
def dumpsText [Floating F] : Json F → List Char
  | .null => "null".toList
  | .bool true => "true".toList
  | .bool false => "false".toList
  | .int n => (toString n).toList
  | .float x => Floating.repr x
  | .str s => quoteText s
  | .list [] => "[]".toList
  | .list (item :: items) => '[' :: (dumpsText item ++ dumpsTextItems items)
  | .dict [] => "{}".toList
  | .dict ((key, value) :: entries) =>
      '\x7b' :: (quoteText key ++ ':' :: ' ' :: (dumpsText value ++ dumpsTextEntries entries))

def dumpsTextItems [Floating F] : List (Json F) → List Char
  | [] => [']']
  | item :: items => ',' :: ' ' :: (dumpsText item ++ dumpsTextItems items)

def dumpsTextEntries [Floating F] : List (String × Json F) → List Char
  | [] => ['\x7d']
  | (key, value) :: entries =>
      ',' :: ' ' :: (quoteText key ++ ':' :: ' ' :: (dumpsText value ++ dumpsTextEntries entries))

end

mutual

/-- The strings and the keys of a value. -/
def strings : Json F → List String
  | .str s => [s]
  | .list items => stringsItems items
  | .dict entries => stringsEntries entries
  | _ => []

def stringsItems : List (Json F) → List String
  | [] => []
  | item :: items => strings item ++ stringsItems items

def stringsEntries : List (String × Json F) → List String
  | [] => []
  | (key, value) :: entries => key :: strings value ++ stringsEntries entries

end

section Printed

variable [Floating F]

/-- A character that is not ASCII is printed as it is. -/
theorem escapeText_wide {c : Char} (wide : 0x80 ≤ c.toNat) : escapeText c = [c] := by
  have other {d : Char} (ascii : d.toNat < 0x80) : c ≠ d := by
    rintro rfl
    omega
  have none : shortEscape c = none := by
    unfold shortEscape
    rw [if_neg (other (by decide)), if_neg (other (by decide)), if_neg (other (by decide)),
      if_neg (other (by decide)), if_neg (other (by decide)), if_neg (by omega), if_neg (by omega)]
  rw [escapeText, none]
  simp only
  rw [if_neg (by omega)]

theorem mem_quoteText {s : String} {c : Char} (unescaped : escapeText c = [c]) (inside : c ∈ s.toList) :
    c ∈ quoteText s := by
  have printed : c ∈ s.toList.flatMap escapeText :=
    List.mem_flatMap.mpr ⟨c, inside, by simp [unescaped]⟩
  simp [quoteText, printed]

/-- A key with its value, and the entries after it, print what they contain. -/
theorem mem_entry {key s : String} {value : Json F} {entries : List (String × Json F)} {c : Char}
    (unescaped : escapeText c = [c]) (inside : c ∈ s.toList)
    (first : s ∈ value.strings → c ∈ dumpsText value)
    (later : s ∈ stringsEntries entries → c ∈ dumpsTextEntries entries)
    (mem : s ∈ stringsEntries ((key, value) :: entries)) :
    c ∈ quoteText key ++ ':' :: ' ' :: (dumpsText value ++ dumpsTextEntries entries) := by
  rcases List.mem_cons.mp mem with rfl | mem
  · exact List.mem_append_left _ (mem_quoteText unescaped inside)
  refine List.mem_append_right _ (List.mem_cons_of_mem _ (List.mem_cons_of_mem _ ?_))
  rcases List.mem_append.mp mem with inValue | inEntries
  · exact List.mem_append_left _ (first inValue)
  · exact List.mem_append_right _ (later inEntries)

mutual

/-- A character that is not escaped is printed as it is. -/
theorem mem_dumpsText {s : String} {c : Char} (unescaped : escapeText c = [c]) (inside : c ∈ s.toList) :
    (v : Json F) → s ∈ v.strings → c ∈ dumpsText v
  | .null, mem => absurd mem List.not_mem_nil
  | .bool true, mem => absurd mem List.not_mem_nil
  | .bool false, mem => absurd mem List.not_mem_nil
  | .int _, mem => absurd mem List.not_mem_nil
  | .float _, mem => absurd mem List.not_mem_nil
  | .str t, mem => by
      rw [strings, List.mem_singleton] at mem
      exact mem_quoteText unescaped (mem ▸ inside)
  | .list [], mem => absurd mem List.not_mem_nil
  | .list (item :: items), mem => by
      refine List.mem_cons_of_mem _ ?_
      rcases List.mem_append.mp mem with first | later
      · exact List.mem_append_left _ (mem_dumpsText unescaped inside item first)
      · exact List.mem_append_right _ (mem_dumpsTextItems unescaped inside items later)
  | .dict [], mem => absurd mem List.not_mem_nil
  | .dict ((key, value) :: entries), mem =>
      List.mem_cons_of_mem _ (mem_entry unescaped inside (mem_dumpsText unescaped inside value)
        (mem_dumpsTextEntries unescaped inside entries) mem)

theorem mem_dumpsTextItems {s : String} {c : Char} (unescaped : escapeText c = [c])
    (inside : c ∈ s.toList) :
    (items : List (Json F)) → s ∈ stringsItems items → c ∈ dumpsTextItems items
  | [], mem => absurd mem List.not_mem_nil
  | item :: items, mem => by
      refine List.mem_cons_of_mem _ (List.mem_cons_of_mem _ ?_)
      rcases List.mem_append.mp mem with first | later
      · exact List.mem_append_left _ (mem_dumpsText unescaped inside item first)
      · exact List.mem_append_right _ (mem_dumpsTextItems unescaped inside items later)

theorem mem_dumpsTextEntries {s : String} {c : Char} (unescaped : escapeText c = [c])
    (inside : c ∈ s.toList) :
    (entries : List (String × Json F)) → s ∈ stringsEntries entries → c ∈ dumpsTextEntries entries
  | [], mem => absurd mem List.not_mem_nil
  | (_, value) :: entries, mem =>
      List.mem_cons_of_mem _ (List.mem_cons_of_mem _ (mem_entry unescaped inside
        (mem_dumpsText unescaped inside value) (mem_dumpsTextEntries unescaped inside entries) mem))

end

end Printed

/-! ## Reading -/

/-- Whitespace of JSON. -/
def isBlank (c : Char) : Bool := c = ' ' || c = '\t' || c = '\n' || c = '\r'

/-- The characters of numbers and of the named constants. -/
def isWordChar (c : Char) : Bool := c.isAlphanum || c = '-' || c = '+' || c = '.'

/-- Floating-point numbers that can be read from their text. -/
class ReadsFloat (F : Type) [Floating F] where
  parse : List Char → Option F
  parse_repr : ∀ x, parse (Floating.repr x) = some x
  repr_chars : ∀ x : F, ∀ c ∈ Floating.repr x, isWordChar c = true
  repr_ne_word : ∀ x : F,
    Floating.repr x ∉ ["null".toList, "true".toList, "false".toList, "-0".toList]

/-- `int(text)`, for a text of digits after an optional sign. -/
def intOf (text : List Char) : Int :=
  match text with
  | '-' :: digits => -(Nat.ofDigitChars 10 digits 0)
  | digits => Nat.ofDigitChars 10 digits 0

/-- An integer literal: no leading zero, and no sign but `-`. -/
def readInt (text : List Char) : Option Int :=
  if (toString (intOf text)).toList = text ∨ text = ['-', '0'] then some (intOf text) else none

/-- A number or a named constant. -/
def readWord [Floating F] [ReadsFloat F] (text : List Char) : Option (Json F) :=
  if text = "null".toList then some .null
  else if text = "true".toList then some (.bool true)
  else if text = "false".toList then some (.bool false)
  else match readInt text with
    | some n => some (.int n)
    | none => (ReadsFloat.parse text).map .float

def letterEscape (letter : Char) : Option Char :=
  if letter ∈ ['"', '\\', '/'] then some letter
  else if letter ∈ ['n', 'r', 't', 'f', 'b'] then some (shortUnescape letter)
  else none

/-- Where in a string literal the next character stands.  `high` is the first
half of a surrogate pair, which only the second half may follow: a surrogate on
its own is no character. -/
inductive Lexeme
  | plain
  | escaped
  | digits (high : Option Nat) (read : List Char)
  | high (unit : Nat)
  | highEscaped (unit : Nat)
  deriving DecidableEq

/-- The lexeme after a code unit, and the character that it completes. -/
def closeUnit (high : Option Nat) (unit : Nat) : Option (List Char × Lexeme) :=
  match high with
  | none =>
      if unit < 0xd800 ∨ 0xe000 ≤ unit then some ([Char.ofNat unit], .plain)
      else if unit < 0xdc00 then some ([], .high unit)
      else none
  | some high =>
      if 0xdc00 ≤ unit ∧ unit < 0xe000 then
        some ([Char.ofNat (0x10000 + (high - 0xd800) * 1024 + (unit - 0xdc00))], .plain)
      else none

def isHexDigit (c : Char) : Bool :=
  c.isDigit || ('a' ≤ c && c ≤ 'f') || ('A' ≤ c && c ≤ 'F')

/-- One character of a string literal: what it adds to the string and the next
lexeme.  A quote in `plain` ends the literal before this is asked. -/
def stepString (lexeme : Lexeme) (c : Char) : Option (List Char × Lexeme) :=
  match lexeme with
  | .plain =>
      if c = '\\' then some ([], .escaped)
      else if c.toNat < 32 then none
      else some ([c], .plain)
  | .escaped =>
      if c = 'u' then some ([], .digits none [])
      else (letterEscape c).map fun c => ([c], .plain)
  | .digits high read =>
      if !isHexDigit c then none
      else match read with
        | [a, b, d] => closeUnit high (unhex4 a.toLower b.toLower d.toLower c.toLower)
        | _ => some ([], .digits high (read ++ [c]))
  | .high unit => if c = '\\' then some ([], .highEscaped unit) else none
  | .highEscaped unit => if c = 'u' then some ([], .digits (some unit) []) else none

/-- The characters of a string literal before its closing quote. -/
def scanString (lexeme : Lexeme) : List Char → Option (List Char × Lexeme)
  | [] => some ([], lexeme)
  | c :: text =>
      if lexeme = .plain ∧ c = '"' then none
      else do
        let (first, lexeme) ← stepString lexeme c
        let (more, lexeme) ← scanString lexeme text
        return (first ++ more, lexeme)

/-- A list or a dictionary that is open, with what it holds so far. -/
inductive Frame (F : Type)
  | list (items : List (Json F))
  | dict (entries : List (String × Json F)) (key : String)

/-- What the next character belongs to. -/
inductive Mode (F : Type)
  | value
  /-- After `[`: a value or `]`. -/
  | first
  /-- After an opening brace: a key or the closing brace. -/
  | firstKey
  /-- After a comma in a dictionary. -/
  | nextKey (entries : List (String × Json F))
  /-- In a string: a value, or the key of a dictionary that holds `entries`. -/
  | string (key : Option (List (String × Json F))) (read : List Char) (lexeme : Lexeme)
  | colon (entries : List (String × Json F)) (key : String)
  | word (read : List Char)
  | after (v : Json F)

/-- A state of the automaton. -/
abbrev Reading (F : Type) : Type := List (Frame F) × Mode F

/-- The first character of a value. -/
def startValue (stack : List (Frame F)) (c : Char) : Option (Reading F) :=
  if c = '"' then some (stack, .string none [] .plain)
  else if c = '[' then some (stack, .first)
  else if c = '\x7b' then some (stack, .firstKey)
  else if isWordChar c then some (stack, .word [c])
  else none

/-- A character after a complete value. -/
def stepAfter (stack : List (Frame F)) (v : Json F) (c : Char) : Option (Reading F) :=
  if isBlank c then some (stack, .after v)
  else match stack with
    | [] => none
    | .list items :: stack =>
        if c = ',' then some (.list (items ++ [v]) :: stack, .value)
        else if c = ']' then some (stack, .after (.list (items ++ [v])))
        else none
    | .dict entries key :: stack =>
        if c = ',' then some (stack, .nextKey (entries ++ [(key, v)]))
        else if c = '\x7d' then some (stack, .after (.dict (entries ++ [(key, v)])))
        else none

variable [Floating F] [ReadsFloat F]

/-- The quote that ends a string. -/
def closeString (stack : List (Frame F)) (key : Option (List (String × Json F))) (read : List Char) :
    Reading F :=
  match key with
  | none => (stack, .after (.str (String.ofList read)))
  | some entries => (stack, .colon entries (String.ofList read))

def step (state : Reading F) (c : Char) : Option (Reading F) :=
  let stack := state.1
  match state.2 with
  | .value => if isBlank c then some state else startValue stack c
  | .first =>
      if isBlank c then some state
      else if c = ']' then some (stack, .after (.list []))
      else startValue (.list [] :: stack) c
  | .firstKey =>
      if isBlank c then some state
      else if c = '\x7d' then some (stack, .after (.dict []))
      else if c = '"' then some (stack, .string (some []) [] .plain)
      else none
  | .nextKey entries =>
      if isBlank c then some state
      else if c = '"' then some (stack, .string (some entries) [] .plain)
      else none
  | .string key read lexeme =>
      if lexeme = .plain ∧ c = '"' then some (closeString stack key read)
      else (stepString lexeme c).map fun (more, lexeme) => (stack, .string key (read ++ more) lexeme)
  | .colon entries key =>
      if isBlank c then some state
      else if c = ':' then some (.dict entries key :: stack, .value)
      else none
  | .word read =>
      if isWordChar c then some (stack, .word (read ++ [c]))
      else (readWord read).bind fun v => stepAfter stack v c
  | .after v => stepAfter stack v c

/-- The document that a state has read, when nothing is missing. -/
def finish : Reading F → Option (Json F)
  | ([], .after v) => some v
  | ([], .word read) => readWord read
  | _ => none

/-- The states of the automaton along a text. -/
def feed (text : List Char) (state : Reading F) : Option (Reading F) :=
  text.foldlM step state

/-- `json.loads(text)`, on text without surrogates of its own.  Repeated keys of
a dictionary are kept. -/
def loads (text : List Char) : Option (Json F) := (feed text ([], .value)).bind finish

/-! ## The characters of a printed value -/

theorem hexDigit_graphic (n : Nat) : 32 ≤ (hexDigit n).toNat ∧ (hexDigit n).toNat < 127 := by
  have digits : ∀ c ∈ "0123456789abcdef".toList, 32 ≤ c.toNat ∧ c.toNat < 127 := by decide
  by_cases small : n < 16
  · refine digits _ ?_
    have all : ∀ n < 16, hexDigit n ∈ "0123456789abcdef".toList := by decide
    exact all n small
  · have isZero : hexDigit n = '0' := by
      unfold hexDigit
      rw [List.getD_eq_getElem?_getD, List.getElem?_eq_none (Nat.not_lt.mp small)]
      rfl
    rw [isZero]
    decide

/-- A character is printed as graphic ASCII text, or as itself. -/
theorem escapeText_chars (c : Char) :
    ∀ d ∈ escapeText c, (32 ≤ d.toNat ∧ d.toNat < 127) ∨ d = c ∧ 32 ≤ c.toNat := by
  intro d mem
  unfold escapeText at mem
  split at mem
  · next letter short =>
      have graphic : 32 ≤ letter.toNat ∧ letter.toNat < 127 := by
        unfold shortEscape at short
        split_ifs at short <;> cases short <;> decide
      rcases List.mem_cons.mp mem with rfl | isLetter
      · exact .inl (by decide)
      · rw [List.mem_singleton.mp isLetter]
        exact .inl graphic
  · next plain =>
      split at mem
      · next control =>
          simp only [unicodeEscape, hex4, List.mem_cons, List.not_mem_nil, or_false] at mem
          rcases mem with rfl | rfl | rfl | rfl | rfl | rfl
          · exact .inl (by decide)
          · exact .inl (by decide)
          all_goals exact .inl (hexDigit_graphic _)
      · next printable =>
          rw [List.mem_singleton.mp mem]
          exact .inr ⟨rfl, Nat.not_lt.mp printable⟩

theorem isWordChar_graphic {c : Char} (word : isWordChar c = true) :
    32 ≤ c.toNat ∧ c.toNat < 127 := by
  have signs : ∀ d ∈ ['-', '+', '.'], 32 ≤ d.toNat ∧ d.toNat < 127 := by decide
  unfold isWordChar at word
  simp only [Bool.or_eq_true, decide_eq_true_eq] at word
  rcases word with ((letter | rfl) | rfl) | rfl
  · rw [isAlphanum_iff] at letter
    omega
  all_goals exact signs _ (by decide)

/-- What a printed value consists of: graphic ASCII text, and characters of the
strings `texts`, none of them a control character. -/
def Graphic (texts : List String) (c : Char) : Prop :=
  32 ≤ c.toNat ∧ (c.toNat < 127 ∨ ∃ s ∈ texts, c ∈ s.toList)

theorem Graphic.mono {texts more : List String} {c : Char} (graphic : Graphic texts c)
    (covers : ∀ s ∈ texts, s ∈ more) : Graphic more c := by
  obtain ⟨printable, ascii | ⟨s, mem, inside⟩⟩ := graphic
  · exact ⟨printable, .inl ascii⟩
  · exact ⟨printable, .inr ⟨s, covers s mem, inside⟩⟩

theorem graphic_of_ascii {texts : List String} {c : Char} (ascii : 32 ≤ c.toNat ∧ c.toNat < 127) :
    Graphic texts c :=
  ⟨ascii.1, .inl ascii.2⟩

theorem graphic_quoteText (s : String) : ∀ c ∈ quoteText s, Graphic [s] c := by
  have quote : Graphic [s] '"' := graphic_of_ascii (by decide)
  intro c mem
  rcases List.mem_cons.mp mem with rfl | mem
  · exact quote
  rcases List.mem_append.mp mem with inside | last
  · obtain ⟨d, isChar, escaped⟩ := List.mem_flatMap.mp inside
    rcases escapeText_chars d c escaped with ascii | ⟨rfl, printable⟩
    · exact graphic_of_ascii ascii
    · exact ⟨printable, .inr ⟨s, List.mem_singleton_self s, isChar⟩⟩
  · rw [List.mem_singleton.mp last]
    exact quote

theorem graphic_word {text : List Char} (word : ∀ c ∈ text, isWordChar c = true) :
    ∀ c ∈ text, Graphic [] c :=
  fun c mem => graphic_of_ascii (isWordChar_graphic (word c mem))

/-! ## A printed value is read back -/

theorem feed_append (text more : List Char) (state : Reading F) :
    feed (text ++ more) state = (feed text state).bind (feed more) :=
  List.foldlM_append ..

theorem feed_cons (c : Char) (text : List Char) (state : Reading F) :
    feed (c :: text) state = (step state c).bind (feed text) :=
  List.foldlM_cons ..

/-- A control character is read back from its escape. -/
theorem scanString_control : ∀ n < 32,
    scanString .plain (unicodeEscape n) = some ([Char.ofNat n], .plain) := by
  decide

theorem letterEscape_of_short {c letter : Char} (short : shortEscape c = some letter) :
    letterEscape letter = some c := by
  obtain ⟨-, back⟩ := shortEscape_some short
  have known : letter ∈ ['"', '\\', '/'] ∧ letter = c ∨ letter ∈ ['n', 'r', 't', 'f', 'b'] := by
    unfold shortEscape at short
    split_ifs at short with quote backslash <;> cases short
    · exact .inl ⟨by decide, quote.symm⟩
    · exact .inl ⟨by decide, backslash.symm⟩
    all_goals exact .inr (by decide)
  unfold letterEscape
  rcases known with ⟨same, rfl⟩ | isLetter
  · rw [if_pos same]
  · have other : letter ∉ ['"', '\\', '/'] := by
      intro mem
      have disjoint : ∀ l ∈ ['n', 'r', 't', 'f', 'b'], l ∉ ['"', '\\', '/'] := by decide
      exact disjoint letter isLetter mem
    rw [if_neg other, if_pos isLetter, back]

theorem scanString_escapeText (c : Char) : scanString .plain (escapeText c) = some ([c], .plain) := by
  unfold escapeText
  split
  · next letter short =>
      obtain ⟨notUnicode, -⟩ := shortEscape_some short
      simp [scanString, stepString, notUnicode, letterEscape_of_short short]
  · next plain =>
      split
      · next control =>
          rw [scanString_control c.toNat control, Char.ofNat_toNat]
      · next printable =>
          obtain ⟨notEscape, notQuote⟩ := shortEscape_none plain
          simp [scanString, stepString, notEscape, notQuote, printable]

theorem feed_scanString {text read more rest : List Char} {lexeme last : Lexeme}
    (scanned : scanString lexeme text = some (more, last)) (stack : List (Frame F))
    (key : Option (List (String × Json F))) :
    feed (text ++ rest) (stack, .string key read lexeme) =
      feed rest (stack, .string key (read ++ more) last) := by
  induction text generalizing lexeme read more with
  | nil =>
      obtain ⟨rfl, rfl⟩ := Prod.mk.inj (Option.some.inj scanned)
      rw [List.nil_append, List.append_nil]
  | cons c text ih =>
      rw [scanString] at scanned
      split at scanned
      · cases scanned
      · next inside =>
          obtain ⟨⟨first, next⟩, stepped, tail⟩ := Option.bind_eq_some_iff.mp scanned
          obtain ⟨⟨later, last'⟩, scanned', same⟩ := Option.bind_eq_some_iff.mp tail
          cases same
          rw [List.cons_append, feed_cons]
          simp only [step, if_neg inside, stepped, Option.map_some, Option.bind_some]
          rw [ih scanned', List.append_assoc]

/-- A string literal is read as its string. -/
theorem feed_chars (s : List Char) (stack : List (Frame F)) (key : Option (List (String × Json F)))
    (read rest : List Char) :
    feed (s.flatMap escapeText ++ rest) (stack, .string key read .plain) =
      feed rest (stack, .string key (read ++ s) .plain) := by
  induction s generalizing read with
  | nil => simp
  | cons c s ih =>
      rw [List.flatMap_cons, List.append_assoc, feed_scanString (scanString_escapeText c), ih]
      simp

theorem feed_quoteText (s : String) (stack : List (Frame F)) (key : Option (List (String × Json F)))
    (rest : List Char) :
    feed (s.toList.flatMap escapeText ++ '"' :: rest) (stack, .string key [] .plain) =
      feed rest (closeString stack key s.toList) := by
  rw [feed_chars, feed_cons]
  simp [step]

/-! ### Words -/

theorem intOf_toString (n : Int) : intOf (toString n).toList = n := by
  rw [Int.toString_eq_repr, Int.repr_eq_if]
  split
  · next nonneg =>
    have digit : ∀ c ∈ Nat.toDigits 10 n.toNat, c.isDigit = true := fun c mem =>
      Nat.isDigit_of_mem_toDigits (by decide) (by decide) mem
    rw [Nat.toList_repr, intOf]
    · rw [Nat.ofDigitChars_ten_toDigits]
      omega
    · intro digits isDigits
      have sign := digit '-' (by simp [isDigits])
      cases sign
  · rw [String.toList_append, Nat.toList_repr]
    change -((Nat.ofDigitChars 10 (Nat.toDigits 10 _) 0 : Nat) : Int) = n
    rw [Nat.ofDigitChars_ten_toDigits]
    omega

theorem readInt_toString (n : Int) : readInt (toString n).toList = some n := by
  rw [readInt, intOf_toString, if_pos (.inl rfl)]

theorem readWord_int (n : Int) : readWord (F := F) (toString n).toList = some (.int n) := by
  unfold readWord
  have null : "null".toList ≠ (toString n).toList :=
    ne_int_of_mem (c := 'n') (by decide) (by decide) (by decide) n
  have isTrue : "true".toList ≠ (toString n).toList :=
    ne_int_of_mem (c := 't') (by decide) (by decide) (by decide) n
  have isFalse : "false".toList ≠ (toString n).toList :=
    ne_int_of_mem (c := 'f') (by decide) (by decide) (by decide) n
  rw [if_neg null.symm, if_neg isTrue.symm, if_neg isFalse.symm, readInt_toString]

theorem readInt_eq_some {text : List Char} {n : Int} (read : readInt text = some n) :
    (toString n).toList = text ∨ text = ['-', '0'] := by
  unfold readInt at read
  split at read
  · next canonical =>
    cases read
    exact canonical
  · cases read

theorem readWord_float (x : F) : readWord (Floating.repr x) = some (.float x) := by
  have other := ReadsFloat.repr_ne_word x
  simp only [List.mem_cons, List.not_mem_nil, or_false, not_or] at other
  unfold readWord
  rw [if_neg other.1, if_neg other.2.1, if_neg other.2.2.1]
  cases read : readInt (Floating.repr x) with
  | none => simp only [ReadsFloat.parse_repr, Option.map_some]
  | some n =>
      rcases readInt_eq_some read with same | minusZero
      · exact absurd same.symm (Floating.repr_ne_int x n)
      · exact absurd minusZero other.2.2.2

theorem isWordChar_of_isDigit {c : Char} (digit : c.isDigit = true) : isWordChar c = true := by
  simp [isWordChar, Char.isAlphanum, digit]

theorem isWordChar_int (n : Int) : ∀ c ∈ (toString n).toList, isWordChar c = true := by
  intro c mem
  have digits (m : Nat) : c ∈ Nat.toDigits 10 m → isWordChar c = true := fun mem =>
    isWordChar_of_isDigit (Nat.isDigit_of_mem_toDigits (by decide) (by decide) mem)
  rw [Int.toString_eq_repr, Int.repr_eq_if] at mem
  split at mem
  · rw [Nat.toList_repr] at mem
    exact digits _ mem
  · rw [String.toList_append, Nat.toList_repr] at mem
    rcases List.mem_append.mp mem with sign | digit
    · rw [List.mem_singleton.mp sign]
      rfl
    · exact digits _ digit

omit [ReadsFloat F] in
/-- A key with its value, and the entries after it. -/
theorem graphic_entry (key : String) (value : Json F) (entries : List (String × Json F))
    (first : ∀ c ∈ dumpsText value, Graphic value.strings c)
    (later : ∀ c ∈ dumpsTextEntries entries, Graphic (stringsEntries entries) c) :
    ∀ c ∈ quoteText key ++ ':' :: ' ' :: (dumpsText value ++ dumpsTextEntries entries),
      Graphic (stringsEntries ((key, value) :: entries)) c := by
  intro c mem
  rcases List.mem_append.mp mem with isKey | mem
  · refine (graphic_quoteText key c isKey).mono fun s mem => ?_
    rw [List.mem_singleton.mp mem]
    exact List.mem_cons_self
  rcases List.mem_cons.mp mem with rfl | mem
  · exact graphic_of_ascii (by decide)
  rcases List.mem_cons.mp mem with rfl | mem
  · exact graphic_of_ascii (by decide)
  rcases List.mem_append.mp mem with inValue | inEntries
  · exact (first c inValue).mono fun s mem => List.mem_cons_of_mem _ (List.mem_append_left _ mem)
  · exact (later c inEntries).mono fun s mem => List.mem_cons_of_mem _ (List.mem_append_right _ mem)

set_option linter.unusedSectionVars false in
mutual

/-- The characters of a printed value. -/
theorem graphic_dumpsText : (v : Json F) → ∀ c ∈ dumpsText v, Graphic v.strings c
  | .null => by
      have word : ∀ c ∈ "null".toList, isWordChar c = true := by decide
      exact graphic_word word
  | .bool true => by
      have word : ∀ c ∈ "true".toList, isWordChar c = true := by decide
      exact graphic_word word
  | .bool false => by
      have word : ∀ c ∈ "false".toList, isWordChar c = true := by decide
      exact graphic_word word
  | .int n => graphic_word (isWordChar_int n)
  | .float x => graphic_word (ReadsFloat.repr_chars x)
  | .str s => graphic_quoteText s
  | .list [] => by
      intro c mem
      have ascii : ∀ c ∈ "[]".toList, 32 ≤ c.toNat ∧ c.toNat < 127 := by decide
      exact graphic_of_ascii (ascii c mem)
  | .list (item :: items) => by
      intro c mem
      rcases List.mem_cons.mp mem with rfl | mem
      · exact graphic_of_ascii (by decide)
      rcases List.mem_append.mp mem with first | later
      · exact (graphic_dumpsText item c first).mono fun s mem => List.mem_append_left _ mem
      · exact (graphic_dumpsTextItems items c later).mono fun s mem => List.mem_append_right _ mem
  | .dict [] => by
      intro c mem
      have ascii : ∀ c ∈ "{}".toList, 32 ≤ c.toNat ∧ c.toNat < 127 := by decide
      exact graphic_of_ascii (ascii c mem)
  | .dict ((key, value) :: entries) => by
      intro c mem
      rcases List.mem_cons.mp mem with rfl | mem
      · exact graphic_of_ascii (by decide)
      exact graphic_entry key value entries (graphic_dumpsText value)
        (graphic_dumpsTextEntries entries) c mem

theorem graphic_dumpsTextItems : (items : List (Json F)) →
    ∀ c ∈ dumpsTextItems items, Graphic (stringsItems items) c
  | [] => by
      intro c mem
      rw [List.mem_singleton.mp mem]
      exact graphic_of_ascii (by decide)
  | item :: items => by
      intro c mem
      rcases List.mem_cons.mp mem with rfl | mem
      · exact graphic_of_ascii (by decide)
      rcases List.mem_cons.mp mem with rfl | mem
      · exact graphic_of_ascii (by decide)
      rcases List.mem_append.mp mem with first | later
      · exact (graphic_dumpsText item c first).mono fun s mem => List.mem_append_left _ mem
      · exact (graphic_dumpsTextItems items c later).mono fun s mem => List.mem_append_right _ mem

theorem graphic_dumpsTextEntries : (entries : List (String × Json F)) →
    ∀ c ∈ dumpsTextEntries entries, Graphic (stringsEntries entries) c
  | [] => by
      intro c mem
      rw [List.mem_singleton.mp mem]
      exact graphic_of_ascii (by decide)
  | (key, value) :: entries => by
      intro c mem
      rcases List.mem_cons.mp mem with rfl | mem
      · exact graphic_of_ascii (by decide)
      rcases List.mem_cons.mp mem with rfl | mem
      · exact graphic_of_ascii (by decide)
      exact graphic_entry key value entries (graphic_dumpsText value)
        (graphic_dumpsTextEntries entries) c mem

end

/-- What no word contains. -/
theorem not_isWordChar {c : Char} (mem : c ∈ [' ', ',', ':', ']', '\x7d', '"', '[', '\x7b', '\t', '\n', '\r']) :
    isWordChar c = false := by
  have all : ∀ c ∈ [' ', ',', ':', ']', '\x7d', '"', '[', '\x7b', '\t', '\n', '\r'],
      isWordChar c = false := by decide
  exact all c mem

theorem ne_of_isWordChar {c d : Char} (word : isWordChar c = true)
    (mem : d ∈ [' ', ',', ':', ']', '\x7d', '"', '[', '\x7b', '\t', '\n', '\r']) : c ≠ d := by
  rintro rfl
  rw [not_isWordChar mem] at word
  cases word

omit [Floating F] [ReadsFloat F] in
theorem startValue_word {c : Char} (word : isWordChar c = true) (stack : List (Frame F)) :
    startValue stack c = some (stack, .word [c]) := by
  unfold startValue
  rw [if_neg (ne_of_isWordChar word (by decide)), if_neg (ne_of_isWordChar word (by decide)),
    if_neg (ne_of_isWordChar word (by decide)), if_pos word]

theorem feed_wordChars {text : List Char} (word : ∀ c ∈ text, isWordChar c = true)
    (stack : List (Frame F)) (read : List Char) :
    feed text (stack, .word read) = some (stack, .word (read ++ text)) := by
  induction text generalizing read with
  | nil => simp [feed]
  | cons c text ih =>
      obtain ⟨isWord, later⟩ := List.forall_mem_cons.mp word
      rw [feed_cons]
      simp only [step, if_pos isWord, Option.bind_some]
      rw [ih later, List.append_assoc]
      rfl

/-! ### Values -/

/-- The states that have read exactly the value `v` on top of `stack`. -/
def Ready (stack : List (Frame F)) (v : Json F) (state : Reading F) : Prop :=
  state = (stack, .after v) ∨ ∃ text, state = (stack, .word text) ∧ readWord text = some v

theorem Ready.step {stack : List (Frame F)} {v : Json F} {state : Reading F}
    (ready : Ready stack v state) {c : Char} (outside : isWordChar c = false) :
    step state c = stepAfter stack v c := by
  rcases ready with rfl | ⟨text, rfl, read⟩
  · rfl
  · simp [Json.step, outside, read]

theorem Ready.finish {v : Json F} {state : Reading F} (ready : Ready [] v state) :
    finish state = some v := by
  rcases ready with rfl | ⟨text, rfl, read⟩
  · rfl
  · exact read

theorem feed_word {text : List Char} {v : Json F} (nonempty : text ≠ [])
    (word : ∀ c ∈ text, isWordChar c = true) (read : readWord text = some v)
    (stack : List (Frame F)) :
    ∃ state, feed text (stack, .value) = some state ∧ Ready stack v state := by
  obtain ⟨c, text, rfl⟩ := List.exists_cons_of_ne_nil nonempty
  obtain ⟨isWord, later⟩ := List.forall_mem_cons.mp word
  have blank : isBlank c = false := by
    simp [isBlank, ne_of_isWordChar isWord (d := ' ') (by decide),
      ne_of_isWordChar isWord (d := '\t') (by decide), ne_of_isWordChar isWord (d := '\n') (by decide),
      ne_of_isWordChar isWord (d := '\r') (by decide)]
  refine ⟨(stack, .word ([c] ++ text)), ?_, .inr ⟨_, rfl, read⟩⟩
  rw [feed_cons]
  simp only [Json.step, blank, startValue_word isWord, Option.bind_some, Bool.false_eq_true, if_false]
  exact feed_wordChars later stack [c]

omit [Floating F] [ReadsFloat F] in
theorem IsNumber.ne_nil {text : List Char} (number : IsNumber text) : text ≠ [] := by
  obtain ⟨c, rest, rfl, -⟩ := number.head
  simp

/-- How a printed value starts: not with a blank, and not with what closes a list. -/
theorem dumpsText_head (v : Json F) :
    ∃ c text, dumpsText v = c :: text ∧ isBlank c = false ∧ c ≠ ']' ∧ c.toNat < 127 := by
  have word {text : List Char} (nonempty : text ≠ []) (isWord : ∀ c ∈ text, isWordChar c = true) :
      ∃ c rest, text = c :: rest ∧ isBlank c = false ∧ c ≠ ']' ∧ c.toNat < 127 := by
    obtain ⟨c, rest, rfl⟩ := List.exists_cons_of_ne_nil nonempty
    have isWord := isWord c List.mem_cons_self
    refine ⟨c, rest, rfl, ?_, ne_of_isWordChar isWord (by decide), (isWordChar_graphic isWord).2⟩
    simp [isBlank, ne_of_isWordChar isWord (d := ' ') (by decide),
      ne_of_isWordChar isWord (d := '\t') (by decide), ne_of_isWordChar isWord (d := '\n') (by decide),
      ne_of_isWordChar isWord (d := '\r') (by decide)]
  cases v with
  | null => exact ⟨'n', _, rfl, rfl, by decide, by decide⟩
  | bool b => cases b <;> exact ⟨_, _, rfl, rfl, by decide, by decide⟩
  | int n =>
      exact word (isNumber_int n).ne_nil (isWordChar_int n)
  | float x =>
      exact word (isNumber_float x).ne_nil (ReadsFloat.repr_chars x)
  | str s => exact ⟨'"', _, rfl, rfl, by decide, by decide⟩
  | list items => cases items <;> exact ⟨_, _, rfl, rfl, by decide, by decide⟩
  | dict entries => cases entries <;> exact ⟨_, _, rfl, rfl, by decide, by decide⟩

/-- The first item of a list is read as a value. -/
theorem feed_first (v : Json F) (rest : List Char) (stack : List (Frame F)) :
    feed (dumpsText v ++ rest) (stack, .first) =
      feed (dumpsText v ++ rest) (.list [] :: stack, .value) := by
  obtain ⟨c, text, isCons, blank, closer, -⟩ := dumpsText_head v
  rw [isCons, List.cons_append, feed_cons, feed_cons]
  simp only [Json.step, blank, closer, Bool.false_eq_true, if_false]

theorem feed_blank_value (rest : List Char) (stack : List (Frame F)) :
    feed (' ' :: rest) (stack, .value) = feed rest (stack, .value) := rfl

/-- A key and its colon. -/
theorem feed_key (key : String) (entries : List (String × Json F)) (rest : List Char)
    (stack : List (Frame F)) :
    feed (key.toList.flatMap escapeText ++ '"' :: ':' :: ' ' :: rest)
        (stack, .string (some entries) [] .plain) =
      feed rest (.dict entries key :: stack, .value) := by
  rw [feed_quoteText]
  simp only [closeString, String.ofList_toList]
  rfl

mutual

/-- A printed value is read as one value on top of any stack. -/
theorem feed_dumpsText : (v : Json F) → (stack : List (Frame F)) →
    ∃ state, feed (dumpsText v) (stack, .value) = some state ∧ Ready stack v state
  | .null, stack => by
      have nonempty : "null".toList ≠ [] := by decide
      have word : ∀ c ∈ "null".toList, isWordChar c = true := by decide
      exact feed_word nonempty word rfl stack
  | .bool true, stack => by
      have nonempty : "true".toList ≠ [] := by decide
      have word : ∀ c ∈ "true".toList, isWordChar c = true := by decide
      exact feed_word nonempty word rfl stack
  | .bool false, stack => by
      have nonempty : "false".toList ≠ [] := by decide
      have word : ∀ c ∈ "false".toList, isWordChar c = true := by decide
      exact feed_word nonempty word rfl stack
  | .int n, stack => feed_word (isNumber_int n).ne_nil (isWordChar_int n) (readWord_int n) stack
  | .float x, stack =>
      feed_word (isNumber_float x).ne_nil (ReadsFloat.repr_chars x) (readWord_float x) stack
  | .str s, stack => by
      refine ⟨(stack, .after (.str s)), ?_, .inl rfl⟩
      change feed (s.toList.flatMap escapeText ++ ['"']) (stack, .string none [] .plain) = _
      rw [feed_quoteText]
      simp [closeString, feed]
  | .list [], stack => ⟨(stack, .after (.list [])), rfl, .inl rfl⟩
  | .list (item :: items), stack => by
      obtain ⟨state, first, ready⟩ := feed_dumpsText item (.list [] :: stack)
      refine ⟨(stack, .after (.list (item :: items))), ?_, .inl rfl⟩
      change feed (dumpsText item ++ dumpsTextItems items) (stack, .first) = _
      rw [feed_first, feed_append, first]
      exact feed_dumpsTextItems items item [] stack state ready
  | .dict [], stack => ⟨(stack, .after (.dict [])), rfl, .inl rfl⟩
  | .dict ((key, value) :: entries), stack => by
      obtain ⟨state, first, ready⟩ := feed_dumpsText value (.dict [] key :: stack)
      refine ⟨(stack, .after (.dict ((key, value) :: entries))), ?_, .inl rfl⟩
      have opened : dumpsText (.dict ((key, value) :: entries)) =
          ['\x7b', '"'] ++ (key.toList.flatMap escapeText ++
            '"' :: ':' :: ' ' :: (dumpsText value ++ dumpsTextEntries entries)) := by
        simp [dumpsText, quoteText]
      rw [opened, feed_append]
      change feed _ (stack, .string (some []) [] .plain) = _
      rw [feed_key, feed_append, first]
      exact feed_dumpsTextEntries entries key value [] stack state ready

theorem feed_dumpsTextItems : (items : List (Json F)) → (v : Json F) → (before : List (Json F)) →
    (stack : List (Frame F)) → (state : Reading F) → Ready (.list before :: stack) v state →
    feed (dumpsTextItems items) state = some (stack, .after (.list (before ++ v :: items)))
  | [], v, before, stack, state, ready => by
      change feed [']'] state = _
      rw [feed_cons, ready.step (by decide)]
      rfl
  | item :: items, v, before, stack, state, ready => by
      obtain ⟨next, first, ready'⟩ := feed_dumpsText item (.list (before ++ [v]) :: stack)
      change feed (',' :: ' ' :: (dumpsText item ++ dumpsTextItems items)) state = _
      rw [feed_cons, ready.step (by decide)]
      change feed (' ' :: _) (.list (before ++ [v]) :: stack, .value) = _
      rw [feed_blank_value, feed_append, first]
      have rest := feed_dumpsTextItems items item (before ++ [v]) stack next ready'
      rw [List.append_assoc] at rest
      exact rest

theorem feed_dumpsTextEntries : (entries : List (String × Json F)) → (key : String) → (v : Json F) →
    (before : List (String × Json F)) → (stack : List (Frame F)) → (state : Reading F) →
    Ready (.dict before key :: stack) v state →
    feed (dumpsTextEntries entries) state =
      some (stack, .after (.dict (before ++ (key, v) :: entries)))
  | [], key, v, before, stack, state, ready => by
      change feed ['\x7d'] state = _
      rw [feed_cons, ready.step (by decide)]
      rfl
  | (nextKey, value) :: entries, key, v, before, stack, state, ready => by
      obtain ⟨next, first, ready'⟩ := feed_dumpsText value (.dict (before ++ [(key, v)]) nextKey :: stack)
      have opened : dumpsTextEntries ((nextKey, value) :: entries) =
          ',' :: ([' ', '"'] ++ (nextKey.toList.flatMap escapeText ++
            '"' :: ':' :: ' ' :: (dumpsText value ++ dumpsTextEntries entries))) := by
        simp [dumpsTextEntries, quoteText]
      rw [opened, feed_cons, ready.step (by decide)]
      change feed ([' ', '"'] ++ _) (stack, .nextKey (before ++ [(key, v)])) = _
      rw [feed_append]
      change feed _ (stack, .string (some (before ++ [(key, v)])) [] .plain) = _
      rw [feed_key, feed_append, first]
      have rest := feed_dumpsTextEntries entries nextKey value (before ++ [(key, v)]) stack next ready'
      rw [List.append_assoc] at rest
      exact rest

end

/-- A printed value is read back. -/
theorem loads_dumpsText (v : Json F) : loads (dumpsText v) = some v := by
  obtain ⟨state, fed, ready⟩ := feed_dumpsText v []
  rw [loads, fed]
  exact ready.finish

/-- No document is continued by a character that is neither blank nor part of a word. -/
theorem step_of_finished {state : Reading F} {v : Json F} (finished : finish state = some v)
    {c : Char} (outside : isWordChar c = false) (blank : isBlank c = false) : step state c = none := by
  obtain ⟨stack, mode⟩ := state
  cases stack with
  | cons => cases finished
  | nil =>
      cases mode with
      | after w => simp [Json.step, stepAfter, blank]
      | word read =>
          change readWord read = some v at finished
          simp [Json.step, outside, finished, stepAfter, blank]
      | _ => cases finished

/-- What stands before such a character in a printed value is not a document. -/
theorem loads_prefix {v : Json F} {before after : List Char} {c : Char}
    (printed : dumpsText v = before ++ c :: after) (outside : isWordChar c = false)
    (blank : isBlank c = false) : loads before = (none : Option (Json F)) := by
  obtain ⟨state, fed, -⟩ := feed_dumpsText v ([] : List (Frame F))
  rw [printed, feed_append] at fed
  obtain ⟨middle, reached, rest⟩ := Option.bind_eq_some_iff.mp fed
  rw [loads, reached, Option.bind_some]
  cases finished : finish middle with
  | none => rfl
  | some w =>
      rw [feed_cons, step_of_finished finished outside blank] at rest
      cases rest

end Dingdongditch.Text.Json
