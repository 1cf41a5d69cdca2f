import Dingdongditch.Text.Json

/-!
# Strings of code points

A string of the language may hold half of a surrogate pair, which no text does.  Its
literal in ASCII writes the half as it writes the halves of a pair, so that two strings
may share a literal.  `encode` turns a value whose strings are code points into a JSON
value, and fails where one of its strings does not encode (`encode_isSome_iff`).
-/

namespace Dingdongditch.Text

abbrev CodePoint : Type := Fin 0x110000

abbrev CodePoints : Type := List CodePoint

def isSurrogate (c : CodePoint) : Bool := 0xd800 ≤ c.val && c.val < 0xe000

def encodeChar (c : CodePoint) : Option Char :=
  if isSurrogate c then none else some (Char.ofNat c.val)

/-- `s.encode()`, as the text that it encodes. -/
def encodeText (s : CodePoints) : Option String := (s.mapM encodeChar).map String.ofList

theorem encodeText_isSome_iff {s : CodePoints} :
    (encodeText s).isSome ↔ ∀ c ∈ s, isSurrogate c = false := by
  unfold encodeText
  rw [Option.isSome_map]
  induction s with
  | nil => simp
  | cons c s ih =>
      rw [List.mapM_cons, List.forall_mem_cons, ← ih]
      cases surrogate : isSurrogate c with
      | true => simp [encodeChar, surrogate]
      | false =>
          cases rest : s.mapM encodeChar with
          | none => simp [encodeChar, surrogate]
          | some => simp [encodeChar, surrogate]

/-! ## Literals -/

/-- `ord(c)` -/
def point (c : Char) : CodePoint :=
  ⟨c.toNat, c.valid.elim (fun low => Nat.lt_trans low (by decide)) fun high => high.2⟩

theorem isSurrogate_point (c : Char) : isSurrogate (point c) = false := by
  have outside : c.toNat < 0xd800 ∨ 0xdfff < c.toNat := c.valid.imp id fun high => high.1
  have apart : ¬ (0xd800 ≤ c.toNat ∧ c.toNat < 0xe000) := by omega
  unfold isSurrogate point
  simpa using apart

/-- One code point of a string, as ASCII text. -/
def escapePoint (c : CodePoint) : List Char :=
  if isSurrogate c then Json.unicodeEscape c.val else Json.escapeChar (Char.ofNat c.val)

theorem escapePoint_point (c : Char) : escapePoint (point c) = Json.escapeChar c := by
  unfold escapePoint
  rw [isSurrogate_point, if_neg Bool.false_ne_true]
  exact congrArg Json.escapeChar (Char.ofNat_toNat c)

/-- What follows the quote that ends a literal. -/
def afterQuote : List Char → List Char
  | c :: d :: rest =>
      if c = '"' then d :: rest
      else if c = '\\' then afterQuote rest
      else afterQuote (d :: rest)
  | _ => []

theorem afterQuote_quote (rest : List Char) : afterQuote ('"' :: rest) = rest := by
  cases rest with
  | nil => rfl
  | cons d rest => exact if_pos rfl

theorem afterQuote_plain {c : Char} (quote : c ≠ '"') (backslash : c ≠ '\\') (rest : List Char) :
    afterQuote (c :: rest) = afterQuote rest := by
  cases rest with
  | nil => rfl
  | cons d rest => rw [afterQuote, if_neg quote, if_neg backslash]

theorem afterQuote_escape (letter : Char) (rest : List Char) :
    afterQuote ('\\' :: letter :: rest) = afterQuote rest := by
  rw [afterQuote, if_neg (by decide), if_pos rfl]

theorem afterQuote_unicodeEscape (unit : Nat) (rest : List Char) :
    afterQuote (Json.unicodeEscape unit ++ rest) = afterQuote rest := by
  have plain : ∀ n < 16, Json.hexDigit n ≠ '"' ∧ Json.hexDigit n ≠ '\\' := by decide
  have digit : ∀ n rest, afterQuote (Json.hexDigit (n % 16) :: rest) = afterQuote rest := by
    intro n rest
    obtain ⟨quote, backslash⟩ := plain (n % 16) (Nat.mod_lt _ (by decide))
    exact afterQuote_plain quote backslash rest
  unfold Json.unicodeEscape Json.hex4
  simp only [List.cons_append, List.nil_append, afterQuote_escape, digit]

theorem afterQuote_escapeChar (c : Char) (rest : List Char) :
    afterQuote (Json.escapeChar c ++ rest) = afterQuote rest := by
  unfold Json.escapeChar
  split
  · exact afterQuote_escape _ rest
  · next isPlain =>
      obtain ⟨backslash, quote⟩ := Json.shortEscape_none isPlain
      split
      · exact afterQuote_plain quote backslash rest
      · split
        · exact afterQuote_unicodeEscape _ rest
        · rw [List.append_assoc, afterQuote_unicodeEscape, afterQuote_unicodeEscape]

theorem afterQuote_literal (s : CodePoints) (rest : List Char) :
    afterQuote (s.flatMap escapePoint ++ '"' :: rest) = rest := by
  induction s with
  | nil => exact afterQuote_quote rest
  | cons c s ih =>
      rw [List.flatMap_cons, List.append_assoc, escapePoint]
      split
      · rw [afterQuote_unicodeEscape, ih]
      · rw [afterQuote_escapeChar, ih]

instance : Json.Textual CodePoints where
  quoted s := '"' :: (s.flatMap escapePoint ++ ['"'])
  ofText s := s.toList.map point
  chars s := s.map ([·])
  le s t := s ≤ t
  quoted_head _ := ⟨_, rfl⟩
  quoted_append {s t rest after} eq := by
    have same : rest = after := by
      have ends : (s.flatMap escapePoint ++ ['"']) ++ rest = (t.flatMap escapePoint ++ ['"']) ++ after :=
        (List.cons.inj eq).2
      rw [List.append_assoc, List.append_assoc] at ends
      rw [← afterQuote_literal s rest, ← afterQuote_literal t after]
      exact congrArg afterQuote ends
    subst same
    exact ⟨List.append_cancel_right eq, rfl⟩
  quoted_ofText s := by
    rw [List.flatMap_map]
    simp only [escapePoint_point]
    rfl

/-- A JSON value whose strings are code points. -/
inductive RawJson (F : Type)
  | null
  | bool (b : Bool)
  | int (n : Int)
  | float (x : F)
  | str (s : CodePoints)
  | list (items : List (RawJson F))
  | dict (entries : List (String × RawJson F))

namespace RawJson

variable {F : Type}

mutual

def encode : RawJson F → Option (Json F)
  | .null => some .null
  | .bool b => some (.bool b)
  | .int n => some (.int n)
  | .float x => some (.float x)
  | .str s => (encodeText s).map .str
  | .list items => (encodeItems items).map .list
  | .dict entries => (encodeEntries entries).map .dict

def encodeItems : List (RawJson F) → Option (List (Json F))
  | [] => some []
  | item :: items => (encode item).bind fun item => (encodeItems items).map (item :: ·)

def encodeEntries : List (String × RawJson F) → Option (List (String × Json F))
  | [] => some []
  | (key, value) :: entries =>
      (encode value).bind fun value => (encodeEntries entries).map ((key, value) :: ·)

end

mutual

/-- The strings of a value. -/
def texts : RawJson F → List CodePoints
  | .str s => [s]
  | .list items => textsItems items
  | .dict entries => textsEntries entries
  | _ => []

def textsItems : List (RawJson F) → List CodePoints
  | [] => []
  | item :: items => texts item ++ textsItems items

def textsEntries : List (String × RawJson F) → List CodePoints
  | [] => []
  | (_, value) :: entries => texts value ++ textsEntries entries

end

/-- No string of the value holds half of a surrogate pair. -/
def Encodable (v : RawJson F) : Prop := ∀ s ∈ v.texts, ∀ c ∈ s, isSurrogate c = false

theorem isSome_bind_map {α β γ : Type} {x : Option α} {y : Option β} {f : α → β → γ} :
    (x.bind fun a => y.map (f a)).isSome ↔ x.isSome ∧ y.isSome := by
  cases x with
  | none => simp
  | some a => cases y with
    | none => simp
    | some b => simp

mutual

theorem encode_isSome_iff : (v : RawJson F) → (v.encode.isSome ↔ v.Encodable)
  | .null => by simp [encode, Encodable, texts]
  | .bool _ => by simp [encode, Encodable, texts]
  | .int _ => by simp [encode, Encodable, texts]
  | .float _ => by simp [encode, Encodable, texts]
  | .str s => by
      rw [encode, Option.isSome_map, encodeText_isSome_iff, Encodable, texts, List.forall_mem_singleton]
  | .list items => by
      rw [encode, Option.isSome_map, encodeItems_isSome_iff items, Encodable, texts]
  | .dict entries => by
      rw [encode, Option.isSome_map, encodeEntries_isSome_iff entries, Encodable, texts]

theorem encodeItems_isSome_iff : (items : List (RawJson F)) →
    ((encodeItems items).isSome ↔ ∀ s ∈ textsItems items, ∀ c ∈ s, isSurrogate c = false)
  | [] => by simp [encodeItems, textsItems]
  | item :: items => by
      rw [encodeItems, isSome_bind_map, encode_isSome_iff item, encodeItems_isSome_iff items,
        textsItems, List.forall_mem_append, Encodable]

theorem encodeEntries_isSome_iff : (entries : List (String × RawJson F)) →
    ((encodeEntries entries).isSome ↔ ∀ s ∈ textsEntries entries, ∀ c ∈ s, isSurrogate c = false)
  | [] => by simp [encodeEntries, textsEntries]
  | (_, value) :: entries => by
      rw [encodeEntries, isSome_bind_map, encode_isSome_iff value, encodeEntries_isSome_iff entries,
        textsEntries, List.forall_mem_append, Encodable]

end

end RawJson

end Dingdongditch.Text
