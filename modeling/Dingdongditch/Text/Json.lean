import Dingdongditch.Text.Dict
import Dingdongditch.Text.Surgery
import Mathlib.Data.List.Sort
import Mathlib.Data.String.Basic
import Std.Data.String.ToInt

/-!
# JSON values and their canonical text

`Json F` is a JSON value whose numbers other than integers are values of a type
`F` of floating-point numbers; `Json F τ` has strings of a type `τ` that are printed
as literals (`Textual`).  `dumps` prints a value as compact ASCII text in the order of
its dictionaries, `normalize f` sorts every dictionary by key and applies `f` to
every string value, and `looseEq` is the equality of a dynamic language, which
compares numbers by value.

`literals_eq` says that the text determines the value up to the literals of its
strings, also inside a longer text; `dumps_entry` reads the text of an entry of a
dictionary back from the text of its normal form.
-/

namespace Dingdongditch.Text

/-- What a number may start with. -/
def startsNumber (c : Char) : Bool := c.isDigit || c = '-' || c = 'N' || c = 'I'

/-- What follows a value inside a list or a dictionary. -/
def closesValue (c : Char) : Bool := c = ',' || c = ']' || c = '\x7d'

/-- Numbers other than integers: the text they are printed as, and how they
compare.  The laws are what keeps that text apart from the rest of a document. -/
class Floating (F : Type) where
  repr : F → List Char
  isFinite : F → Bool
  eq : F → F → Bool
  eqInt : F → Int → Bool
  eq_self : ∀ x, isFinite x = true → eq x x = true
  repr_inj : ∀ x y, repr x = repr y → x = y
  repr_head : ∀ x, ∃ c rest, repr x = c :: rest ∧ startsNumber c = true
  repr_chars : ∀ x, ∀ c ∈ repr x, closesValue c = false
  repr_ne_int : ∀ x (n : Int), repr x ≠ (toString n).toList

inductive Json (F : Type) (τ : Type := String)
  | null
  | bool (b : Bool)
  | int (n : Int)
  | float (x : F)
  | str (s : τ)
  | list (items : List (Json F τ))
  | dict (entries : List (String × Json F τ))

namespace Json

variable {F τ : Type}

/-- `d.get(key)` -/
def get (d : List (String × Json F τ)) (key : String) : Json F τ := (d.lookup key).getD .null

/-- `d.get(key, default)` -/
def getOr (d : List (String × Json F τ)) (key : String) (default : Json F τ) : Json F τ :=
  (d.lookup key).getD default

/-- The value, if it is a string. -/
def asText : Json F τ → Option τ
  | .str s => some s
  | _ => none

/-! ## Text -/

def hexDigit (n : Nat) : Char := "0123456789abcdef".toList.getD n '0'

/-- `"{:04x}".format(n)` for `n < 2 ^ 16` -/
def hex4 (n : Nat) : List Char :=
  [hexDigit (n / 4096 % 16), hexDigit (n / 256 % 16), hexDigit (n / 16 % 16), hexDigit (n % 16)]

/-- The escapes of JSON that have a letter of their own. -/
def shortEscape (c : Char) : Option Char :=
  if c = '"' then some '"'
  else if c = '\\' then some '\\'
  else if c = '\n' then some 'n'
  else if c = '\r' then some 'r'
  else if c = '\t' then some 't'
  else if c.toNat = 12 then some 'f'
  else if c.toNat = 8 then some 'b'
  else none

def unicodeEscape (unit : Nat) : List Char := '\\' :: 'u' :: hex4 unit

/-- One character of a string, as ASCII text. -/
def escapeChar (c : Char) : List Char :=
  match shortEscape c with
  | some letter => ['\\', letter]
  | none =>
      if 32 ≤ c.toNat ∧ c.toNat ≤ 126 then [c]
      else if c.toNat < 0x10000 then unicodeEscape c.toNat
      else
        let n := c.toNat - 0x10000
        unicodeEscape (0xd800 + n / 1024) ++ unicodeEscape (0xdc00 + n % 1024)

/-- A string literal. -/
def quote (s : String) : List Char := '"' :: (s.toList.flatMap escapeChar ++ ['"'])

/-- Strings with the literal that each is printed as. -/
class Quoted (τ : Type) where
  quoted : τ → List Char

mutual

/-- `json.dumps(value, separators=(",", ":"), ensure_ascii=True)` -/
def dumps [Floating F] [Quoted τ] : Json F τ → List Char
  | .null => "null".toList
  | .bool true => "true".toList
  | .bool false => "false".toList
  | .int n => (toString n).toList
  | .float x => Floating.repr x
  | .str s => Quoted.quoted s
  | .list [] => "[]".toList
  | .list (item :: items) => '[' :: (dumps item ++ dumpsItems items)
  | .dict [] => "{}".toList
  | .dict ((key, value) :: entries) =>
      '\x7b' :: (quote key ++ ':' :: (dumps value ++ dumpsEntries entries))

def dumpsItems [Floating F] [Quoted τ] : List (Json F τ) → List Char
  | [] => [']']
  | item :: items => ',' :: (dumps item ++ dumpsItems items)

def dumpsEntries [Floating F] [Quoted τ] : List (String × Json F τ) → List Char
  | [] => ['\x7d']
  | (key, value) :: entries =>
      ',' :: (quote key ++ ':' :: (dumps value ++ dumpsEntries entries))

end

/-! ## The text of a string determines it -/

section Strings

def hexValue (c : Char) : Nat := "0123456789abcdef".toList.idxOf c

def unhex4 (a b c d : Char) : Nat :=
  hexValue a * 4096 + hexValue b * 256 + hexValue c * 16 + hexValue d

theorem hexValue_hexDigit {n : Nat} (small : n < 16) : hexValue (hexDigit n) = n := by
  have all : ∀ n < 16, hexValue (hexDigit n) = n := by decide
  exact all n small

theorem unhex4_hex4 {n : Nat} (small : n < 0x10000) :
    unhex4 (hexDigit (n / 4096 % 16)) (hexDigit (n / 256 % 16)) (hexDigit (n / 16 % 16))
      (hexDigit (n % 16)) = n := by
  unfold unhex4
  rw [hexValue_hexDigit (by omega), hexValue_hexDigit (by omega), hexValue_hexDigit (by omega),
    hexValue_hexDigit (by omega)]
  omega

def shortUnescape (letter : Char) : Char :=
  if letter = 'n' then '\n'
  else if letter = 'r' then '\r'
  else if letter = 't' then '\t'
  else if letter = 'f' then Char.ofNat 12
  else if letter = 'b' then Char.ofNat 8
  else letter

/-- What follows `\\u`: one code unit, or the first of a surrogate pair. -/
def readUnicode : List Char → Option (Char × List Char)
  | a :: b :: c :: d :: rest =>
      let unit := unhex4 a b c d
      if unit < 0xd800 ∨ 0xdc00 ≤ unit then some (Char.ofNat unit, rest)
      else match rest with
        | _ :: _ :: a :: b :: c :: d :: rest =>
            some (Char.ofNat (0x10000 + (unit - 0xd800) * 1024 + (unhex4 a b c d - 0xdc00)), rest)
        | _ => none
  | _ => none

/-- The first character of the text between the quotes. -/
def readChar : List Char → Option (Char × List Char)
  | [] => none
  | c :: rest =>
      if c ≠ '\\' then some (c, rest)
      else match rest with
        | [] => none
        | letter :: rest =>
            if letter = 'u' then readUnicode rest else some (shortUnescape letter, rest)

theorem shortEscape_some {c letter : Char} (short : shortEscape c = some letter) :
    letter ≠ 'u' ∧ shortUnescape letter = c := by
  unfold shortEscape at short
  have ofNat {n : Nat} (is : c.toNat = n) : Char.ofNat n = c := by
    rw [← is, Char.ofNat_toNat]
  split at short
  · next is => cases short; subst is; decide
  split at short
  · next is => cases short; subst is; decide
  split at short
  · next is => cases short; subst is; decide
  split at short
  · next is => cases short; subst is; decide
  split at short
  · next is => cases short; subst is; decide
  split at short
  · next is => cases short; exact ⟨by decide, ofNat is⟩
  split at short
  · next is => cases short; exact ⟨by decide, ofNat is⟩
  · cases short

theorem shortEscape_none {c : Char} (plain : shortEscape c = none) : c ≠ '\\' ∧ c ≠ '"' := by
  constructor
  · rintro rfl
    cases plain
  · rintro rfl
    cases plain

theorem readUnicode_single {unit : Nat} (small : unit < 0x10000)
    (single : unit < 0xd800 ∨ 0xdc00 ≤ unit) (rest : List Char) :
    readUnicode (hex4 unit ++ rest) = some (Char.ofNat unit, rest) := by
  unfold hex4
  dsimp only [List.cons_append, List.nil_append, readUnicode]
  rw [unhex4_hex4 small, if_pos single]

theorem readUnicode_pair {high low : Nat} (isHigh : 0xd800 ≤ high ∧ high < 0xdc00)
    (small : low < 0x10000) (rest : List Char) :
    readUnicode (hex4 high ++ (unicodeEscape low ++ rest)) =
      some (Char.ofNat (0x10000 + (high - 0xd800) * 1024 + (low - 0xdc00)), rest) := by
  unfold unicodeEscape hex4
  dsimp only [List.cons_append, List.nil_append, readUnicode]
  rw [unhex4_hex4 (by omega), if_neg (by omega), unhex4_hex4 small]

theorem readChar_unicodeEscape (unit : Nat) (rest : List Char) :
    readChar (unicodeEscape unit ++ rest) = readUnicode (hex4 unit ++ rest) := by
  unfold unicodeEscape
  rw [List.cons_append, List.cons_append, readChar]
  rw [if_neg (by simp)]
  exact if_pos rfl

theorem readChar_escapeChar (c : Char) (rest : List Char) :
    readChar (escapeChar c ++ rest) = some (c, rest) := by
  unfold escapeChar
  split
  · next letter short =>
      obtain ⟨notUnicode, back⟩ := shortEscape_some short
      dsimp only [List.cons_append, List.nil_append, readChar]
      rw [if_neg (by simp), if_neg notUnicode, back]
  · next plain =>
      split
      · dsimp only [List.cons_append, List.nil_append, readChar]
        rw [if_pos (shortEscape_none plain).1]
      · split
        · next bmp =>
            have valid : c.toNat < 0xd800 ∨ 0xdc00 ≤ c.toNat := by
              rcases c.valid with low | high
              · exact .inl low
              · exact .inr (by have := high.1; simp only [Char.toNat]; omega)
            rw [readChar_unicodeEscape, readUnicode_single bmp valid, Char.ofNat_toNat]
        · next astral =>
            have bound : c.toNat < 0x110000 := by
              rcases c.valid with low | high
              · simp only [Char.toNat]; omega
              · exact high.2
            rw [List.append_assoc, readChar_unicodeEscape, readUnicode_pair (by omega) (by omega)]
            have back : 0x10000 + (0xd800 + (c.toNat - 0x10000) / 1024 - 0xd800) * 1024 +
                (0xdc00 + (c.toNat - 0x10000) % 1024 - 0xdc00) = c.toNat := by omega
            rw [back, Char.ofNat_toNat]

/-- No character is printed with a quote in front. -/
theorem escapeChar_ne_quote (c : Char) (rest after : List Char) :
    escapeChar c ++ rest ≠ '"' :: after := by
  intro eq
  have read := congrArg readChar eq
  rw [readChar_escapeChar] at read
  obtain ⟨rfl, -⟩ := Prod.mk.inj (Option.some.inj read)
  cases eq

theorem escaped_inj {s t rest after : List Char}
    (eq : s.flatMap escapeChar ++ '"' :: rest = t.flatMap escapeChar ++ '"' :: after) :
    s = t ∧ rest = after := by
  induction s generalizing t with
  | nil =>
      cases t with
      | nil => exact ⟨rfl, (List.cons.inj eq).2⟩
      | cons d t =>
          rw [List.flatMap_cons, List.append_assoc] at eq
          exact absurd eq.symm (escapeChar_ne_quote d _ _)
  | cons c s ih =>
      rw [List.flatMap_cons, List.append_assoc] at eq
      cases t with
      | nil => exact absurd eq (escapeChar_ne_quote c _ _)
      | cons d t =>
          rw [List.flatMap_cons, List.append_assoc] at eq
          have read := congrArg readChar eq
          rw [readChar_escapeChar, readChar_escapeChar] at read
          obtain ⟨rfl, tail⟩ := Prod.mk.inj (Option.some.inj read)
          obtain ⟨rfl, same⟩ := ih tail
          exact ⟨rfl, same⟩

theorem quote_inj {s t : String} {rest after : List Char}
    (eq : quote s ++ rest = quote t ++ after) : s = t ∧ rest = after := by
  unfold quote at eq
  rw [List.cons_append, List.cons_append, List.append_assoc, List.append_assoc] at eq
  obtain ⟨chars, same⟩ := escaped_inj (List.cons.inj eq).2
  exact ⟨String.ext chars, same⟩

end Strings

/-- The strings of a language: what iterating over one yields and how two compare
(`a <= b`).  A literal ends where its quote is closed, and texts are strings that are
printed as the literals of texts. -/
class Textual (τ : Type) extends Quoted τ where
  ofText : String → τ
  chars : τ → List τ
  le : τ → τ → Bool
  quoted_head : ∀ s, ∃ rest, quoted s = '"' :: rest
  quoted_append : ∀ {s t rest after}, quoted s ++ rest = quoted t ++ after →
    quoted s = quoted t ∧ rest = after
  quoted_ofText : ∀ s, quoted (ofText s) = quote s

instance : Textual String where
  quoted := quote
  ofText := id
  chars s := s.toList.map String.singleton
  le s t := s ≤ t
  quoted_head _ := ⟨_, rfl⟩
  quoted_append eq := by
    obtain ⟨rfl, same⟩ := quote_inj eq
    exact ⟨rfl, same⟩
  quoted_ofText _ := rfl

@[simp] theorem ofText_string (s : String) : (Textual.ofText s : String) = s := rfl

/-- Texts that are printed alike are equal. -/
theorem ofText_inj_of_quoted [Textual τ] {s t : String}
    (literal : Quoted.quoted (Textual.ofText s : τ) = Quoted.quoted (Textual.ofText t : τ)) : s = t := by
  rw [Textual.quoted_ofText, Textual.quoted_ofText] at literal
  exact (quote_inj (congrArg (· ++ []) literal)).1

theorem ofText_inj [Textual τ] {s t : String} (eq : (Textual.ofText s : τ) = Textual.ofText t) : s = t :=
  ofText_inj_of_quoted (congrArg Quoted.quoted eq)

/-! ## The text of a value determines it up to its literals -/

section Values

/-- A literal, as a string. -/
structure Literal where
  text : List Char

instance : Quoted Literal := ⟨Literal.text⟩

mutual

/-- The value with the literals of its strings. -/
def literals [Quoted τ] : Json F τ → Json F Literal
  | .null => .null
  | .bool b => .bool b
  | .int n => .int n
  | .float x => .float x
  | .str s => .str ⟨Quoted.quoted s⟩
  | .list items => .list (literalsItems items)
  | .dict entries => .dict (literalsEntries entries)

def literalsItems [Quoted τ] : List (Json F τ) → List (Json F Literal)
  | [] => []
  | item :: items => literals item :: literalsItems items

def literalsEntries [Quoted τ] : List (String × Json F τ) → List (String × Json F Literal)
  | [] => []
  | (key, value) :: entries => (key, literals value) :: literalsEntries entries

end

theorem literalsItems_eq_map [Quoted τ] (items : List (Json F τ)) :
    literalsItems items = items.map literals := by
  induction items with
  | nil => rfl
  | cons item items ih => rw [literalsItems, ih, List.map_cons]

theorem literalsEntries_eq_map [Quoted τ] (entries : List (String × Json F τ)) :
    literalsEntries entries = entries.map fun entry => (entry.1, entry.2.literals) := by
  induction entries with
  | nil => rfl
  | cons entry entries ih => rw [literalsEntries, ih, List.map_cons]

mutual

theorem dumps_literals [Floating F] [Quoted τ] : (v : Json F τ) → dumps v.literals = dumps v
  | .null => rfl
  | .bool true => rfl
  | .bool false => rfl
  | .int _ => rfl
  | .float _ => rfl
  | .str _ => rfl
  | .list [] => rfl
  | .list (item :: items) => by
      rw [literals, literalsItems, dumps, dumps, dumps_literals item, dumpsItems_literals items]
  | .dict [] => rfl
  | .dict ((key, value) :: entries) => by
      rw [literals, literalsEntries, dumps, dumps, dumps_literals value, dumpsEntries_literals entries]

theorem dumpsItems_literals [Floating F] [Quoted τ] :
    (items : List (Json F τ)) → dumpsItems (literalsItems items) = dumpsItems items
  | [] => rfl
  | item :: items => by
      rw [literalsItems, dumpsItems, dumpsItems, dumps_literals item, dumpsItems_literals items]

theorem dumpsEntries_literals [Floating F] [Quoted τ] :
    (entries : List (String × Json F τ)) → dumpsEntries (literalsEntries entries) = dumpsEntries entries
  | [] => rfl
  | (key, value) :: entries => by
      rw [literalsEntries, dumpsEntries, dumpsEntries, dumps_literals value,
        dumpsEntries_literals entries]

end

/-- The text that may follow a value in a document. -/
def Closes (rest : List Char) : Prop := ∀ c, rest.head? = some c → closesValue c = true

theorem closes_dumpsItems [Floating F] [Quoted τ] (items : List (Json F τ)) (rest : List Char) :
    Closes (dumpsItems items ++ rest) := by
  cases items with
  | nil => rintro c ⟨⟩; rfl
  | cons item items => rintro c ⟨⟩; rfl

theorem closes_dumpsEntries [Floating F] [Quoted τ] (entries : List (String × Json F τ)) (rest : List Char) :
    Closes (dumpsEntries entries ++ rest) := by
  cases entries with
  | nil => rintro c ⟨⟩; rfl
  | cons entry entries => rintro c ⟨⟩; rfl

/-- The text of a number: how it starts, and that it does not contain what follows it. -/
structure IsNumber (text : List Char) : Prop where
  head : ∃ c rest, text = c :: rest ∧ startsNumber c = true
  chars : ∀ c ∈ text, closesValue c = false

theorem closesValue_of_isDigit {c : Char} (digit : c.isDigit = true) : closesValue c = false := by
  have ne {d : Char} (other : d.isDigit = false) : c ≠ d := by
    rintro rfl
    rw [other] at digit
    cases digit
  simp [closesValue, ne (d := ',') rfl, ne (d := ']') rfl, ne (d := '\x7d') rfl]

theorem isNumber_digits (n : Nat) : IsNumber (Nat.toDigits 10 n) := by
  have digit : ∀ c ∈ Nat.toDigits 10 n, c.isDigit = true :=
    fun c mem => Nat.isDigit_of_mem_toDigits (by decide) (by decide) mem
  refine ⟨?_, fun c mem => closesValue_of_isDigit (digit c mem)⟩
  obtain ⟨c, rest, eq⟩ := List.exists_cons_of_ne_nil (Nat.toDigits_ne_nil (b := 10) (n := n))
  refine ⟨c, rest, eq, ?_⟩
  rw [startsNumber, digit c (eq ▸ List.mem_cons_self)]
  rfl

theorem isNumber_int (n : Int) : IsNumber (toString n).toList := by
  rw [Int.toString_eq_repr, Int.repr_eq_if]
  split
  · rw [Nat.toList_repr]
    exact isNumber_digits _
  · rw [String.toList_append, Nat.toList_repr]
    refine ⟨⟨'-', _, rfl, rfl⟩, ?_⟩
    intro c mem
    rcases List.mem_append.mp mem with sign | digits
    · rw [List.mem_singleton.mp sign]
      rfl
    · exact (isNumber_digits _).chars c digits

/-- A text with a character that is neither a digit nor a sign prints no integer. -/
theorem ne_int_of_mem {text : List Char} {c : Char} (mem : c ∈ text) (digit : c.isDigit = false)
    (sign : c ≠ '-') (n : Int) : text ≠ (toString n).toList := by
  rintro rfl
  have digits (m : Nat) : c ∉ Nat.toDigits 10 m := fun mem => by
    rw [Nat.isDigit_of_mem_toDigits (by decide) (by decide) mem] at digit
    cases digit
  rw [Int.toString_eq_repr, Int.repr_eq_if] at mem
  split at mem
  · rw [Nat.toList_repr] at mem
    exact digits _ mem
  · rw [String.toList_append, Nat.toList_repr] at mem
    rcases List.mem_append.mp mem with isSign | isDigit
    · exact sign (List.mem_singleton.mp isSign)
    · exact digits _ isDigit

theorem isNumber_float [Floating F] (x : F) : IsNumber (Floating.repr x) :=
  ⟨Floating.repr_head x, Floating.repr_chars x⟩

/-- A number is the text up to what follows it. -/
theorem IsNumber.inj {s t rest after : List Char} (left : IsNumber s) (right : IsNumber t)
    (closes : Closes rest) (closes' : Closes after) (eq : s ++ rest = t ++ after) :
    s = t ∧ rest = after := by
  have spans {u v : List Char} (number : IsNumber u) (closed : Closes v) :
      (u ++ v).takeWhile (fun c => !closesValue c) = u := by
    rw [List.takeWhile_append_of_pos fun c mem => by rw [number.chars c mem]; rfl]
    cases v with
    | nil => exact List.append_nil u
    | cons c v => rw [List.takeWhile_cons, closed c rfl]; exact List.append_nil u
  have same : s = t := by rw [← spans left closes, eq, spans right closes']
  subst same
  exact ⟨rfl, List.append_cancel_left eq⟩

/-- The kinds of values that the first character of their text tells apart. -/
inductive Shape
  | null | true_ | false_ | number | str | list | dict
  deriving DecidableEq

def shape : Json F τ → Shape
  | .null => .null
  | .bool true => .true_
  | .bool false => .false_
  | .int _ => .number
  | .float _ => .number
  | .str _ => .str
  | .list _ => .list
  | .dict _ => .dict

def shapeOf (c : Char) : Shape :=
  if c = 'n' then .null
  else if c = 't' then .true_
  else if c = 'f' then .false_
  else if c = '"' then .str
  else if c = '[' then .list
  else if c = '\x7b' then .dict
  else .number

theorem shapeOf_number {c : Char} (starts : startsNumber c = true) : shapeOf c = .number := by
  have ne {d : Char} (other : startsNumber d = false) : c ≠ d := by
    rintro rfl
    rw [other] at starts
    cases starts
  simp [shapeOf, ne (d := 'n') rfl, ne (d := 't') rfl, ne (d := 'f') rfl, ne (d := '"') rfl,
    ne (d := '[') rfl, ne (d := '\x7b') rfl]

theorem dumps_head [Floating F] [Textual τ] (v : Json F τ) :
    ∃ c rest, dumps v = c :: rest ∧ shapeOf c = v.shape ∧ closesValue c = false := by
  have number {text : List Char} (isNumber : IsNumber text) :
      ∃ c rest, text = c :: rest ∧ shapeOf c = .number ∧ closesValue c = false := by
    obtain ⟨c, rest, eq, starts⟩ := isNumber.head
    exact ⟨c, rest, eq, shapeOf_number starts, isNumber.chars c (eq ▸ List.mem_cons_self)⟩
  cases v with
  | null => exact ⟨_, _, rfl, rfl, rfl⟩
  | bool b => cases b with
    | true => exact ⟨_, _, rfl, rfl, rfl⟩
    | false => exact ⟨_, _, rfl, rfl, rfl⟩
  | int n => exact number (isNumber_int n)
  | float x => exact number (isNumber_float x)
  | str s =>
      obtain ⟨rest, isText⟩ := Textual.quoted_head s
      exact ⟨_, rest, isText, rfl, rfl⟩
  | list items => cases items with
    | nil => exact ⟨_, _, rfl, rfl, rfl⟩
    | cons item items => exact ⟨_, _, rfl, rfl, rfl⟩
  | dict entries => cases entries with
    | nil => exact ⟨_, _, rfl, rfl, rfl⟩
    | cons entry entries => exact ⟨_, _, rfl, rfl, rfl⟩

theorem shape_eq [Floating F] [Textual τ] {v w : Json F τ} {rest after : List Char}
    (eq : dumps v ++ rest = dumps w ++ after) : v.shape = w.shape := by
  obtain ⟨c, s, isText, shape, -⟩ := dumps_head v
  obtain ⟨d, t, isText', shape', -⟩ := dumps_head w
  rw [isText, isText'] at eq
  rw [← shape, ← shape', (List.cons.inj eq).1]

/-- No value starts with what closes a list. -/
theorem dumps_ne_closer [Floating F] [Textual τ] (v : Json F τ) (rest after : List Char) :
    dumps v ++ rest ≠ ']' :: after := by
  obtain ⟨c, s, isText, -, inside⟩ := dumps_head v
  rw [isText]
  rintro eq
  rw [(List.cons.inj eq).1] at inside
  cases inside

variable [Floating F] [Textual τ]

theorem dumps_number_inj {rest after : List Char} {v w : Json F τ} (number : v.shape = .number)
    (number' : w.shape = .number) (closes : Closes rest) (closes' : Closes after) (eq : dumps v ++ rest = dumps w ++ after) :
    v = w ∧ rest = after := by
  have isNumber {u : Json F τ} (number : u.shape = .number) : IsNumber (dumps u) := by
    cases u with
    | int n => exact isNumber_int n
    | float x => exact isNumber_float x
    | bool b => cases b <;> cases number
    | _ => cases number
  obtain ⟨text, same⟩ := (isNumber number).inj (isNumber number') closes closes' eq
  refine ⟨?_, same⟩
  cases v with
  | int n =>
      cases w with
      | int m => rw [Int.repr_injective (String.ext text)]
      | float y => exact absurd text.symm (Floating.repr_ne_int y n)
      | bool b => cases b <;> cases number'
      | _ => cases number'
  | float x =>
      cases w with
      | int m => exact absurd text (Floating.repr_ne_int x m)
      | float y => rw [Floating.repr_inj x y text]
      | bool b => cases b <;> cases number'
      | _ => cases number'
  | bool b => cases b <;> cases number
  | _ => cases number

mutual

/-- The text of a value determines its literals, whatever text follows it. -/
theorem literals_append : (v w : Json F τ) → (rest after : List Char) → Closes rest →
    Closes after → dumps v ++ rest = dumps w ++ after → v.literals = w.literals ∧ rest = after
  | .null, w, rest, after, _, _, eq => by
      have kind := shape_eq eq
      cases w with
      | null => exact ⟨rfl, List.append_cancel_left eq⟩
      | bool b => cases b <;> cases kind
      | _ => cases kind
  | .bool b, w, rest, after, _, _, eq => by
      have kind := shape_eq eq
      cases w with
      | bool b' =>
          have same : b = b' := by cases b <;> cases b' <;> first | rfl | cases kind
          subst same
          exact ⟨rfl, List.append_cancel_left eq⟩
      | _ => cases b <;> cases kind
  | .int n, w, rest, after, closes, closes', eq => by
      obtain ⟨rfl, same⟩ := dumps_number_inj rfl (shape_eq eq).symm closes closes' eq
      exact ⟨rfl, same⟩
  | .float x, w, rest, after, closes, closes', eq => by
      obtain ⟨rfl, same⟩ := dumps_number_inj rfl (shape_eq eq).symm closes closes' eq
      exact ⟨rfl, same⟩
  | .str s, w, rest, after, _, _, eq => by
      have kind := shape_eq eq
      cases w with
      | str t =>
          obtain ⟨literal, same⟩ := Textual.quoted_append eq
          exact ⟨congrArg (fun text => Json.str (Literal.mk text)) literal, same⟩
      | bool b => cases b <;> cases kind
      | _ => cases kind
  | .list [], w, rest, after, _, _, eq => by
      have kind := shape_eq eq
      cases w with
      | list items' =>
          cases items' with
          | nil => exact ⟨rfl, List.append_cancel_left eq⟩
          | cons item' items' =>
              rw [dumps, dumps, List.cons_append, List.append_assoc] at eq
              exact absurd (List.cons.inj eq).2.symm (dumps_ne_closer item' _ _)
      | bool b => cases b <;> cases kind
      | _ => cases kind
  | .list (item :: items), w, rest, after, _, _, eq => by
      have kind := shape_eq eq
      cases w with
      | list items' =>
          cases items' with
          | nil =>
              rw [dumps, dumps, List.cons_append, List.append_assoc] at eq
              exact absurd (List.cons.inj eq).2 (dumps_ne_closer item _ _)
          | cons item' items' =>
              rw [dumps, dumps, List.cons_append, List.cons_append, List.append_assoc,
                List.append_assoc] at eq
              obtain ⟨first, tail⟩ := literals_append item item' _ _ (closes_dumpsItems _ _)
                (closes_dumpsItems _ _) (List.cons.inj eq).2
              obtain ⟨later, same⟩ := literalsItems_append items items' _ _ tail
              refine ⟨?_, same⟩
              rw [literals, literals, literalsItems, literalsItems, first, later]
      | bool b => cases b <;> cases kind
      | _ => cases kind
  | .dict [], w, rest, after, _, _, eq => by
      have kind := shape_eq eq
      cases w with
      | dict entries' =>
          cases entries' with
          | nil => exact ⟨rfl, List.append_cancel_left eq⟩
          | cons entry' entries' => cases (List.cons.inj (List.cons.inj eq).2).1
      | bool b => cases b <;> cases kind
      | _ => cases kind
  | .dict ((key, value) :: entries), w, rest, after, _, _, eq => by
      have kind := shape_eq eq
      cases w with
      | dict entries' =>
          cases entries' with
          | nil => cases (List.cons.inj (List.cons.inj eq).2).1
          | cons entry' entries' =>
              rcases entry' with ⟨key', value'⟩
              rw [dumps, dumps, List.cons_append, List.cons_append, List.append_assoc,
                List.append_assoc] at eq
              obtain ⟨rfl, tail⟩ := quote_inj (List.cons.inj eq).2
              rw [List.cons_append, List.cons_append, List.append_assoc, List.append_assoc] at tail
              obtain ⟨first, later⟩ := literals_append value value' _ _ (closes_dumpsEntries _ _)
                (closes_dumpsEntries _ _) (List.cons.inj tail).2
              obtain ⟨others, same⟩ := literalsEntries_append entries entries' _ _ later
              refine ⟨?_, same⟩
              rw [literals, literals, literalsEntries, literalsEntries, first, others]
      | bool b => cases b <;> cases kind
      | _ => cases kind

theorem literalsItems_append : (items items' : List (Json F τ)) → (rest after : List Char) →
    dumpsItems items ++ rest = dumpsItems items' ++ after →
    literalsItems items = literalsItems items' ∧ rest = after
  | [], items', rest, after, eq => by
      cases items' with
      | nil => exact ⟨rfl, (List.cons.inj eq).2⟩
      | cons item' items' => cases (List.cons.inj eq).1
  | item :: items, items', rest, after, eq => by
      cases items' with
      | nil => cases (List.cons.inj eq).1
      | cons item' items' =>
          rw [dumpsItems, dumpsItems, List.cons_append, List.cons_append, List.append_assoc,
            List.append_assoc] at eq
          obtain ⟨first, tail⟩ := literals_append item item' _ _ (closes_dumpsItems _ _)
            (closes_dumpsItems _ _) (List.cons.inj eq).2
          obtain ⟨later, same⟩ := literalsItems_append items items' _ _ tail
          refine ⟨?_, same⟩
          rw [literalsItems, literalsItems, first, later]

theorem literalsEntries_append : (entries entries' : List (String × Json F τ)) →
    (rest after : List Char) → dumpsEntries entries ++ rest = dumpsEntries entries' ++ after →
    literalsEntries entries = literalsEntries entries' ∧ rest = after
  | [], entries', rest, after, eq => by
      cases entries' with
      | nil => exact ⟨rfl, (List.cons.inj eq).2⟩
      | cons entry' entries' => cases (List.cons.inj eq).1
  | (key, value) :: entries, entries', rest, after, eq => by
      cases entries' with
      | nil => cases (List.cons.inj eq).1
      | cons entry' entries' =>
          rcases entry' with ⟨key', value'⟩
          rw [dumpsEntries, dumpsEntries, List.cons_append, List.cons_append, List.append_assoc,
            List.append_assoc] at eq
          obtain ⟨rfl, tail⟩ := quote_inj (List.cons.inj eq).2
          rw [List.cons_append, List.cons_append, List.append_assoc, List.append_assoc] at tail
          obtain ⟨first, later⟩ := literals_append value value' _ _ (closes_dumpsEntries _ _)
            (closes_dumpsEntries _ _) (List.cons.inj tail).2
          obtain ⟨others, same⟩ := literalsEntries_append entries entries' _ _ later
          refine ⟨?_, same⟩
          rw [literalsEntries, literalsEntries, first, others]

end

theorem literals_eq {v w : Json F τ} (eq : dumps v = dumps w) : v.literals = w.literals := by
  have closed : Closes [] := fun _ none => by cases none
  refine (literals_append v w [] [] closed closed ?_).1
  rw [List.append_nil, List.append_nil, eq]

theorem ofText_inj_of_dumps {s t : String}
    (eq : dumps (.str (Textual.ofText s) : Json F τ) = dumps (.str (Textual.ofText t) : Json F τ)) :
    s = t :=
  ofText_inj_of_quoted eq

/-- Values have one text if and only if they have the same literals. -/
theorem dumps_eq_iff {v w : Json F τ} : dumps v = dumps w ↔ v.literals = w.literals := by
  refine ⟨literals_eq, fun same => ?_⟩
  rw [← dumps_literals v, same, dumps_literals]

end Values

/-! ## Normal forms -/

/-- `sorted(d.items())` by key -/
def sortEntries {α : Type} (entries : List (String × α)) : List (String × α) :=
  entries.insertionSort fun a b => a.1 ≤ b.1

mutual

/-- Every dictionary sorted by key, and `f` applied to every string value. -/
def normalize (f : τ → τ) : Json F τ → Json F τ
  | .null => .null
  | .bool b => .bool b
  | .int n => .int n
  | .float x => .float x
  | .str s => .str (f s)
  | .list items => .list (normalizeItems f items)
  | .dict entries => .dict (sortEntries (normalizeEntries f entries))

def normalizeItems (f : τ → τ) : List (Json F τ) → List (Json F τ)
  | [] => []
  | item :: items => normalize f item :: normalizeItems f items

def normalizeEntries (f : τ → τ) : List (String × Json F τ) → List (String × Json F τ)
  | [] => []
  | (key, value) :: entries => (key, normalize f value) :: normalizeEntries f entries

end

mutual

/-- Whether every floating-point number of the value is finite. -/
def isFinite [Floating F] : Json F τ → Bool
  | .float x => Floating.isFinite x
  | .list items => isFiniteItems items
  | .dict entries => isFiniteEntries entries
  | _ => true

def isFiniteItems [Floating F] : List (Json F τ) → Bool
  | [] => true
  | item :: items => isFinite item && isFiniteItems items

def isFiniteEntries [Floating F] : List (String × Json F τ) → Bool
  | [] => true
  | (_, value) :: entries => isFinite value && isFiniteEntries entries

end

mutual

/-- `==` on values whose dictionaries are sorted by key. -/
def looseEq [Floating F] [DecidableEq τ] : Json F τ → Json F τ → Bool
  | .null, .null => true
  | .str s, .str t => s = t
  | .list items, .list items' => looseEqItems items items'
  | .dict entries, .dict entries' => looseEqEntries entries entries'
  | .float x, .float y => Floating.eq x y
  | .float x, .int n => Floating.eqInt x n
  | .float x, .bool b => Floating.eqInt x b.toInt
  | .int n, .float x => Floating.eqInt x n
  | .bool b, .float x => Floating.eqInt x b.toInt
  | .int n, .int m => n = m
  | .int n, .bool b => n = b.toInt
  | .bool b, .int n => n = b.toInt
  | .bool b, .bool b' => b = b'
  | _, _ => false

def looseEqItems [Floating F] [DecidableEq τ] : List (Json F τ) → List (Json F τ) → Bool
  | [], [] => true
  | item :: items, item' :: items' => looseEq item item' && looseEqItems items items'
  | _, _ => false

def looseEqEntries [Floating F] [DecidableEq τ] : List (String × Json F τ) → List (String × Json F τ) → Bool
  | [], [] => true
  | (key, value) :: entries, (key', value') :: entries' =>
      key = key' && looseEq value value' && looseEqEntries entries entries'
  | _, _ => false

end

/-- `v == w` -/
def pyEq [Floating F] [DecidableEq τ] (v w : Json F τ) : Bool := looseEq (v.normalize id) (w.normalize id)

section Normal

variable {f g : τ → τ}

theorem normalizeItems_eq_map (items : List (Json F τ)) :
    normalizeItems f items = items.map (normalize f) := by
  induction items with
  | nil => rfl
  | cons item items ih => rw [normalizeItems, ih, List.map_cons]

theorem normalizeEntries_eq_map (entries : List (String × Json F τ)) :
    normalizeEntries f entries = entries.map fun entry => (entry.1, entry.2.normalize f) := by
  induction entries with
  | nil => rfl
  | cons entry entries ih => rw [normalizeEntries, ih, List.map_cons]

theorem mem_normalize_dict {entries : List (String × Json F τ)} {key : String} {u : Json F τ} :
    (key, u) ∈ sortEntries (normalizeEntries f entries) ↔
      ∃ v, (key, v) ∈ entries ∧ u = v.normalize f := by
  rw [sortEntries, List.mem_insertionSort, normalizeEntries_eq_map, List.mem_map]
  constructor
  · rintro ⟨⟨k, v⟩, mem, eq⟩
    cases eq
    exact ⟨v, mem, rfl⟩
  · rintro ⟨v, mem, rfl⟩
    exact ⟨(key, v), mem, rfl⟩

/-- Dictionaries with one normal form have the same keys, with values that have
one normal form. -/
theorem mem_of_normalize_dict {entries entries' : List (String × Json F τ)}
    (eq : (dict entries).normalize f = (dict entries').normalize g) {key : String} {v : Json F τ}
    (mem : (key, v) ∈ entries) : ∃ v', (key, v') ∈ entries' ∧ v.normalize f = v'.normalize g := by
  have same : sortEntries (normalizeEntries f entries) = sortEntries (normalizeEntries g entries') :=
    dict.inj eq
  have there : (key, v.normalize f) ∈ sortEntries (normalizeEntries f entries) :=
    mem_normalize_dict.mpr ⟨v, mem, rfl⟩
  rw [same] at there
  exact mem_normalize_dict.mp there

/-- Dictionaries whose normal forms have one text have the same keys, with values
whose normal forms have one text. -/
theorem dumps_entry [Floating F] [Textual τ] {entries entries' : List (String × Json F τ)}
    (eq : dumps ((dict entries).normalize f) = dumps ((dict entries').normalize g)) {key : String}
    {v : Json F τ} (mem : (key, v) ∈ entries) :
    ∃ v', (key, v') ∈ entries' ∧ dumps (v.normalize f) = dumps (v'.normalize g) := by
  have same := dict.inj (literals_eq eq)
  rw [literalsEntries_eq_map, literalsEntries_eq_map] at same
  have there := List.mem_map_of_mem (f := fun entry => (entry.1, entry.2.literals))
    (mem_normalize_dict (f := f).mpr ⟨v, mem, rfl⟩)
  rw [same] at there
  obtain ⟨⟨other, u⟩, mem', isOther⟩ := List.mem_map.mp there
  obtain ⟨rfl, alike⟩ := Prod.mk.inj isOther
  obtain ⟨v', inEntries, rfl⟩ := mem_normalize_dict.mp mem'
  exact ⟨v', inEntries, dumps_eq_iff.mpr alike.symm⟩

/-- Dictionaries whose normal forms have one text have, under each key, values whose
normal forms have one text. -/
theorem dumps_get [Floating F] [Textual τ] {entries entries' : List (String × Json F τ)}
    (eq : dumps ((dict entries).normalize f) = dumps ((dict entries').normalize f))
    (distinct : (entries.map (·.1)).Nodup) (distinct' : (entries'.map (·.1)).Nodup) (key : String) :
    dumps ((get entries key).normalize f) = dumps ((get entries' key).normalize f) := by
  unfold get
  cases found : entries.lookup key with
  | some v =>
      obtain ⟨v', mem, same⟩ := dumps_entry eq ((lookup_eq_some_iff distinct).mp found)
      rw [(lookup_eq_some_iff distinct').mpr mem]
      exact same
  | none =>
      cases found' : entries'.lookup key with
      | none => rfl
      | some v' =>
          obtain ⟨v, mem, -⟩ := dumps_entry eq.symm ((lookup_eq_some_iff distinct').mp found')
          rw [(lookup_eq_some_iff distinct).mpr mem] at found
          cases found

/-- Lists whose normal forms have one text have, one by one, items whose normal forms
have one text. -/
theorem dumps_list_iff [Floating F] [Textual τ] {items items' : List (Json F τ)} :
    dumps ((list items).normalize f) = dumps ((list items').normalize f) ↔
      List.Forall₂ (fun v w => dumps (v.normalize f) = dumps (w.normalize f)) items items' := by
  simp only [dumps_eq_iff, normalize, literals, normalizeItems_eq_map, literalsItems_eq_map,
    list.injEq]
  rw [← List.forall₂_eq_eq_eq]
  simp only [List.forall₂_map_left_iff, List.forall₂_map_right_iff]

/-- The fields of a record with the texts of their normal forms. -/
def fieldTexts [Floating F] [Quoted τ] (f : τ → τ) (entries : List (String × Json F τ)) :
    List (String × List Char) :=
  entries.map fun entry => (entry.1, dumps (entry.2.normalize f))

theorem literals_normalize_dict [Quoted τ] (entries : List (String × Json F τ)) :
    literals ((dict entries).normalize f) =
      .dict (sortEntries (entries.map fun entry => (entry.1, literals (entry.2.normalize f)))) := by
  have commutes := List.map_insertionSort (r := fun a b : String × Json F τ => a.1 ≤ b.1)
    (s := fun a b : String × Json F Literal => a.1 ≤ b.1)
    (fun entry => (entry.1, literals entry.2)) (normalizeEntries f entries) fun _ _ _ _ => Iff.rfl
  rw [normalize, literals, literalsEntries_eq_map]
  unfold sortEntries
  rw [commutes, normalizeEntries_eq_map, List.map_map]
  rfl

theorem dumps_of_fieldTexts [Floating F] [Textual τ] {entries entries' : List (String × Json F τ)}
    (agree : fieldTexts f entries = fieldTexts f entries') :
    dumps ((dict entries).normalize f) = dumps ((dict entries').normalize f) := by
  have alike : entries.map (fun entry => (entry.1, literals (entry.2.normalize f))) =
      entries'.map fun entry => (entry.1, literals (entry.2.normalize f)) := by
    unfold fieldTexts at agree
    rw [← List.forall₂_eq_eq_eq, List.forall₂_map_left_iff, List.forall₂_map_right_iff] at agree ⊢
    refine agree.imp fun entry entry' same => ?_
    obtain ⟨isKey, isText⟩ := Prod.mk.inj same
    rw [isKey, literals_eq isText]
  rw [dumps_eq_iff, literals_normalize_dict, literals_normalize_dict, alike]

/-- Records with the same fields have one canonical text if and only if their values do,
field by field. -/
theorem dumps_record_eq_iff [Floating F] [Textual τ] {entries entries' : List (String × Json F τ)}
    (keys : entries.map (·.1) = entries'.map (·.1)) (distinct : (entries.map (·.1)).Nodup) :
    dumps ((dict entries).normalize f) = dumps ((dict entries').normalize f) ↔
      fieldTexts f entries = fieldTexts f entries' := by
  constructor
  · intro same
    have agree : ∀ key v v', (key, v) ∈ entries → (key, v') ∈ entries' →
        dumps (v.normalize f) = dumps (v'.normalize f) := by
      intro key v v' mem mem'
      obtain ⟨u, there, isU⟩ := dumps_entry same mem
      have nodup' : (entries'.map (·.1)).Nodup := keys ▸ distinct
      have isV := (lookup_eq_some_iff nodup').mpr mem'
      rw [(lookup_eq_some_iff nodup').mpr there] at isV
      rw [isU, Option.some.inj isV]
    clear same distinct
    unfold fieldTexts
    induction entries generalizing entries' with
    | nil =>
        cases entries' with
        | nil => rfl
        | cons entry' rest' => simp at keys
    | cons entry rest ih =>
        cases entries' with
        | nil => simp at keys
        | cons entry' rest' =>
            obtain ⟨key, v⟩ := entry
            obtain ⟨key', v'⟩ := entry'
            obtain ⟨isKey, later⟩ := List.cons.inj keys
            obtain rfl : key = key' := isKey
            have first := agree key v v' List.mem_cons_self List.mem_cons_self
            have others := ih later fun other u u' mem mem' =>
              agree other u u' (List.mem_cons_of_mem _ mem) (List.mem_cons_of_mem _ mem')
            rw [List.map_cons, List.map_cons, others, first]
  · exact dumps_of_fieldTexts

theorem keys_sortEntries (entries : List (String × Json F τ)) :
    ((sortEntries (normalizeEntries f entries)).map (·.1)).Perm (entries.map (·.1)) := by
  refine ((List.perm_insertionSort _ _).map _).trans ?_
  rw [normalizeEntries_eq_map, List.map_map]
  exact .of_eq rfl

end Normal

section Finite

variable [Floating F]

theorem isFiniteEntries_iff {entries : List (String × Json F τ)} :
    isFiniteEntries entries = true ↔ ∀ entry ∈ entries, entry.2.isFinite = true := by
  induction entries with
  | nil => simp [isFiniteEntries]
  | cons entry entries ih => simp [isFiniteEntries, ih]

mutual

theorem isFinite_normalize {f : τ → τ} : (v : Json F τ) → v.isFinite = true →
    (v.normalize f).isFinite = true
  | .null, _ => rfl
  | .bool _, _ => rfl
  | .int _, _ => rfl
  | .float _, finite => finite
  | .str _, _ => rfl
  | .list items, finite => isFinite_normalizeItems items finite
  | .dict entries, finite => by
      have all := isFiniteEntries_iff.mp (isFinite_normalizeEntries (f := f) entries finite)
      refine isFiniteEntries_iff.mpr fun entry mem => all entry ?_
      exact (List.mem_insertionSort _).mp mem

theorem isFinite_normalizeItems {f : τ → τ} : (items : List (Json F τ)) →
    isFiniteItems items = true → isFiniteItems (normalizeItems f items) = true
  | [], _ => rfl
  | item :: items, finite => by
      rw [isFiniteItems, Bool.and_eq_true] at finite
      rw [normalizeItems, isFiniteItems, isFinite_normalize item finite.1,
        isFinite_normalizeItems items finite.2]
      rfl

theorem isFinite_normalizeEntries {f : τ → τ} : (entries : List (String × Json F τ)) →
    isFiniteEntries entries = true → isFiniteEntries (normalizeEntries f entries) = true
  | [], _ => rfl
  | (_, value) :: entries, finite => by
      rw [isFiniteEntries, Bool.and_eq_true] at finite
      rw [normalizeEntries, isFiniteEntries, isFinite_normalize value finite.1,
        isFinite_normalizeEntries entries finite.2]
      rfl

end

end Finite

section Equality

variable [Floating F] [DecidableEq τ]

theorem looseEqEntries_keys : {entries entries' : List (String × Json F τ)} →
    looseEqEntries entries entries' = true → entries.map (·.1) = entries'.map (·.1)
  | [], [], _ => rfl
  | [], _ :: _, eq => by cases eq
  | _ :: _, [], eq => by cases eq
  | (key, value) :: entries, (key', value') :: entries', eq => by
      rw [looseEqEntries, Bool.and_eq_true, Bool.and_eq_true] at eq
      rw [List.map_cons, List.map_cons, of_decide_eq_true eq.1.1, looseEqEntries_keys eq.2]

theorem looseEqEntries_mem : {entries entries' : List (String × Json F τ)} →
    looseEqEntries entries entries' = true → ∀ {key v}, (key, v) ∈ entries' →
    ∃ u, (key, u) ∈ entries ∧ looseEq u v = true
  | [], [], _, _, _, mem => by cases mem
  | [], _ :: _, eq, _, _, _ => by cases eq
  | _ :: _, [], eq, _, _, _ => by cases eq
  | (key, value) :: entries, (key', value') :: entries', eq, k, v, mem => by
      rw [looseEqEntries, Bool.and_eq_true, Bool.and_eq_true] at eq
      rcases List.mem_cons.mp mem with head | tail
      · obtain ⟨rfl, rfl⟩ := Prod.mk.inj head
        exact ⟨value, by rw [of_decide_eq_true eq.1.1]; exact List.mem_cons_self, eq.1.2⟩
      · obtain ⟨u, found, same⟩ := looseEqEntries_mem eq.2 tail
        exact ⟨u, List.mem_cons_of_mem _ found, same⟩

theorem keys_of_pyEq {entries expected : List (String × Json F τ)}
    (eq : pyEq (.dict entries) (.dict expected) = true) :
    (entries.map (·.1)).Perm (expected.map (·.1)) := by
  have keys := looseEqEntries_keys (show looseEqEntries (sortEntries (normalizeEntries id entries))
    (sortEntries (normalizeEntries id expected)) = true from eq)
  exact (keys_sortEntries (f := id) entries).symm.trans (keys ▸ keys_sortEntries (f := id) expected)

theorem lookup_eq_none_of_pyEq {entries expected : List (String × Json F τ)}
    (eq : pyEq (.dict entries) (.dict expected) = true) {key : String}
    (absent : key ∉ expected.map (·.1)) : entries.lookup key = none := by
  rw [List.lookup_eq_none_iff]
  intro entry mem
  have there := (keys_of_pyEq eq).mem_iff.mp (List.mem_map_of_mem (f := (·.1)) mem)
  exact bne_iff_ne.mpr fun same => absent (same ▸ there)

/-- A dictionary that is equal to one with distinct keys has an equal value under
each of its keys. -/
theorem lookup_of_pyEq {entries expected : List (String × Json F τ)}
    (eq : pyEq (.dict entries) (.dict expected) = true)
    (distinct : (expected.map (·.1)).Nodup) {key : String} {v : Json F τ}
    (found : expected.lookup key = some v) :
    ∃ u, entries.lookup key = some u ∧ pyEq u v = true := by
  have keys := keys_of_pyEq eq
  have there := mem_normalize_dict (f := id) |>.mpr ⟨v, (lookup_eq_some_iff distinct).mp found, rfl⟩
  obtain ⟨u', inSorted, same⟩ := looseEqEntries_mem (show looseEqEntries
    (sortEntries (normalizeEntries id entries)) (sortEntries (normalizeEntries id expected)) = true
    from eq) there
  obtain ⟨u, mem, rfl⟩ := mem_normalize_dict.mp inSorted
  exact ⟨u, (lookup_eq_some_iff (keys.nodup_iff.mpr distinct)).mpr mem, same⟩

theorem eq_str_of_pyEq {u : Json F τ} {s : τ} (eq : pyEq u (.str s) = true) : u = .str s := by
  cases u with
  | str t => rw [of_decide_eq_true (show decide (t = s) = true from eq)]
  | _ => cases eq

theorem eq_null_of_pyEq {u : Json F τ} (eq : pyEq u .null = true) : u = .null := by
  cases u with
  | null => rfl
  | _ => cases eq

/-! ### A finite value equals itself -/

mutual

theorem looseEq_self : (v : Json F τ) → v.isFinite = true → looseEq v v = true
  | .null, _ => rfl
  | .bool _, _ => decide_eq_true rfl
  | .int _, _ => decide_eq_true rfl
  | .float x, finite => Floating.eq_self x finite
  | .str _, _ => decide_eq_true rfl
  | .list items, finite => looseEqItems_self items finite
  | .dict entries, finite => looseEqEntries_self entries finite

theorem looseEqItems_self : (items : List (Json F τ)) → isFiniteItems items = true →
    looseEqItems items items = true
  | [], _ => rfl
  | item :: items, finite => by
      rw [isFiniteItems, Bool.and_eq_true] at finite
      rw [looseEqItems, looseEq_self item finite.1, looseEqItems_self items finite.2]
      rfl

theorem looseEqEntries_self : (entries : List (String × Json F τ)) → isFiniteEntries entries = true →
    looseEqEntries entries entries = true
  | [], _ => rfl
  | (_, value) :: entries, finite => by
      rw [isFiniteEntries, Bool.and_eq_true] at finite
      rw [looseEqEntries, looseEq_self value finite.1, looseEqEntries_self entries finite.2]
      simp

end

theorem pyEq_self {v : Json F τ} (finite : v.isFinite = true) : pyEq v v = true :=
  looseEq_self _ (isFinite_normalize v finite)

end Equality

end Json

end Dingdongditch.Text
