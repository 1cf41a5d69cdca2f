import Dingdongditch.Text.Surgery

/-!
# Patterns that ignore case

The pieces of the regular expressions with `re.I` that the detectors of secrets
are made of.
-/

namespace Dingdongditch.Text

/-- A character matches a lower-case letter of a pattern with `re.I`, which also
identifies the dotless and dotted i, the long s and the Kelvin sign. -/
def matchesLetter (letter c : Char) : Bool :=
  c.toLower = letter ||
    (letter = 'i' && (c.toNat = 0x130 || c.toNat = 0x131)) ||
    (letter = 's' && c.toNat = 0x17F) ||
    (letter = 'k' && c.toNat = 0x212A)

/-- `[A-Za-z]` with `re.I` -/
def matchesAlpha (c : Char) : Bool := c.isAlpha || ['i', 's', 'k'].any (matchesLetter · c)

/-- `[A-Za-z0-9_-]` with `re.I` -/
def isTokenChar (c : Char) : Bool :=
  c.isAlphanum || c = '_' || c = '-' || ['i', 's', 'k'].any (matchesLetter · c)

/-- The text after a word that it starts with. -/
def afterWord : List Char → List Char → Option (List Char)
  | [], text => some text
  | _ :: _, [] => none
  | letter :: word, c :: text => if matchesLetter letter c then afterWord word text else none

/-- A word with twelve or more token characters after it. -/
def startsToken (word text : List Char) : Bool :=
  (afterWord word text).any fun rest => 12 ≤ (rest.takeWhile isTokenChar).length

/-- `bearer\s+` -/
def startsBearer (text : List Char) : Bool :=
  (afterWord "bearer".toList text).any fun rest => rest.head?.any isSpace

/-- Search with `\b` before the pattern, which starts with a word character: after
a character that is none, or at the start. -/
def searchAtWord (isWord : Char → Bool) (starts : List Char → Bool) : Option Char → List Char → Bool
  | _, [] => false
  | before, c :: text =>
      (!before.any isWord && starts (c :: text)) || searchAtWord isWord starts (some c) text

end Dingdongditch.Text
