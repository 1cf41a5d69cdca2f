import Dingdongditch.Text.UrlParts

/-!
# Percent-encoded text

`unquote` and `parse_qsl` of `urllib.parse`, with the UTF-8 decoder that puts a
replacement character in place of what is not UTF-8.
-/

namespace Dingdongditch.Text

/-! ## UTF-8 -/

/-- A sequence of bytes that is not complete: the value so far, the number of bytes that
are missing, and the bounds of the next one. -/
structure Pending where
  value : Nat
  left : Nat
  lo : Nat
  hi : Nat
  deriving DecidableEq, Repr

def replacement : Char := Char.ofNat 0xFFFD

/-- The first byte of a sequence. -/
def startByte (b : Nat) : List Char × Option Pending :=
  if b < 0x80 then ([Char.ofNat b], none)
  else if 0xC2 ≤ b ∧ b ≤ 0xDF then ([], some ⟨b - 0xC0, 1, 0x80, 0xBF⟩)
  else if b = 0xE0 then ([], some ⟨0, 2, 0xA0, 0xBF⟩)
  else if b = 0xED then ([], some ⟨0xD, 2, 0x80, 0x9F⟩)
  else if 0xE1 ≤ b ∧ b ≤ 0xEF then ([], some ⟨b - 0xE0, 2, 0x80, 0xBF⟩)
  else if b = 0xF0 then ([], some ⟨0, 3, 0x90, 0xBF⟩)
  else if 0xF1 ≤ b ∧ b ≤ 0xF3 then ([], some ⟨b - 0xF0, 3, 0x80, 0xBF⟩)
  else if b = 0xF4 then ([], some ⟨4, 3, 0x80, 0x8F⟩)
  else ([replacement], none)

/-- One byte after a sequence that may be incomplete. -/
def decodeByte : Option Pending → Nat → List Char × Option Pending
  | none, b => startByte b
  | some pending, b =>
      if pending.lo ≤ b ∧ b ≤ pending.hi then
        let value := pending.value * 64 + (b - 0x80)
        if pending.left = 1 then ([Char.ofNat value], none)
        else ([], some ⟨value, pending.left - 1, 0x80, 0xBF⟩)
      else (replacement :: (startByte b).1, (startByte b).2)

def decodeFrom : Option Pending → List Nat → List Char
  | none, [] => []
  | some _, [] => [replacement]
  | pending, b :: bytes =>
      (decodeByte pending b).1 ++ decodeFrom (decodeByte pending b).2 bytes

/-- `bytes.decode("utf-8", "replace")` -/
def decodeReplace (bytes : List Nat) : List Char := decodeFrom none bytes

/-! ## Percent encoding -/

def hexValue (c : Char) : Option Nat :=
  if c.isDigit then some (c.toNat - '0'.toNat)
  else if 'a'.toNat ≤ c.toNat ∧ c.toNat ≤ 'f'.toNat then some (c.toNat - 'a'.toNat + 10)
  else if 'A'.toNat ≤ c.toNat ∧ c.toNat ≤ 'F'.toNat then some (c.toNat - 'A'.toNat + 10)
  else none

/-- `unquote_to_bytes` of ASCII text. -/
def unquoteToBytes : List Char → List Nat
  | '%' :: a :: b :: rest =>
      match hexValue a, hexValue b with
      | some high, some low => (high * 16 + low) :: unquoteToBytes rest
      | _, _ => '%'.toNat :: unquoteToBytes (a :: b :: rest)
  | c :: rest => c.toNat :: unquoteToBytes rest
  | [] => []

/-- `unquote`: each run of ASCII characters is decoded, other text is kept. -/
def unquote (s : List Char) : List Char :=
  if '%' ∉ s then s
  else
    (s.splitBy fun a b => isAscii a == isAscii b).flatMap fun run =>
      if run.all isAscii then decodeReplace (unquoteToBytes run) else run

/-- `unquote(s.replace("+", " "))` -/
def unquotePlus (s : List Char) : List Char :=
  unquote (s.map fun c => if c = '+' then ' ' else c)

/-- `parse_qsl(qs, keep_blank_values=True)` -/
def parseQsl (qs : List Char) : List (List Char × List Char) :=
  ((qs.splitOn '&').filter (· ≠ [])).map fun nameValue =>
    (unquotePlus (cut '=' nameValue).1, unquotePlus (cut '=' nameValue).2)

example : unquote "a%2Fb%C3%A9%C3/%zz".toList = "a/bé\uFFFD/%zz".toList := by decide +kernel

example : parseQsl "a=1&&b&c=%20+=".toList =
    [("a".toList, "1".toList), ("b".toList, []), ("c".toList, "  =".toList)] := by
  decide +kernel

end Dingdongditch.Text
