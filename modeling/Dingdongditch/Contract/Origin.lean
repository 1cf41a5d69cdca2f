import Dingdongditch.Text.Url

/-!
# Origins and origin patterns

The canonical origin of a URL, and the host-declared patterns it is matched
against: exact origins and leftmost-label wildcards such as
`https://*.example.test`.  A wildcard is canonicalised by putting a placeholder
label in place of the star, canonicalising the result as an ordinary URL, and
putting the star back in front.
-/

namespace Dingdongditch

open Text

def http : List Char := "http".toList

def https : List Char := "https".toList

/-- The port a network scheme implies. -/
def defaultPort (scheme : List Char) : Nat := if scheme = http then 80 else 443

/-- `"" if port is None or port == default else f":{port}"` -/
def portSuffix (scheme : List Char) (port : Option Nat) : List Char :=
  match port with
  | none => []
  | some n => if n = defaultPort scheme then [] else ':' :: Nat.toDigits 10 n

/-- IPv6 literals keep browser-style brackets. -/
def bracketHost (host : List Char) : List Char :=
  if host.contains ':' && host.head? ≠ some '[' then '[' :: host ++ [']'] else host

/-- `_origin`: the browser origin of an http(s) URL, and the empty string for
everything else. -/
def origin (codec : HostCodec) (value : List Char) : List Char :=
  match urlsplit codec value with
  | none => []
  | some parsed =>
      let scheme := lowerAscii parsed.scheme
      let hostname := parsed.hostname codec
      if (scheme ≠ http ∧ scheme ≠ https) ∨ hostname = [] ∨ parsed.hasCredentials then []
      else
        match codec.idna (rstripBy (· = '.') hostname), parsed.port with
        | some encoded, some port =>
            scheme ++ "://".toList ++ bracketHost (lowerAscii encoded) ++ portSuffix scheme port
        | _, _ => []

/-- The star of a wildcard pattern with the dot after it. -/
def star : List Char := "*.".toList

/-- `_policy_origin_pattern`: the canonical form of an exact origin or of a
leftmost-label wildcard, and the empty string for a rejected value. -/
def policyOriginPattern (codec : HostCodec) (value : List Char) : List Char :=
  if value = [] ∨ value ≠ stripBy isSpace value then []
  else
    match splitFirst star value with
    | none => if rstripBy (· = '/') value = value then origin codec value else []
    | some (head, suffix) =>
        -- `value.count("*.") != 1` fails exactly when a second star follows
        if contains star suffix then []
        else if (head ≠ "http://".toList ∧ head ≠ "https://".toList) ∨ suffix = [] ∨
            suffix.any (· ∈ ['/', '?', '#', '@']) then []
        else
          let normalized := origin codec (head ++ "host.".toList ++ suffix)
          match splitFirst "://".toList normalized with
          | none => []
          | some (scheme, hostPort) =>
              if hostPort.head? = some '[' then []
              else scheme ++ "://".toList ++ star ++ hostPort

/-- One pattern of `_matches_origin`. -/
def matchesPattern (codec : HostCodec) (origin pattern : List Char) : Bool :=
  let candidate := policyOriginPattern codec pattern
  if candidate = [] then false
  else if candidate = origin then true
  else if ("http://".toList ++ star).isPrefixOf candidate ||
      ("https://".toList ++ star).isPrefixOf candidate then
    match splitFirst star candidate with
    | none => false
    | some (scheme, suffix) =>
        let originHost := if scheme.isPrefixOf origin then origin.drop scheme.length else []
        ('.' :: suffix).isSuffixOf originHost && originHost != suffix
  else false

/-- `_matches_origin` -/
def matchesOrigin (codec : HostCodec) (origin : List Char) (patterns : List (List Char)) : Bool :=
  patterns.any (matchesPattern codec origin)

/-! ## Canonical origins -/

/-- A label of a host name. -/
def IsLabel (label : List Char) : Prop :=
  label ≠ [] ∧ label.length ≤ 63 ∧ ∀ c ∈ label, isHostChar c = true ∧ c ≠ '.'

instance (label : List Char) : Decidable (IsLabel label) := by
  unfold IsLabel
  infer_instance

/-- A host name made of dot-separated ASCII labels of at most 63 characters. -/
inductive IsHost : List Char → Prop
  | label {label : List Char} (isLabel : IsLabel label) : IsHost label
  | dot {label rest : List Char} (isLabel : IsLabel label) (isHost : IsHost rest) :
      IsHost (label ++ '.' :: rest)

/-- What the model relies on of Unicode case mapping and of the IDNA codec:
on ASCII text the first is ASCII lower-casing, and the second leaves lower-case
ASCII host names alone. -/
structure Text.HostCodec.Lawful (codec : HostCodec) : Prop where
  lower_ascii : ∀ text, (∀ c ∈ text, isAscii c = true) → codec.lower text = lowerAscii text
  idna_host : ∀ host, IsHost host → lowerAscii host = host → codec.idna host = some host

/-- A network scheme. -/
inductive NetworkScheme
  | http | https
  deriving DecidableEq, Repr

def NetworkScheme.text : NetworkScheme → List Char
  | .http => Dingdongditch.http
  | .https => Dingdongditch.https

/-- The port text of a URL: absent, or decimal digits in the port range. -/
structure PortText where
  digits : Option (List Char)
  digit : ∀ ds ∈ digits, ∀ c ∈ ds, c.isDigit = true
  nonempty : ∀ ds ∈ digits, ds ≠ []
  inRange : ∀ ds ∈ digits, Nat.ofDigitChars 10 ds 0 ≤ 65535

def PortText.value (port : PortText) : Option Nat :=
  port.digits.map fun ds => Nat.ofDigitChars 10 ds 0

def PortText.text (port : PortText) : List Char := portText port.digits

/-- The port a URL with this scheme and port text connects to. -/
def effectivePort (scheme : NetworkScheme) (port : Option Nat) : Nat :=
  port.getD (defaultPort scheme.text)

/-- The text of a canonical origin: the host is unbracketed and free of colons,
or ends with the bracket of an IP literal. -/
structure CanonicalOrigin where
  scheme : NetworkScheme
  host : List Char
  port : Option Nat
  bracketed : ':' ∈ host → host.getLast? = some ']'

def CanonicalOrigin.text (o : CanonicalOrigin) : List Char :=
  o.scheme.text ++ "://".toList ++ o.host ++ portSuffix o.scheme.text o.port

/-- A policy value over an ASCII host: an exact origin `scheme://host[:port]`,
or the wildcard `scheme://*.host[:port]`.  The host may be written with trailing
dots. -/
structure OriginValue where
  wildcard : Bool
  scheme : NetworkScheme
  host : List Char
  dots : Nat
  port : PortText
  isHost : IsHost host

def OriginValue.text (v : OriginValue) : List Char :=
  v.scheme.text ++ "://".toList ++ (if v.wildcard then star else []) ++
    (v.host ++ List.replicate v.dots '.') ++ v.port.text

/-! ## The canonical form of a host and of a port -/

section Host

variable {host : List Char}

theorem IsHost.chars (isHost : IsHost host) : ∀ c ∈ host, isHostChar c = true := by
  induction isHost with
  | label isLabel => exact fun c mem => (isLabel.2.2 c mem).1
  | dot isLabel _ ih =>
      intro c mem
      rcases List.mem_append.mp mem with inLabel | inRest
      · exact (isLabel.2.2 c inLabel).1
      · rcases List.mem_cons.mp inRest with rfl | inRest
        · rfl
        · exact ih c inRest

theorem IsHost.ne_nil (isHost : IsHost host) : host ≠ [] := by
  cases isHost with
  | label isLabel => exact isLabel.1
  | dot isLabel _ => simp

/-- A host name does not end with a dot. -/
theorem IsHost.exists_last (isHost : IsHost host) :
    ∃ init c, host = init ++ [c] ∧ isHostChar c = true ∧ c ≠ '.' := by
  induction isHost with
  | @label label isLabel =>
      obtain ⟨nonempty, -, chars⟩ := isLabel
      rcases List.eq_nil_or_concat label with rfl | ⟨init, c, rfl⟩
      · exact absurd rfl nonempty
      · rw [List.concat_eq_append] at chars ⊢
        exact ⟨init, c, rfl, chars c (by simp)⟩
  | @dot label rest isLabel _ ih =>
      obtain ⟨init, c, rfl, last⟩ := ih
      exact ⟨label ++ '.' :: init, c, by simp, last⟩

theorem isHostChar_toLower {c : Char} (hostChar : isHostChar c = true) :
    isHostChar c.toLower = true ∧ c.toLower.toLower = c.toLower ∧ (c.toLower = '.' → c = '.') := by
  have bound := (isHostChar_toNat hostChar).2
  have table : ∀ n : Fin 128, isHostChar (Char.ofNat n) = true →
      isHostChar (Char.ofNat n).toLower = true ∧
        (Char.ofNat n).toLower.toLower = (Char.ofNat n).toLower ∧
        ((Char.ofNat n).toLower = '.' → Char.ofNat n = '.') := by
    decide
  have row := table ⟨c.toNat, bound⟩
  rw [Char.ofNat_toNat] at row
  exact row hostChar

theorem IsLabel.lower {label : List Char} (isLabel : IsLabel label) :
    IsLabel (lowerAscii label) := by
  obtain ⟨nonempty, short, chars⟩ := isLabel
  refine ⟨by simpa [lowerAscii] using nonempty, by simpa [lowerAscii] using short, ?_⟩
  intro c mem
  obtain ⟨d, inLabel, rfl⟩ := List.mem_map.mp mem
  obtain ⟨hostChar, notDot⟩ := chars d inLabel
  have lowered := isHostChar_toLower hostChar
  exact ⟨lowered.1, fun eq => notDot (lowered.2.2 eq)⟩

theorem IsHost.lower (isHost : IsHost host) : IsHost (lowerAscii host) := by
  induction isHost with
  | label isLabel => exact .label isLabel.lower
  | @dot label rest isLabel _ ih =>
      have split : lowerAscii (label ++ '.' :: rest) = lowerAscii label ++ '.' :: lowerAscii rest := by
        simp [lowerAscii]
      rw [split]
      exact .dot isLabel.lower ih

theorem IsHost.lower_lower (isHost : IsHost host) :
    lowerAscii (lowerAscii host) = lowerAscii host := by
  unfold lowerAscii
  rw [List.map_map]
  exact List.map_congr_left fun c mem => (isHostChar_toLower (isHost.chars c mem)).2.1

theorem isHost_host_dot (isHost : IsHost host) : IsHost ("host.".toList ++ host) :=
  .dot (show IsLabel "host".toList by decide) isHost

end Host

theorem portSuffix_eq (scheme : NetworkScheme) (port : Option Nat) :
    portSuffix scheme.text port =
      if effectivePort scheme port = defaultPort scheme.text then []
      else ':' :: Nat.toDigits 10 (effectivePort scheme port) := by
  cases port with
  | none => exact (if_pos rfl).symm
  | some n => rfl

/-- The canonical port texts of two ports agree exactly when the ports do. -/
theorem portSuffix_inj {scheme : NetworkScheme} {p q : Option Nat} :
    portSuffix scheme.text p = portSuffix scheme.text q ↔
      effectivePort scheme p = effectivePort scheme q := by
  rw [portSuffix_eq, portSuffix_eq]
  constructor
  · intro eq
    split at eq
    · next left =>
        split at eq
        · next right => rw [left, right]
        · cases eq
    · split at eq
      · cases eq
      · have digits := congrArg (Nat.ofDigitChars 10 · 0) (List.cons.inj eq).2
        simpa [Nat.ofDigitChars_ten_toDigits] using digits
  · intro eq
    rw [eq]

/-- The canonical port of a URL as a port text: absent when it is the default. -/
def PortText.canonical (scheme : NetworkScheme) (port : PortText) : PortText :=
  let n := effectivePort scheme port.value
  have inRange : n ≤ 65535 := by
    unfold n effectivePort PortText.value
    cases isSome : port.digits with
    | none => cases scheme <;> decide
    | some ds => exact port.inRange ds isSome
  { digits := if n = defaultPort scheme.text then none else some (Nat.toDigits 10 n)
    digit := by
      intro ds mem c inDigits
      split at mem
      · cases mem
      · cases mem
        exact Nat.isDigit_of_mem_toDigits (by decide) (by decide) inDigits
    nonempty := by
      intro ds mem
      split at mem
      · cases mem
      · cases mem
        exact Nat.toDigits_ne_nil
    inRange := by
      intro ds mem
      split at mem
      · cases mem
      · cases mem
        rw [Nat.ofDigitChars_ten_toDigits]
        exact inRange }

theorem PortText.canonical_text (scheme : NetworkScheme) (port : PortText) :
    (port.canonical scheme).text = portSuffix scheme.text port.value := by
  rw [portSuffix_eq]
  unfold PortText.text PortText.canonical
  dsimp only
  split <;> rfl

theorem PortText.effectivePort_canonical (scheme : NetworkScheme) (port : PortText) :
    effectivePort scheme (port.canonical scheme).value = effectivePort scheme port.value := by
  unfold PortText.canonical PortText.value
  dsimp only
  split
  · next isDefault => exact isDefault.symm
  · exact Nat.ofDigitChars_ten_toDigits

end Dingdongditch
