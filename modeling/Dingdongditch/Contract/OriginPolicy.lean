import Dingdongditch.Contract.Authority
import Dingdongditch.Contract.OriginPasses

/-!
# What an origin pattern means

The envelope canonicalises each pattern when it is built, `validate` does so
again, and `_matches_origin` a third time.  For an exact origin the three agree.
For a wildcard each pass leaves its placeholder label in the pattern
(`policyOriginPattern_wildcard`), so the pattern a host declares and the one
that is finally compared are different patterns.
-/

namespace Dingdongditch

open Text

variable {codec : HostCodec}

/-! ## Canonicalisation of the values a host declares -/

theorem scheme_letters (scheme : NetworkScheme) :
    ∀ c ∈ scheme.text, c.isAlpha = true ∧ c.toLower = c := by
  cases scheme <;> decide

theorem scheme_ne_nil (scheme : NetworkScheme) : scheme.text ≠ [] := by
  cases scheme <;> decide

theorem lowerAscii_scheme (scheme : NetworkScheme) : lowerAscii scheme.text = scheme.text := by
  cases scheme <;> decide

theorem scheme_eq (scheme : NetworkScheme) : scheme.text = http ∨ scheme.text = https := by
  cases scheme
  · exact .inl rfl
  · exact .inr rfl

theorem rstrip_dots {host : List Char} (isHost : IsHost host) (dots : Nat) :
    rstripBy (· = '.') (host ++ List.replicate dots '.') = host := by
  obtain ⟨init, c, rfl, -, notDot⟩ := isHost.exists_last
  have dropped : ∀ rest, (List.replicate dots '.' ++ rest).dropWhile (· = '.') =
      rest.dropWhile (· = '.') := by
    intro rest
    rw [List.dropWhile_append_of_pos (by simp)]
  unfold rstripBy
  rw [List.reverse_append, List.reverse_replicate, dropped]
  exact rstripBy_append_of_last (p := (· = '.')) (decide_eq_false notDot) init

theorem bracketHost_eq_self {host : List Char} (isHost : IsHost host) :
    bracketHost host = host := by
  have noColon : ':' ∉ host := colon_not_mem isHost.chars
  simp [bracketHost, noColon]

theorem lowerAscii_dots (host : List Char) (dots : Nat) :
    lowerAscii (host ++ List.replicate dots '.') = lowerAscii host ++ List.replicate dots '.' := by
  unfold lowerAscii
  rw [List.map_append, List.map_replicate]
  rfl

theorem dotted_chars {host : List Char} (isHost : IsHost host) (dots : Nat) :
    ∀ c ∈ host ++ List.replicate dots '.', isHostChar c = true := by
  intro c mem
  rcases List.mem_append.mp mem with inHost | inDots
  · exact isHost.chars c inHost
  · rw [List.eq_of_mem_replicate inDots]
    rfl

/-- The origin of a URL over an ASCII host: scheme and host in lower case, and
the port unless it is the default one. -/
theorem origin_of_host (lawful : codec.Lawful) (scheme : NetworkScheme) {host : List Char}
    (isHost : IsHost host) (dots : Nat) (port : PortText) :
    origin codec (scheme.text ++ "://".toList ++ (host ++ List.replicate dots '.') ++ port.text) =
      scheme.text ++ "://".toList ++ lowerAscii host ++ portSuffix scheme.text port.value := by
  have chars := dotted_chars isHost dots
  have shape : scheme.text ++ "://".toList ++ (host ++ List.replicate dots '.') ++ port.text =
      scheme.text ++ ':' :: '/' :: '/' ::
        ((host ++ List.replicate dots '.') ++ portText port.digits) := by
    simp [PortText.text]
  have plain := plain_of_parts chars port.digit
  have ascii : ∀ c ∈ host ++ List.replicate dots '.', isAscii c = true := by
    intro c mem
    have bound := (isHostChar_toNat (chars c mem)).2
    simpa [isAscii] using bound
  have lowered := lawful.lower_ascii _ ascii
  rw [lowerAscii_dots] at lowered
  have someHost : lowerAscii host ≠ [] := isHost.lower.ne_nil
  have network : ¬ (scheme.text ≠ http ∧ scheme.text ≠ https) := by
    rintro ⟨notHttp, notHttps⟩
    exact (scheme_eq scheme).elim notHttp notHttps
  have portValue : SplitResult.port
      ⟨scheme.text, (host ++ List.replicate dots '.') ++ portText port.digits, [], [], []⟩ =
        some port.value := by
    obtain ⟨digits, digit, nonempty, inRange⟩ := port
    rw [port_of_parts chars digit nonempty]
    cases digits with
    | none => rfl
    | some ds => exact if_pos (inRange ds rfl)
  unfold origin
  rw [shape, urlsplit_of_plain codec (scheme_ne_nil scheme) (scheme_letters scheme) plain]
  dsimp only
  rw [lowerAscii_scheme, hostname_of_parts codec chars port.digit, lowered,
    hasCredentials_of_plain plain, if_neg (by simp [network, someHost]),
    rstrip_dots isHost.lower, lawful.idna_host _ isHost.lower isHost.lower_lower, portValue]
  dsimp only
  rw [isHost.lower_lower, bracketHost_eq_self isHost.lower]

section Value

variable (v : OriginValue)

theorem OriginValue.last : ∃ init c, v.text = init ++ [c] ∧ isHostChar c = true := by
  have chars := dotted_chars v.isHost v.dots
  cases digits : v.port.digits with
  | none =>
      obtain ⟨front, c, eq⟩ : ∃ front c, v.host ++ List.replicate v.dots '.' = front ++ [c] := by
        rcases List.eq_nil_or_concat (v.host ++ List.replicate v.dots '.') with empty | ⟨front, c, eq⟩
        · exact absurd (List.append_eq_nil_iff.mp empty).1 v.isHost.ne_nil
        · exact ⟨front, c, eq.trans List.concat_eq_append⟩
      refine ⟨v.scheme.text ++ "://".toList ++ (if v.wildcard then star else []) ++ front, c,
        ?_, chars c (by simp [eq])⟩
      unfold OriginValue.text PortText.text
      rw [digits, eq, portText, List.append_nil, ← List.append_assoc]
  | some ds =>
      obtain ⟨front, d, rfl⟩ : ∃ front d, ds = front ++ [d] := by
        rcases List.eq_nil_or_concat ds with rfl | ⟨front, d, rfl⟩
        · exact absurd rfl (v.port.nonempty _ digits)
        · exact ⟨front, d, List.concat_eq_append⟩
      have digit := v.port.digit _ digits d (by simp)
      refine ⟨v.scheme.text ++ "://".toList ++ (if v.wildcard then star else []) ++
        (v.host ++ List.replicate v.dots '.') ++ ':' :: front, d, ?_, ?_⟩
      · simp [OriginValue.text, PortText.text, digits, portText]
      · simp [isHostChar, Char.isAlphanum, digit]

theorem OriginValue.text_ne_nil : v.text ≠ [] := by
  obtain ⟨init, c, eq, _⟩ := v.last
  rw [eq]
  simp

theorem isSpace_of_hostChar {c : Char} (hostChar : isHostChar c = true) : isSpace c = false := by
  have bound := isHostChar_toNat hostChar
  simp [isSpace]
  omega

theorem OriginValue.strip_text : stripBy isSpace v.text = v.text := by
  have front : lstripBy isSpace v.text = v.text := by
    unfold OriginValue.text
    cases v.scheme <;> rfl
  obtain ⟨init, c, eq, hostChar⟩ := v.last
  unfold stripBy
  rw [front, eq]
  exact rstripBy_append_of_last (isSpace_of_hostChar hostChar) init

theorem OriginValue.rstrip_slash : rstripBy (· = '/') v.text = v.text := by
  obtain ⟨init, c, eq, hostChar⟩ := v.last
  have notSlash : decide (c = '/') = false := by
    refine decide_eq_false fun isSlash => ?_
    subst isSlash
    exact absurd hostChar (by decide)
  rw [eq]
  exact rstripBy_append_of_last notSlash init

/-- A declared value after its scheme and star. -/
def OriginValue.tail : List Char := (v.host ++ List.replicate v.dots '.') ++ v.port.text

theorem OriginValue.tail_plain : ∀ c ∈ v.tail, isPlainChar c = true :=
  plain_of_parts (dotted_chars v.isHost v.dots) v.port.digit

theorem OriginValue.tail_ne_nil : v.tail ≠ [] := by
  simp [OriginValue.tail, v.isHost.ne_nil]

theorem OriginValue.tail_marks : v.tail.any (· ∈ ['/', '?', '#', '@']) = false := by
  rw [List.any_eq_false]
  intro c mem marked
  have plain := v.tail_plain c mem
  have isMark := of_decide_eq_true marked
  simp only [List.mem_cons, List.not_mem_nil, or_false] at isMark
  rcases isMark with rfl | rfl | rfl | rfl <;> exact absurd plain (by decide)

theorem OriginValue.text_of_exact (exact_ : v.wildcard = false) :
    v.text = v.scheme.text ++ "://".toList ++ v.tail := by
  unfold OriginValue.text OriginValue.tail
  rw [exact_]
  simp

theorem OriginValue.text_of_wildcard (wild : v.wildcard = true) :
    v.text = v.scheme.text ++ "://".toList ++ star ++ v.tail := by
  unfold OriginValue.text OriginValue.tail
  rw [wild]
  simp

theorem star_not_mem_head (scheme : NetworkScheme) : '*' ∉ scheme.text ++ "://".toList := by
  cases scheme <;> decide

theorem OriginValue.star_not_mem_tail : '*' ∉ v.tail :=
  not_mem_of_plain v.tail_plain (by decide)

/-- What one pass of the canonicalisation makes of a declared value: host and
port in canonical form, and the placeholder label in the host of a wildcard. -/
def OriginValue.normal : OriginValue where
  wildcard := v.wildcard
  scheme := v.scheme
  host := if v.wildcard then "host.".toList ++ lowerAscii v.host else lowerAscii v.host
  dots := 0
  port := v.port.canonical v.scheme
  isHost := by
    split
    · exact isHost_host_dot v.isHost.lower
    · exact v.isHost.lower

theorem OriginValue.normal_tail_of_exact (exact_ : v.wildcard = false) :
    v.normal.tail = lowerAscii v.host ++ portSuffix v.scheme.text v.port.value := by
  unfold OriginValue.tail OriginValue.normal
  dsimp only
  rw [exact_, PortText.canonical_text]
  simp

theorem OriginValue.normal_tail_of_wildcard (wild : v.wildcard = true) :
    v.normal.tail = "host.".toList ++ lowerAscii v.host ++
      portSuffix v.scheme.text v.port.value := by
  unfold OriginValue.tail OriginValue.normal
  dsimp only
  rw [wild, PortText.canonical_text]
  simp

/-- The origin of the URL that the placeholder label makes of a wildcard. -/
theorem OriginValue.origin_host_dot (lawful : codec.Lawful) (wild : v.wildcard = true) :
    origin codec (v.scheme.text ++ "://".toList ++ "host.".toList ++ v.tail) =
      v.scheme.text ++ "://".toList ++ v.normal.tail := by
  have shape : v.scheme.text ++ "://".toList ++ "host.".toList ++ v.tail =
      v.scheme.text ++ "://".toList ++
        (("host.".toList ++ v.host) ++ List.replicate v.dots '.') ++ v.port.text := by
    simp [OriginValue.tail]
  have lowered : lowerAscii ("host.".toList ++ v.host) = "host.".toList ++ lowerAscii v.host := by
    simp [lowerAscii]
  rw [shape, origin_of_host lawful v.scheme (isHost_host_dot v.isHost) v.dots v.port, lowered,
    v.normal_tail_of_wildcard wild]
  simp

/-- One pass of `_policy_origin_pattern` over a declared value. -/
theorem policyOriginPattern_text (lawful : codec.Lawful) :
    policyOriginPattern codec v.text = v.normal.text := by
  have wellFormed : ¬ (v.text = [] ∨ v.text ≠ stripBy isSpace v.text) := by
    rw [v.strip_text]
    simp [v.text_ne_nil]
  unfold policyOriginPattern
  rw [if_neg wellFormed]
  cases wild : v.wildcard with
  | false =>
      have fresh : '*' ∉ v.text := by
        rw [v.text_of_exact wild, List.mem_append]
        exact not_or.mpr ⟨star_not_mem_head v.scheme, v.star_not_mem_tail⟩
      have noStar : splitFirst star v.text = none := splitFirst_eq_none fresh
      have normalized := origin_of_host lawful v.scheme v.isHost v.dots v.port
      rw [noStar]
      dsimp only
      rw [if_pos v.rstrip_slash, v.text_of_exact wild, v.normal.text_of_exact wild,
        v.normal_tail_of_exact wild, ← List.append_assoc]
      rw [OriginValue.tail, ← List.append_assoc]
      exact normalized
  | true =>
      have split : splitFirst star v.text = some (v.scheme.text ++ "://".toList, v.tail) := by
        rw [v.text_of_wildcard wild]
        exact splitFirst_append (star_not_mem_head v.scheme) v.tail
      have oneStar : contains star v.tail = false := contains_eq_false v.star_not_mem_tail
      have accepted : ¬ ((v.scheme.text ++ "://".toList ≠ "http://".toList ∧
          v.scheme.text ++ "://".toList ≠ "https://".toList) ∨ v.tail = [] ∨
            v.tail.any (· ∈ ['/', '?', '#', '@'])) := by
        rw [v.tail_marks]
        cases v.scheme <;> simp [v.tail_ne_nil, NetworkScheme.text, http, https]
      have colon : ':' ∉ v.scheme.text := by
        cases v.scheme <;> decide
      have parts : splitFirst "://".toList (v.scheme.text ++ "://".toList ++ v.normal.tail) =
          some (v.scheme.text, v.normal.tail) := splitFirst_append colon v.normal.tail
      have noBracket : v.normal.tail.head? ≠ some '[' := by
        rw [v.normal_tail_of_wildcard wild]
        simp
      rw [split]
      dsimp only
      rw [oneStar, if_neg Bool.false_ne_true, if_neg accepted, v.origin_host_dot lawful wild, parts]
      dsimp only
      rw [if_neg noBracket]
      exact (v.normal.text_of_wildcard wild).symm

end Value

/-! ## Comparing an origin with a wildcard -/

section Suffix

variable {x host : List Char}

/-- The port text of a canonical origin. -/
def IsPortSuffix (text : List Char) : Prop :=
  text = [] ∨ ∃ digits, text = ':' :: digits ∧ ':' ∉ digits ∧ ∀ c ∈ digits, c.isDigit = true

theorem isPortSuffix_portSuffix (scheme : List Char) (port : Option Nat) :
    IsPortSuffix (portSuffix scheme port) := by
  cases port with
  | none => exact .inl rfl
  | some n =>
      unfold portSuffix
      dsimp only
      split
      · exact .inl rfl
      · have digit : ∀ c ∈ Nat.toDigits 10 n, c.isDigit = true := fun c mem =>
          Nat.isDigit_of_mem_toDigits (by decide) (by decide) mem
        exact .inr ⟨Nat.toDigits 10 n, rfl, fun mem => absurd (digit _ mem) (by decide), digit⟩

/-- A suffix test on host and port together is one on the host and one on the
port: a colon-free text with a dot in it does not reach into the port, and the
host holds no colon but inside the brackets it ends with. -/
theorem suffix_append_port {p q : List Char} (dot : '.' ∈ x) (noColon : ':' ∉ x)
    (bracketed : ':' ∈ host → host.getLast? = some ']')
    (isPort : IsPortSuffix p) (isPort' : IsPortSuffix q) :
    (x ++ q) <:+ (host ++ p) ↔ x <:+ host ∧ p = q := by
  constructor
  · intro suffix
    rcases isPort with rfl | ⟨ds, rfl, noColon', digit⟩
    · rcases isPort' with rfl | ⟨es, rfl, -, digit'⟩
      · exact ⟨by simpa using suffix, rfl⟩
      · -- the host would end with a port
        rw [List.append_nil] at suffix
        have colon : ':' ∈ host := suffix.subset (by simp)
        have last := bracketed colon
        obtain ⟨front, rfl⟩ := suffix
        have inPort : ']' ∈ ':' :: es := by
          refine List.mem_of_getLast? ?_
          rw [← last, ← List.append_assoc, List.getLast?_append, List.getLast?_cons]
          rfl
        rcases List.mem_cons.mp inPort with eq | inDigits
        · cases eq
        · exact absurd (digit' _ inDigits) (by decide)
    · rcases isPort' with rfl | ⟨es, rfl, noColon'', -⟩
      · rw [List.append_nil] at suffix
        rcases List.suffix_or_suffix_of_suffix suffix (List.suffix_append host (':' :: ds)) with
          inPort | inText
        · rcases List.mem_cons.mp (inPort.subset dot) with eq | inDigits
          · cases eq
          · exact absurd (digit _ inDigits) (by decide)
        · exact absurd (inText.subset List.mem_cons_self) noColon
      · have digits : ds = es := by
          obtain ⟨front, eq⟩ := suffix
          have left : rpartition ':' (host ++ ':' :: ds) = some (host, ds) :=
            rpartition_append noColon' host
          have right : rpartition ':' ((front ++ x) ++ ':' :: es) = some (front ++ x, es) :=
            rpartition_append noColon'' (front ++ x)
          rw [List.append_assoc, eq, left] at right
          exact (Prod.mk.inj (Option.some.inj right)).2
        subst digits
        obtain ⟨front, eq⟩ := suffix
        rw [← List.append_assoc] at eq
        exact ⟨⟨front, List.append_cancel_right eq⟩, rfl⟩
  · intro ⟨⟨front, eq⟩, same⟩
    exact ⟨front, by rw [← eq, same, List.append_assoc]⟩

end Suffix

theorem scheme_isPrefixOf {scheme scheme' : NetworkScheme} (rest : List Char) :
    (scheme.text ++ "://".toList).isPrefixOf (scheme'.text ++ "://".toList ++ rest) = true ↔
      scheme' = scheme := by
  cases scheme <;> cases scheme' <;>
    simp [NetworkScheme.text, http, https, List.isPrefixOf]

theorem lowerAscii_placeholder {host : List Char} (isHost : IsHost host) :
    lowerAscii ("host.".toList ++ lowerAscii host) = "host.".toList ++ lowerAscii host := by
  have twice := isHost.lower_lower
  unfold lowerAscii at twice ⊢
  rw [List.map_append, twice]
  rfl

section Matching

variable (v : OriginValue) (o : CanonicalOrigin)

/-- The origins a wildcard is declared to cover: same scheme, same effective
port, and a host strictly below the declared suffix. -/
def OriginValue.Covers : Prop :=
  o.scheme = v.scheme ∧
    effectivePort o.scheme o.port = effectivePort v.scheme v.port.value ∧
      ('.' :: lowerAscii v.host) <:+ o.host

/-- A wildcard is compared with one placeholder label more than its text has. -/
theorem matchesPattern_of_wildcard (lawful : codec.Lawful) (wild : v.wildcard = true) :
    matchesPattern codec o.text v.text = true ↔ v.normal.Covers o := by
  have candidate := policyOriginPattern_text v lawful
  have head : v.normal.text = v.scheme.text ++ "://".toList ++ star ++ v.normal.tail :=
    v.normal.text_of_wildcard wild
  have split : splitFirst star v.normal.text =
      some (v.scheme.text ++ "://".toList, v.normal.tail) := by
    rw [head]
    exact splitFirst_append (star_not_mem_head v.scheme) v.normal.tail
  have starred : ("http://".toList ++ star).isPrefixOf v.normal.text ||
      ("https://".toList ++ star).isPrefixOf v.normal.text := by
    rw [head, Bool.or_eq_true, List.isPrefixOf_iff_prefix, List.isPrefixOf_iff_prefix]
    rcases scheme_eq v.scheme with isHttp | isHttps
    · exact .inl (by rw [isHttp]; exact List.prefix_append _ _)
    · exact .inr (by rw [isHttps]; exact List.prefix_append _ _)
  have isHost := isHost_host_dot v.isHost.lower
  have noColon : ':' ∉ '.' :: ("host.".toList ++ lowerAscii v.host) := by
    have inHost := colon_not_mem isHost.chars
    simpa using inHost
  -- the text test on host and port, as the relation on hosts and ports
  have covers : ('.' :: v.normal.tail) <:+ (o.host ++ portSuffix o.scheme.text o.port) ∧
      o.scheme = v.scheme ↔ v.normal.Covers o := by
    have tail := v.normal_tail_of_wildcard wild
    have hosts := suffix_append_port (List.mem_cons_self) noColon o.bracketed
      (isPortSuffix_portSuffix o.scheme.text o.port)
      (isPortSuffix_portSuffix v.scheme.text v.port.value)
    have text : '.' :: v.normal.tail = '.' :: ("host.".toList ++ lowerAscii v.host) ++
        portSuffix v.scheme.text v.port.value := by
      rw [tail]
      rfl
    have stored : lowerAscii v.normal.host = "host.".toList ++ lowerAscii v.host := by
      unfold OriginValue.normal
      dsimp only
      rw [wild]
      exact lowerAscii_placeholder v.isHost
    have port : effectivePort v.normal.scheme v.normal.port.value =
        effectivePort v.scheme v.port.value := PortText.effectivePort_canonical v.scheme v.port
    unfold OriginValue.Covers
    rw [text, hosts, stored, port]
    constructor
    · intro ⟨⟨suffix, ports⟩, scheme⟩
      rw [scheme, portSuffix_inj] at ports
      exact ⟨scheme, by rw [scheme]; exact ports, suffix⟩
    · intro ⟨scheme, ports, suffix⟩
      have same : o.scheme = v.scheme := scheme
      rw [same] at ports ⊢
      exact ⟨⟨suffix, portSuffix_inj.mpr ports⟩, rfl⟩
  have originText : o.text = o.scheme.text ++ "://".toList ++
      (o.host ++ portSuffix o.scheme.text o.port) := by
    simp [CanonicalOrigin.text]
  unfold matchesPattern
  dsimp only
  rw [candidate, if_neg v.normal.text_ne_nil]
  by_cases same : v.normal.text = o.text
  · rw [if_pos same, ← covers]
    refine iff_of_true rfl ?_
    rw [head, originText, List.append_assoc _ star] at same
    have scheme : o.scheme = v.scheme := by
      refine (scheme_isPrefixOf (o.host ++ portSuffix o.scheme.text o.port)).mp ?_
      rw [← same]
      exact List.isPrefixOf_iff_prefix.mpr (List.prefix_append _ _)
    rw [scheme] at same
    have rest := List.append_cancel_left same
    rw [scheme, ← rest]
    exact ⟨⟨['*'], rfl⟩, rfl⟩
  · rw [if_neg same, if_pos starred, split, ← covers]
    dsimp only
    rw [originText]
    by_cases scheme : o.scheme = v.scheme
    · rw [if_pos ((scheme_isPrefixOf _).mpr scheme), scheme, List.drop_left]
      rw [Bool.and_eq_true, List.isSuffixOf_iff_suffix]
      constructor
      · intro ⟨suffix, _⟩
        exact ⟨suffix, rfl⟩
      · intro ⟨suffix, _⟩
        refine ⟨suffix, ?_⟩
        have longer := suffix.length_le
        simp only [bne_iff_ne, ne_eq]
        intro eq
        rw [eq, List.length_cons] at longer
        omega
    · rw [if_neg fun isPrefix => scheme ((scheme_isPrefixOf _).mp isPrefix)]
      refine iff_of_false ?_ fun both => scheme both.2
      simp

end Matching

/-! ## The patterns of an envelope -/

/-- An origin strictly below two placeholder labels under the declared suffix. -/
def OriginValue.Nested (v : OriginValue) (o : CanonicalOrigin) : Prop :=
  ('.' :: "host.host.".toList ++ lowerAscii v.host) <:+ o.host

theorem covers_normal_normal {v : OriginValue} {o : CanonicalOrigin} (wild : v.wildcard = true) :
    v.normal.normal.Covers o ↔ v.Covers o ∧ v.Nested o := by
  have host : lowerAscii v.normal.normal.host = "host.host.".toList ++ lowerAscii v.host := by
    have first : v.normal.host = "host.".toList ++ lowerAscii v.host := by
      unfold OriginValue.normal
      dsimp only
      rw [wild, if_pos rfl]
    have second : v.normal.normal.host = "host.".toList ++ lowerAscii v.normal.host := by
      unfold OriginValue.normal
      dsimp only
      rw [wild, if_pos rfl]
    rw [second, lowerAscii_placeholder v.normal.isHost, first, lowerAscii_placeholder v.isHost]
    rfl
  have port : effectivePort v.normal.normal.scheme v.normal.normal.port.value =
      effectivePort v.scheme v.port.value :=
    (PortText.effectivePort_canonical v.scheme v.normal.port).trans
      (PortText.effectivePort_canonical v.scheme v.port)
  unfold OriginValue.Covers OriginValue.Nested
  rw [host, port]
  constructor
  · intro ⟨scheme, ports, suffix⟩
    refine ⟨⟨scheme, ports, ?_⟩, suffix⟩
    exact List.IsSuffix.trans ⟨".host.host".toList, rfl⟩ suffix
  · intro ⟨⟨scheme, ports, _⟩, suffix⟩
    exact ⟨scheme, ports, suffix⟩

theorem storeOrigins_singleton (lawful : codec.Lawful) (v : OriginValue) :
    AuthorityPolicy.storeOrigins codec [v.text] = [v.normal.text] := by
  unfold AuthorityPolicy.storeOrigins
  rw [List.map_singleton, v.rstrip_slash, policyOriginPattern_text v lawful]

/-- What an envelope really compares with when it was declared one wildcard. -/
theorem matchesOrigin_stored (lawful : codec.Lawful) {v : OriginValue} (wild : v.wildcard = true)
    (o : CanonicalOrigin) :
    matchesOrigin codec o.text (AuthorityPolicy.storeOrigins codec [v.text]) = true ↔
      v.Covers o ∧ v.Nested o := by
  rw [storeOrigins_singleton lawful, matchesOrigin, List.any_cons, List.any_nil, Bool.or_false,
    matchesPattern_of_wildcard v.normal o lawful wild, covers_normal_normal wild]

/-- A declared wildcard covers what it says exactly for the origins that it does
not cover and for those below two placeholder labels; and canonicalisation is
idempotent exactly on the accepted values without a star whose encoded host is settled. -/
theorem wildcard_faithful_iff (lawful : codec.Lawful) (encodes : codec.EncodesAscii) :
    (∀ (v : OriginValue) (o : CanonicalOrigin) (policy : AuthorityPolicy)
        (envelope : AuthorityEnvelope codec), v.wildcard = true →
        AuthorityEnvelope.ofPolicy codec policy = .ok envelope →
        (policy.allowedOrigins = [v.text] →
          ((matchesOrigin codec o.text envelope.allowedOrigins = true ↔ v.Covers o) ↔
            (¬ v.Covers o ∨ v.Nested o))) ∧
        (policy.deniedOrigins = [v.text] →
          ((matchesOrigin codec o.text envelope.deniedOrigins = true ↔ v.Covers o) ↔
            (¬ v.Covers o ∨ v.Nested o)))) ∧
      (∀ value : List Char, policyOriginPattern codec value ≠ [] →
        (policyOriginPattern codec (policyOriginPattern codec value) =
            policyOriginPattern codec value ↔
          contains star value = false ∧
            ∃ parsed encoded port, OriginParts codec value parsed encoded port ∧
              SettledAuthority codec (lowerAscii parsed.scheme)
                (canonicalAuthority parsed encoded port))) := by
  refine ⟨?_, fun value accepted => policyOriginPattern_again_iff lawful encodes accepted⟩
  · intro v o policy envelope wild built
    have stored := AuthorityEnvelope.ofPolicy_eq_ok built
    have exactness : ((v.Covers o ∧ v.Nested o) ↔ v.Covers o) ↔ (¬ v.Covers o ∨ v.Nested o) := by
      tauto
    refine ⟨?_, ?_⟩
    · intro declared
      have patterns : envelope.allowedOrigins = AuthorityPolicy.storeOrigins codec [v.text] := by
        rw [stored, ← declared]
        rfl
      rw [patterns, matchesOrigin_stored lawful wild]
      exact exactness
    · intro declared
      have patterns : envelope.deniedOrigins = AuthorityPolicy.storeOrigins codec [v.text] := by
        rw [stored, ← declared]
        rfl
      rw [patterns, matchesOrigin_stored lawful wild]
      exact exactness

/-! ## A concrete codec -/

/-- Unicode case mapping and IDNA as they act on ASCII hosts. -/
def asciiCodec : HostCodec where
  lower := lowerAscii
  rejectsNetloc _ := false
  rejectsBrackets _ := false
  idna host := if host.all isAscii then some host else none

theorem asciiCodec_lawful : asciiCodec.Lawful where
  lower_ascii _ _ := rfl
  idna_host host isHost _ := by
    have ascii : host.all isAscii = true := by
      rw [List.all_eq_true]
      exact fun c member => decide_eq_true (isHostChar_toNat (isHost.chars c member)).2
    exact if_pos ascii

theorem asciiCodec_encodesAscii : asciiCodec.EncodesAscii where
  ascii text encoded encodes := by
    obtain ⟨ascii, same⟩ := Option.ite_none_right_eq_some.mp encodes
    obtain rfl := Option.some.inj same
    exact List.all_eq_true.mp ascii
  same text encoded _ encodes := (Option.some.inj (Option.ite_none_right_eq_some.mp encodes).2).symm

/-- `https://*.example.com` -/
def exampleWildcard : OriginValue where
  wildcard := true
  scheme := .https
  host := "example.com".toList
  dots := 0
  port := ⟨none, by simp, by simp, by simp⟩
  isHost := .dot (show IsLabel "example".toList by decide)
    (.label (show IsLabel "com".toList by decide))

/-- `https://a.example.com` -/
def exampleSubdomain : CanonicalOrigin where
  scheme := .https
  host := "a.example.com".toList
  port := none
  bracketed := by decide

/-- A policy that denies one wildcard. -/
def denyExample : AuthorityPolicy where
  policyId := "deny"
  deniedOrigins := [exampleWildcard.text]

theorem denyExample_accepted :
    ∃ envelope, AuthorityEnvelope.ofPolicy asciiCodec denyExample = .ok envelope := by
  have accepted : (denyExample.normalize asciiCodec).validate asciiCodec = .ok () := by
    decide
  unfold AuthorityEnvelope.ofPolicy
  split
  · exact ⟨_, rfl⟩
  · next rejected => rw [accepted] at rejected; cases rejected

theorem wildcard_faithful_iff_example :
    ∃ envelope, AuthorityEnvelope.ofPolicy asciiCodec denyExample = .ok envelope ∧
      ((matchesOrigin asciiCodec exampleSubdomain.text envelope.deniedOrigins = true ↔
          exampleWildcard.Covers exampleSubdomain) ↔
        (¬ exampleWildcard.Covers exampleSubdomain ∨ exampleWildcard.Nested exampleSubdomain)) := by
  obtain ⟨envelope, built⟩ := denyExample_accepted
  have faithful := (wildcard_faithful_iff asciiCodec_lawful asciiCodec_encodesAscii).1 exampleWildcard exampleSubdomain
    denyExample envelope rfl built
  exact ⟨envelope, built, faithful.2 rfl⟩

/-- The denied wildcard `https://*.example.com` does not deny
`https://a.example.com`, and another pass changes its stored form. -/
theorem wildcard_denies_no_subdomain :
    ∃ envelope, AuthorityEnvelope.ofPolicy asciiCodec denyExample = .ok envelope ∧
      exampleWildcard.Covers exampleSubdomain ∧
      matchesOrigin asciiCodec exampleSubdomain.text envelope.deniedOrigins = false ∧
      policyOriginPattern asciiCodec (policyOriginPattern asciiCodec exampleWildcard.text) ≠
        policyOriginPattern asciiCodec exampleWildcard.text := by
  obtain ⟨envelope, built⟩ := denyExample_accepted
  have patterns : envelope.deniedOrigins = (denyExample.normalize asciiCodec).deniedOrigins := by
    rw [AuthorityEnvelope.ofPolicy_eq_ok built]
  have covers : exampleWildcard.Covers exampleSubdomain := ⟨rfl, rfl, by decide⟩
  refine ⟨envelope, built, covers, ?_, by decide⟩
  rw [patterns]
  decide

end Dingdongditch
