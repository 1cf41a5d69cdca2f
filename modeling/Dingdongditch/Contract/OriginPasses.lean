import Dingdongditch.Contract.Origin
import Dingdongditch.Text.UrlParts
import Mathlib.Data.List.TakeWhile

/-!
# A second pass over an origin pattern

`_policy_origin_pattern` is applied to its own result when a policy is validated and
once more when an origin is matched.  A canonical text is ASCII in lower case, so the
second pass reads a host as it stands or not at all (`origin_lower_inv`).  It writes
the text back exactly when the host is `Settled` (`Settled.origin_eq`,
`settled_of_readsBack`), and never a text with a star (`policyOriginPattern_star_ne`), so
the values on which the passes agree are known from the host that IDNA makes of them
(`policyOriginPattern_again_iff`).
-/

namespace Dingdongditch

open Text

variable {codec : HostCodec}

/-- `host.encode("idna")` is ASCII, and leaves ASCII text alone where it does not raise. -/
structure Text.HostCodec.EncodesAscii (codec : HostCodec) : Prop where
  ascii : ∀ text encoded, codec.idna text = some encoded → ∀ c ∈ encoded, isAscii c = true
  same : ∀ text encoded, (∀ c ∈ text, isAscii c = true) → codec.idna text = some encoded →
    encoded = text

/-- The characters that `urlsplit` deletes, or that end a host wherever they stand. -/
def hostDelimiters : List Char := ['/', '?', '#', '@', ']', '\t', '\r', '\n']

/-- An encoded host that reads back as it stands, in front of its port. -/
structure Settled (codec : HostCodec) (scheme host : List Char) (port : Option Nat) : Prop where
  filled : host ≠ []
  bare : ∀ c ∈ host, c ∉ hostDelimiters
  unstarred : contains star host = false
  encoded : codec.idna host = some host
  /-- The text does not end with a dot or, without a port, with a blank. -/
  last : ∀ c ∈ host.getLast?, c ≠ '.' ∧ (':' ∉ host → portSuffix scheme port = [] → isSpace c = false)
  name : ':' ∉ host → '[' ∉ host
  literal : ':' ∈ host → host.head? ≠ some '[' ∧
    codec.rejectsBrackets ('[' :: (host ++ ']' :: portSuffix scheme port)) = false
  inRange : ∀ n ∈ port, n ≤ 65535

/-- An authority that is a settled host, an IP literal in brackets, and its port. -/
def SettledAuthority (codec : HostCodec) (scheme authority : List Char) : Prop :=
  ∃ host port, Settled codec scheme host port ∧
    authority = bracketHost host ++ portSuffix scheme port

/-! ## What `_origin` reads -/

/-- The parts that `_origin` takes from a URL it accepts. -/
structure OriginParts (codec : HostCodec) (value : List Char) (parsed : SplitResult)
    (encoded : List Char) (port : Option Nat) : Prop where
  split : urlsplit codec value = some parsed
  network : lowerAscii parsed.scheme = http ∨ lowerAscii parsed.scheme = https
  named : parsed.hostname codec ≠ []
  plain : parsed.hasCredentials = false
  encodes : codec.idna (rstripBy (· = '.') (parsed.hostname codec)) = some encoded
  port : parsed.port = some port

/-- The authority that is made of these parts. -/
def canonicalAuthority (parsed : SplitResult) (encoded : List Char) (port : Option Nat) : List Char :=
  bracketHost (lowerAscii encoded) ++ portSuffix (lowerAscii parsed.scheme) port

theorem OriginParts.origin_eq {value : List Char} {parsed : SplitResult} {encoded : List Char}
    {port : Option Nat} (parts : OriginParts codec value parsed encoded port) :
    origin codec value =
      lowerAscii parsed.scheme ++ "://".toList ++ canonicalAuthority parsed encoded port := by
  have network : ¬ (lowerAscii parsed.scheme ≠ http ∧ lowerAscii parsed.scheme ≠ https) := by
    have either := parts.network
    tauto
  unfold origin canonicalAuthority
  rw [parts.split]
  dsimp only
  rw [if_neg (by simp [network, parts.named, parts.plain]), parts.encodes, parts.port]
  simp

theorem origin_inv {value : List Char} (accepted : origin codec value ≠ []) :
    ∃ parsed encoded port, OriginParts codec value parsed encoded port := by
  unfold origin at accepted
  split at accepted
  · exact absurd rfl accepted
  · next parsed split =>
      dsimp only at accepted
      split at accepted
      · exact absurd rfl accepted
      · next valid =>
          rw [not_or, not_or] at valid
          split at accepted
          · next encoded port encodes isPort =>
              refine ⟨parsed, encoded, port, split, ?_, valid.2.1, ?_, encodes, isPort⟩
              · have either := valid.1
                tauto
              · exact Bool.eq_false_iff.mpr valid.2.2
          · exact absurd rfl accepted

/-! ## The host of an authority -/

theorem rpartition_eq_some {c : Char} {s before after : List Char}
    (split : rpartition c s = some (before, after)) : s = before ++ c :: after ∧ c ∉ after := by
  obtain ⟨⟨tail, front⟩, inner, same⟩ := Option.map_eq_some_iff.mp split
  obtain ⟨rfl, rfl⟩ := Prod.mk.inj same
  obtain ⟨whole, fresh⟩ := partition_eq_some inner
  refine ⟨?_, by simpa using fresh⟩
  have reversed := congrArg List.reverse whole
  simpa using reversed

/-- An authority without credentials is its host and port, after a bare `@` or `:@`. -/
theorem netloc_of_plain {r : SplitResult} (plain : r.hasCredentials = false) :
    '@' ∉ r.hostinfo ∧ r.hostinfo ⊆ r.netloc ∧ ('[' ∈ r.netloc → '[' ∈ r.hostinfo) := by
  unfold SplitResult.hasCredentials at plain
  unfold SplitResult.hostinfo
  cases split : rpartition '@' r.netloc with
  | none =>
      refine ⟨?_, List.Subset.refl _, id⟩
      intro member
      obtain ⟨front, back, whole, fresh⟩ := List.eq_append_cons_of_mem (List.mem_reverse.mpr member)
      unfold rpartition at split
      rw [whole, partition_append fresh] at split
      cases split
  | some parts =>
      obtain ⟨userinfo, hostinfo⟩ := parts
      obtain ⟨whole, fresh⟩ := rpartition_eq_some split
      rw [split] at plain
      dsimp only at plain ⊢
      refine ⟨fresh, ?_, ?_⟩
      · rw [whole]
        exact List.subset_append_of_subset_right _ (List.subset_cons_self _ _)
      · intro member
        rw [whole, List.mem_append, List.mem_cons] at member
        rcases member with inUser | isAt | inHost
        · cases colon : partition ':' userinfo with
          | none =>
              rw [colon] at plain
              simp only [Bool.not_eq_false', List.isEmpty_iff] at plain
              rw [plain] at inUser
              cases inUser
          | some pair =>
              obtain ⟨username, password⟩ := pair
              obtain ⟨same, -⟩ := partition_eq_some colon
              rw [colon] at plain
              simp only [Bool.or_eq_false_iff, Bool.not_eq_false', List.isEmpty_iff] at plain
              rw [same, plain.1, plain.2] at inUser
              simp at inUser
        · cases isAt
        · exact inHost

theorem hostAndPort_fst {r : SplitResult} :
    r.hostAndPort.1 ⊆ r.hostinfo ∧ (']' ∈ r.hostAndPort.1 → '[' ∉ r.hostinfo) := by
  unfold SplitResult.hostAndPort
  cases split : partition '[' r.hostinfo with
  | some parts =>
      obtain ⟨before, bracketed⟩ := parts
      refine ⟨?_, fun member => absurd member (cut_fresh ']' bracketed)⟩
      exact List.Subset.trans (cut_isPrefix ']' bracketed).subset (partition_subset split)
  | none =>
      refine ⟨(cut_isPrefix ':' r.hostinfo).subset, ?_⟩
      intro _ member
      obtain ⟨front, back, whole, fresh⟩ := List.eq_append_cons_of_mem member
      rw [whole, partition_append fresh] at split
      cases split

/-! ## Texts in lower case -/

/-- ASCII text in lower case. -/
structure LowerText (text : List Char) : Prop where
  ascii : ∀ c ∈ text, isAscii c = true
  lower : ∀ c ∈ text, c.toLower = c

theorem LowerText.subset {text part : List Char} (lower : LowerText text) (inside : part ⊆ text) :
    LowerText part :=
  ⟨fun c member => lower.ascii c (inside member), fun c member => lower.lower c (inside member)⟩

theorem LowerText.lowerAscii_eq {text : List Char} (lower : LowerText text) :
    lowerAscii text = text :=
  (List.map_congr_left lower.lower).trans (List.map_id _)

theorem lowerText_lowerAscii {text : List Char} (ascii : ∀ c ∈ text, isAscii c = true) :
    LowerText (lowerAscii text) := by
  refine ⟨?_, ?_⟩
  · intro c member
    obtain ⟨d, there, rfl⟩ := List.mem_map.mp member
    by_cases upper : d.isUpper = true
    · have bounds := isLower_iff.mp (isLower_toLower upper)
      exact decide_eq_true (by omega)
    · rw [toLower_of_not_isUpper upper]
      exact ascii d there
  · intro c member
    obtain ⟨d, -, rfl⟩ := List.mem_map.mp member
    exact toLower_toLower d

theorem LowerText.append {text text' : List Char} (lower : LowerText text)
    (lower' : LowerText text') : LowerText (text ++ text') := by
  refine ⟨?_, ?_⟩
  · intro c member
    rcases List.mem_append.mp member with left | right
    · exact lower.ascii c left
    · exact lower'.ascii c right
  · intro c member
    rcases List.mem_append.mp member with left | right
    · exact lower.lower c left
    · exact lower'.lower c right

theorem lowerText_of_digits {digits : List Char} (digit : ∀ c ∈ digits, c.isDigit = true) :
    LowerText digits := by
  refine ⟨?_, ?_⟩
  · intro c member
    have bounds := isDigit_iff.mp (digit c member)
    exact decide_eq_true (by omega)
  · intro c member
    have bounds := isDigit_iff.mp (digit c member)
    apply toLower_of_not_isUpper
    rw [isUpper_iff]
    omega

/-- The port of a canonical authority is empty, or a colon and digits. -/
theorem portSuffix_cases (scheme : List Char) (port : Option Nat) :
    portSuffix scheme port = [] ∨
      ∃ n, port = some n ∧ n ≠ defaultPort scheme ∧ portSuffix scheme port = ':' :: Nat.toDigits 10 n := by
  cases port with
  | none => exact .inl rfl
  | some n =>
      by_cases isDefault : n = defaultPort scheme
      · exact .inl (if_pos isDefault)
      · exact .inr ⟨n, rfl, isDefault, if_neg isDefault⟩

theorem isDigit_toDigits {n : Nat} : ∀ c ∈ Nat.toDigits 10 n, c.isDigit = true := fun _ member =>
  Nat.isDigit_of_mem_toDigits (by decide) (by decide) member

theorem portSuffix_chars (scheme : List Char) (port : Option Nat) :
    ∀ c ∈ portSuffix scheme port, c = ':' ∨ c.isDigit = true := by
  intro c member
  rcases portSuffix_cases scheme port with empty | ⟨n, -, -, text⟩
  · rw [empty] at member
    cases member
  · rw [text] at member
    rcases List.mem_cons.mp member with colon | digit
    · exact .inl colon
    · exact .inr (isDigit_toDigits c digit)

theorem lowerText_portSuffix (scheme : List Char) (port : Option Nat) :
    LowerText (portSuffix scheme port) := by
  rcases portSuffix_cases scheme port with empty | ⟨n, -, -, text⟩
  · rw [empty]
    exact ⟨by simp, by simp⟩
  · rw [text]
    have colon : LowerText [':'] := ⟨by decide, by decide⟩
    exact colon.append (lowerText_of_digits isDigit_toDigits)

theorem lowerText_bracketHost {host : List Char} (lower : LowerText host) :
    LowerText (bracketHost host) := by
  unfold bracketHost
  split
  · have front : LowerText ['['] := ⟨by decide, by decide⟩
    have back : LowerText [']'] := ⟨by decide, by decide⟩
    exact (front.append lower).append back
  · exact lower

/-! ## A URL that is a scheme and an authority -/

variable {scheme : List Char}

theorem urlsplit_network (network : scheme = http ∨ scheme = https) (authority : List Char) :
    urlsplit codec (scheme ++ "://".toList ++ authority) =
      (splitNetloc codec ('/' :: '/' :: authority.filter fun c => !isUnsafe c)).map
        fun parts => SplitResult.ofRest scheme parts.1 parts.2 := by
  have printable : ∀ c ∈ scheme ++ [':', '/', '/'], 32 < c.toNat := by
    rcases network with rfl | rfl <;> decide
  have nonempty : scheme ++ [':', '/', '/'] ≠ [] := List.append_ne_nil_of_right_ne_nil _ nofun
  have scrubbed : scrub (scheme ++ "://".toList ++ authority) =
      scheme ++ ':' :: ('/' :: '/' :: authority.filter fun c => !isUnsafe c) :=
    (scrub_append nonempty printable authority).trans (List.append_assoc _ _ _)
  have letter : ∀ c ∈ scheme.head?, c.isAlpha = true := by
    have head : scheme.head? = some 'h' := by rcases network with rfl | rfl <;> rfl
    rw [head]
    intro c same
    obtain rfl := Option.some.inj same
    decide
  have isScheme : IsScheme scheme := by
    rcases network with rfl | rfl <;> exact ⟨by decide, letter, by decide, by decide⟩
  rw [urlsplit_eq, scrubbed, splitScheme_append isScheme]
  rfl

/-- The brackets of an authority that `urlsplit` accepts are balanced and accepted. -/
theorem Text.IsNetloc.brackets {netloc : List Char} (isNetloc : IsNetloc codec netloc) :
    ('[' ∈ netloc → ']' ∈ netloc ∧ codec.rejectsBrackets netloc = false) ∧
      (']' ∈ netloc → '[' ∈ netloc) := by
  have split := isNetloc.split [] (by simp)
  have whole : breakAt ['/', '?', '#'] (netloc ++ []) = (netloc, []) := by
    rw [List.append_nil]
    exact breakAt_eq_self isNetloc.fresh
  simp only [splitNetloc, whole] at split
  split at split
  · cases split
  · next balanced =>
      simp only [bne_iff_ne, ne_eq, not_not, List.contains_eq_mem, decide_eq_decide] at balanced
      split at split
      · cases split
      · next accepted =>
          simp only [List.contains_eq_mem, Bool.and_eq_true, decide_eq_true_eq, not_and,
            Bool.not_eq_true] at accepted
          exact ⟨fun opened => ⟨balanced.mp opened, accepted opened⟩, balanced.mpr⟩

/-- How `_origin` reads a URL that is a scheme and text in lower case. -/
structure LowerRead (codec : HostCodec) (scheme authority : List Char) (r : SplitResult)
    (port : Option Nat) : Prop where
  split : urlsplit codec (scheme ++ "://".toList ++ authority) = some r
  isNetloc : IsNetloc codec r.netloc
  inside : r.netloc ⊆ authority
  filled : r.hostAndPort.1 ≠ []
  bare : ∀ c ∈ r.hostAndPort.1, c ∉ hostDelimiters
  host : r.hostAndPort.1 ⊆ r.netloc
  encoded : codec.idna (rstripBy (· = '.') r.hostAndPort.1) =
    some (rstripBy (· = '.') r.hostAndPort.1)
  inRange : ∀ n ∈ port, n ≤ 65535
  text : origin codec (scheme ++ "://".toList ++ authority) = scheme ++ "://".toList ++
    (bracketHost (rstripBy (· = '.') r.hostAndPort.1) ++ portSuffix scheme port)

theorem rstripBy_subset {p : Char → Bool} (s : List Char) : rstripBy p s ⊆ s := by
  intro c member
  have inside := (List.dropWhile_sublist p).subset (List.mem_reverse.mp member)
  exact List.mem_reverse.mp inside

/-- The host name of lower-case ASCII text is the host as it stands. -/
theorem hostname_of_lower (lawful : codec.Lawful) {r : SplitResult}
    (lower : LowerText r.hostAndPort.1) : r.hostname codec = r.hostAndPort.1 := by
  unfold SplitResult.hostname
  cases zone : partition '%' r.hostAndPort.1 with
  | none =>
      dsimp only
      rw [lawful.lower_ascii _ lower.ascii, lower.lowerAscii_eq]
  | some parts =>
      obtain ⟨front, back⟩ := parts
      obtain ⟨whole, -⟩ := partition_eq_some zone
      have before : LowerText front := lower.subset (by
        rw [whole]
        exact List.subset_append_left _ _)
      dsimp only
      rw [lawful.lower_ascii _ before.ascii, before.lowerAscii_eq, whole]

theorem port_le {r : SplitResult} {port : Option Nat} (isPort : r.port = some port) :
    ∀ n ∈ port, n ≤ 65535 := by
  intro n same
  obtain rfl := Option.mem_def.mp same
  unfold SplitResult.port at isPort
  dsimp only at isPort
  split at isPort
  · cases isPort
  · split at isPort
    · split at isPort
      · next bounded =>
          cases isPort
          exact bounded
      · cases isPort
    · cases isPort

theorem origin_lower_inv (lawful : codec.Lawful) (encodes : codec.EncodesAscii)
    (network : scheme = http ∨ scheme = https) {authority : List Char} (lower : LowerText authority)
    (accepted : origin codec (scheme ++ "://".toList ++ authority) ≠ []) :
    ∃ r port, LowerRead codec scheme authority r port := by
  obtain ⟨r, encoded, port, parts⟩ := origin_inv accepted
  have split := parts.split
  rw [urlsplit_network network] at split
  obtain ⟨⟨netloc, rest⟩, authorityOf, isParts⟩ := Option.map_eq_some_iff.mp split
  have isScheme : r.scheme = scheme := by
    rw [← isParts]
    rfl
  have sameNetloc : r.netloc = netloc := by
    rw [← isParts]
    rfl
  have lowerScheme : lowerAscii scheme = scheme := by
    rcases network with rfl | rfl <;> decide
  have named : r.scheme ≠ [] := by
    rw [isScheme]
    rcases network with rfl | rfl <;> decide
  have formed := SplitResult.wellFormed_of_urlsplit parts.split named
  have inside : r.netloc ⊆ authority := by
    rw [sameNetloc]
    intro c member
    obtain ⟨-, ⟨empty, -, -⟩ | ⟨whole, -⟩⟩ := splitNetloc_cases authorityOf
    · rw [empty] at member
      cases member
    · have there : c ∈ authority.filter fun c => !isUnsafe c := by
        rw [(List.cons.inj (List.cons.inj whole).2).2]
        exact List.mem_append_left _ member
      exact (List.mem_filter.mp there).1
  obtain ⟨unsigned, hostInside, openInside⟩ := netloc_of_plain parts.plain
  obtain ⟨inHost, closed⟩ := hostAndPort_fst (r := r)
  have lowerHost : LowerText r.hostAndPort.1 :=
    lower.subset fun c member => inside (hostInside (inHost member))
  have hostname := hostname_of_lower lawful lowerHost
  have encodesTo := parts.encodes
  rw [hostname] at encodesTo
  have lowerRest : LowerText (rstripBy (· = '.') r.hostAndPort.1) :=
    lowerHost.subset (rstripBy_subset _)
  have same : encoded = rstripBy (· = '.') r.hostAndPort.1 := encodes.same _ _ lowerRest.ascii encodesTo
  refine ⟨r, port, parts.split, formed.netloc, inside, hostname ▸ parts.named, ?_, ?_, ?_,
    port_le parts.port, ?_⟩
  · intro c member delimiter
    have safe := formed.clean c (by simp [hostInside (inHost member)])
    have fresh := formed.netloc.fresh c (hostInside (inHost member))
    simp only [hostDelimiters, List.mem_cons, List.not_mem_nil, or_false] at delimiter
    rcases delimiter with rfl | rfl | rfl | rfl | rfl | rfl | rfl | rfl
    · exact fresh (by decide)
    · exact fresh (by decide)
    · exact fresh (by decide)
    · exact unsigned (inHost member)
    · have opened := formed.netloc.brackets.2 (hostInside (inHost member))
      exact closed member (openInside opened)
    · exact absurd safe (by decide)
    · exact absurd safe (by decide)
    · exact absurd safe (by decide)
  · exact fun c member => hostInside (inHost member)
  · rw [encodesTo, same]
  · rw [parts.origin_eq, isScheme, lowerScheme, canonicalAuthority, isScheme, lowerScheme, same,
      lowerRest.lowerAscii_eq]

/-! ## The texts that read back as they stand -/

theorem fresh_of_bare {text : List Char} (bare : ∀ c ∈ text, c ∉ hostDelimiters) {d : Char}
    (delimiter : d ∈ hostDelimiters) : d ∉ text :=
  fun member => bare d member delimiter

theorem portSuffix_bare (scheme : List Char) (port : Option Nat) :
    ∀ c ∈ portSuffix scheme port, c ∉ hostDelimiters ∧ c ≠ '[' ∧ c ≠ '.' := by
  intro c member
  rcases portSuffix_chars scheme port c member with rfl | digit
  · decide
  · refine ⟨?_, ?_, ?_⟩
    · intro delimiter
      simp only [hostDelimiters, List.mem_cons, List.not_mem_nil, or_false] at delimiter
      rcases delimiter with rfl | rfl | rfl | rfl | rfl | rfl | rfl | rfl <;>
        exact absurd digit (by decide)
    · rintro rfl
      exact absurd digit (by decide)
    · rintro rfl
      exact absurd digit (by decide)

section Clean

variable {authority : List Char}

theorem clean_of_bare (fresh : ∀ c ∈ authority, c ∈ hostDelimiters → c = ']') :
    (authority.filter fun c => !isUnsafe c) = authority ∧
      ∀ c ∈ authority, c ∉ netlocStops := by
  have other : ∀ c ∈ authority, c ∈ hostDelimiters → c ≠ ']' → False :=
    fun c member delimiter differs => differs (fresh c member delimiter)
  refine ⟨?_, ?_⟩
  · rw [List.filter_eq_self]
    intro c member
    rw [Bool.not_eq_true', Bool.eq_false_iff]
    intro marked
    simp only [isUnsafe, Bool.or_eq_true, decide_eq_true_eq] at marked
    rcases marked with (rfl | rfl) | rfl <;> exact other _ member (by decide) (by decide)
  · intro c member stop
    simp only [netlocStops, List.mem_cons, List.not_mem_nil, or_false] at stop
    rcases stop with rfl | rfl | rfl <;> exact other _ member (by decide) (by decide)

/-- A URL that is a scheme and an authority that nothing in it ends or garbles. -/
theorem urlsplit_clean (codec : HostCodec) (network : scheme = http ∨ scheme = https)
    (ascii : ∀ c ∈ authority, isAscii c = true)
    (fresh : ∀ c ∈ authority, c ∈ hostDelimiters → c = ']')
    (balanced : '[' ∈ authority ↔ ']' ∈ authority)
    (accepted : '[' ∈ authority → codec.rejectsBrackets authority = false) :
    urlsplit codec (scheme ++ "://".toList ++ authority) =
      some ⟨scheme, authority, [], [], []⟩ := by
  obtain ⟨kept, unstopped⟩ := clean_of_bare fresh
  have whole : breakAt ['/', '?', '#'] authority = (authority, []) := breakAt_eq_self unstopped
  have all : authority.all isAscii = true := List.all_eq_true.mpr ascii
  have bracketed : (authority.contains '[' && codec.rejectsBrackets authority) = false := by
    by_cases opened : '[' ∈ authority
    · rw [accepted opened, Bool.and_false]
    · simp [opened]
  have same : (authority.contains '[' != authority.contains ']') = false := by
    simp only [List.contains_eq_mem, bne_eq_false_iff_eq, decide_eq_decide]
    exact balanced
  rw [urlsplit_network network, kept]
  simp only [splitNetloc, whole, bracketed, same, all, Bool.not_true, Bool.false_and,
    Bool.false_eq_true, if_false, Option.map_some]
  rfl

/-- All of such an authority is the authority that is read. -/
theorem netloc_of_clean (network : scheme = http ∨ scheme = https) {r : SplitResult}
    (fresh : ∀ c ∈ authority, c ∈ hostDelimiters → c = ']')
    (split : urlsplit codec (scheme ++ "://".toList ++ authority) = some r) :
    r.netloc = authority := by
  obtain ⟨kept, unstopped⟩ := clean_of_bare fresh
  rw [urlsplit_network network, kept] at split
  obtain ⟨⟨netloc, rest⟩, authorityOf, rfl⟩ := Option.map_eq_some_iff.mp split
  obtain ⟨-, ⟨-, -, slashless⟩ | ⟨whole, stop⟩⟩ := splitNetloc_cases authorityOf
  · exact absurd ⟨authority, rfl⟩ slashless
  · have parts : authority = netloc ++ rest := (List.cons.inj (List.cons.inj whole).2).2
    rcases rest with - | ⟨c, rest⟩
    · exact (parts.trans (List.append_nil _)).symm
    · exact absurd (stop c (by simp)) (unstopped c (by simp [parts]))

end Clean

theorem rstripBy_last {p : Char → Bool} (s : List Char) :
    rstripBy p s = [] ∨ ∃ front last, rstripBy p s = front ++ [last] ∧ p last = false := by
  unfold rstripBy
  rcases kept : s.reverse.dropWhile p with - | ⟨last, rest⟩
  · exact .inl rfl
  · refine .inr ⟨rest.reverse, last, by simp, ?_⟩
    have head := List.head?_dropWhile_not p s.reverse
    simpa [kept] using head

theorem rstripBy_eq_nil {p : Char → Bool} {s : List Char} (gone : rstripBy p s = []) :
    ∀ c ∈ s, p c = true := by
  unfold rstripBy at gone
  rw [List.reverse_eq_nil_iff] at gone
  have gone := List.dropWhile_eq_nil_iff.mp gone
  intro c member
  exact gone c (List.mem_reverse.mpr member)

/-! ## The host and the port of a canonical authority -/

section Parts

variable {host : List Char} {port : Option Nat}

theorem hostinfo_of_unsigned {r : SplitResult} (unsigned : '@' ∉ r.netloc) :
    r.hostinfo = r.netloc ∧ r.hasCredentials = false := by
  unfold SplitResult.hostinfo SplitResult.hasCredentials
  rw [rpartition_eq_none unsigned]
  exact ⟨rfl, rfl⟩

theorem hostAndPort_of_name {r : SplitResult} (netloc : r.netloc = host ++ portSuffix scheme port)
    (unsigned : '@' ∉ host) (unopened : '[' ∉ host) (colon : ':' ∉ host) :
    r.hostAndPort = (host, (portSuffix scheme port).drop 1) := by
  have unsigned' : '@' ∉ r.netloc := by
    rw [netloc, List.mem_append, not_or]
    exact ⟨unsigned, fun member => (portSuffix_bare _ _ _ member).1 (by decide)⟩
  have unopened' : '[' ∉ r.netloc := by
    rw [netloc, List.mem_append, not_or]
    exact ⟨unopened, fun member => (portSuffix_bare _ _ _ member).2.1 rfl⟩
  have parts : (partition ':' r.netloc).getD (r.netloc, []) = cut ':' r.netloc := rfl
  unfold SplitResult.hostAndPort
  rw [(hostinfo_of_unsigned unsigned').1, partition_eq_none unopened']
  dsimp only
  rw [parts, netloc]
  rcases portSuffix_cases scheme port with empty | ⟨n, -, -, text⟩
  · rw [empty, List.append_nil, cut_of_not_mem colon]
    rfl
  · rw [text, cut_of_mem colon]
    rfl

theorem hostAndPort_of_literal {r : SplitResult}
    (netloc : r.netloc = '[' :: (host ++ ']' :: portSuffix scheme port))
    (unsigned : '@' ∉ host) (closed : ']' ∉ host) :
    r.hostAndPort = (host, (portSuffix scheme port).drop 1) := by
  have unsigned' : '@' ∉ r.netloc := by
    rw [netloc]
    simp only [List.mem_cons, List.mem_append, not_or]
    exact ⟨by decide, unsigned, by decide, fun member => (portSuffix_bare _ _ _ member).1 (by decide)⟩
  have opened : partition '[' r.netloc = some ([], host ++ ']' :: portSuffix scheme port) := by
    rw [netloc]
    exact partition_append (List.not_mem_nil (a := '[')) _
  unfold SplitResult.hostAndPort
  rw [(hostinfo_of_unsigned unsigned').1, opened]
  dsimp only
  rw [partition_append closed]
  dsimp only [Option.getD_some]
  rcases portSuffix_cases scheme port with empty | ⟨n, -, -, text⟩
  · rw [empty]
    rfl
  · rw [text]
    rfl

/-- The port of a canonical authority is read back up to the one of the scheme. -/
theorem port_of_suffix {r : SplitResult} (text : r.hostAndPort.2 = (portSuffix scheme port).drop 1)
    (inRange : ∀ n ∈ port, n ≤ 65535) :
    ∃ port', r.port = some port' ∧ portSuffix scheme port' = portSuffix scheme port := by
  unfold SplitResult.port
  rw [text]
  rcases portSuffix_cases scheme port with empty | ⟨n, isPort, -, digits⟩
  · rw [empty]
    exact ⟨none, rfl, rfl⟩
  · have filled : (Nat.toDigits 10 n).isEmpty = false := by
      rw [List.isEmpty_eq_false_iff]
      exact Nat.toDigits_ne_nil
    have all : (Nat.toDigits 10 n).all Char.isDigit = true := List.all_eq_true.mpr isDigit_toDigits
    refine ⟨some n, ?_, ?_⟩
    · rw [digits]
      simp only [List.drop_succ_cons, List.drop_zero, filled, all, Nat.ofDigitChars_ten_toDigits,
        inRange n isPort, Bool.false_eq_true, if_false, if_true]
    · rw [isPort]

/-- The origin of a URL whose host is encoded. -/
theorem origin_of_hostAndPort (lawful : codec.Lawful) (network : scheme = http ∨ scheme = https)
    {r : SplitResult} {url : List Char} (split : urlsplit codec url = some r)
    (isScheme : r.scheme = scheme) (unsigned : '@' ∉ r.netloc)
    (hostAndPort : r.hostAndPort = (host, (portSuffix scheme port).drop 1)) (lower : LowerText host)
    (filled : host ≠ []) (last : ∀ c ∈ host.getLast?, c ≠ '.') (encoded : codec.idna host = some host)
    (inRange : ∀ n ∈ port, n ≤ 65535) :
    origin codec url = scheme ++ "://".toList ++ (bracketHost host ++ portSuffix scheme port) := by
  have lowerScheme : lowerAscii scheme = scheme := by
    rcases network with rfl | rfl <;> decide
  have isHost : r.hostAndPort.1 = host := congrArg Prod.fst hostAndPort
  have hostname : r.hostname codec = host := by
    rw [hostname_of_lower lawful (isHost ▸ lower), isHost]
  obtain ⟨port', isPort, samePort⟩ := port_of_suffix (congrArg Prod.snd hostAndPort) inRange
  have kept : rstripBy (· = '.') host = host := by
    obtain rfl | ⟨front, c, rfl⟩ := List.eq_nil_or_concat host
    · rfl
    · rw [List.concat_eq_append] at last ⊢
      exact rstripBy_append_of_last (p := (· = '.')) (decide_eq_false (last c (by simp))) front
  have parts : OriginParts codec url r host port' := by
    refine ⟨split, ?_, ?_, (hostinfo_of_unsigned unsigned).2, ?_, isPort⟩
    · rw [isScheme, lowerScheme]
      exact network
    · rw [hostname]
      exact filled
    · rw [hostname, kept]
      exact encoded
  rw [parts.origin_eq, canonicalAuthority, isScheme, lowerScheme, lower.lowerAscii_eq, samePort]

theorem bracketHost_of_name (colon : ':' ∉ host) : bracketHost host = host := by
  simp [bracketHost, colon]

theorem bracketHost_of_literal (colon : ':' ∈ host) (head : host.head? ≠ some '[') :
    bracketHost host = '[' :: host ++ [']'] := by
  simp [bracketHost, colon, head]

/-- A settled host is read back, with its port. -/
theorem Settled.origin_eq (lawful : codec.Lawful) (network : scheme = http ∨ scheme = https)
    (settled : Settled codec scheme host port) (lower : LowerText host) :
    origin codec (scheme ++ "://".toList ++ (bracketHost host ++ portSuffix scheme port)) =
      scheme ++ "://".toList ++ (bracketHost host ++ portSuffix scheme port) := by
  have unsigned := fresh_of_bare settled.bare (d := '@') (by decide)
  have closed := fresh_of_bare settled.bare (d := ']') (by decide)
  have ports := portSuffix_bare scheme port
  have ascii := ((lowerText_bracketHost lower).append (lowerText_portSuffix scheme port)).ascii
  have last : ∀ c ∈ host.getLast?, c ≠ '.' := fun c member => (settled.last c member).1
  by_cases colon : ':' ∈ host
  · obtain ⟨head, accepted⟩ := settled.literal colon
    have shape : bracketHost host ++ portSuffix scheme port =
        '[' :: (host ++ ']' :: portSuffix scheme port) := by
      rw [bracketHost_of_literal colon head]
      simp
    have fresh : ∀ c ∈ '[' :: (host ++ ']' :: portSuffix scheme port), c ∈ hostDelimiters → c = ']' := by
      intro c member delimiter
      simp only [List.mem_cons, List.mem_append] at member
      rcases member with rfl | inHost | isClosing | inPort
      · exact absurd delimiter (by decide)
      · exact absurd delimiter (settled.bare c inHost)
      · exact isClosing
      · exact absurd delimiter (ports c inPort).1
    have split := urlsplit_clean codec network (shape ▸ ascii) fresh (by simp)
      fun _ => accepted
    have unsigned' : '@' ∉ '[' :: (host ++ ']' :: portSuffix scheme port) := fun member =>
      absurd (fresh _ member (by decide)) (by decide)
    rw [← shape] at split
    refine origin_of_hostAndPort lawful network split rfl ?_ ?_ lower settled.filled last
      settled.encoded settled.inRange
    · rw [shape]
      exact unsigned'
    · exact hostAndPort_of_literal shape unsigned closed
  · have unopened := settled.name colon
    have shape := bracketHost_of_name colon
    have fresh : ∀ c ∈ host ++ portSuffix scheme port, c ∉ hostDelimiters ∧ c ≠ '[' := by
      intro c member
      rcases List.mem_append.mp member with inHost | inPort
      · exact ⟨settled.bare c inHost, fun same => unopened (same ▸ inHost)⟩
      · exact ⟨(ports c inPort).1, (ports c inPort).2.1⟩
    have noOpening : '[' ∉ host ++ portSuffix scheme port := fun member => (fresh _ member).2 rfl
    have noClosing : ']' ∉ host ++ portSuffix scheme port := fun member =>
      (fresh _ member).1 (by decide)
    have split := urlsplit_clean codec network (shape ▸ ascii)
      (fun c member delimiter => absurd delimiter (fresh c member).1)
      (iff_of_false noOpening noClosing) fun opened => absurd opened noOpening
    rw [← shape] at split
    refine origin_of_hostAndPort lawful network split rfl ?_ ?_ lower settled.filled last
      settled.encoded settled.inRange
    · rw [shape]
      exact fun member => (fresh _ member).1 (by decide)
    · exact hostAndPort_of_name (by rw [shape]) unsigned unopened colon

variable {authority front : List Char} {r : SplitResult}

theorem LowerRead.bare_rstrip (read : LowerRead codec scheme authority r port) :
    ∀ c ∈ rstripBy (· = '.') r.hostAndPort.1, c ∉ hostDelimiters :=
  fun c member => read.bare c (rstripBy_subset _ member)

/-- What a canonical authority may hold of the characters that end a host. -/
theorem canonical_delimiters (bare : ∀ c ∈ host, c ∉ hostDelimiters) :
    ∀ c ∈ bracketHost host ++ portSuffix scheme port, c ∈ hostDelimiters → c = ']' := by
  intro c member delimiter
  rcases List.mem_append.mp member with inHost | inPort
  · unfold bracketHost at inHost
    split at inHost
    · simp only [List.cons_append, List.mem_cons, List.mem_append, List.not_mem_nil, or_false] at inHost
      rcases inHost with rfl | inHost | isClosing
      · exact absurd delimiter (by decide)
      · exact absurd delimiter (bare c inHost)
      · exact isClosing
    · exact absurd delimiter (bare c inHost)
  · exact absurd delimiter (portSuffix_bare scheme port c inPort).1

/-- An unbracketed host that is read holds no bracket. -/
theorem LowerRead.unopened (read : LowerRead codec scheme authority r port) (front : List Char)
    (whole : r.netloc = front ++ rstripBy (· = '.') r.hostAndPort.1 ++ portSuffix scheme port)
    (plain : ∀ c ∈ front, c ≠ ']') : '[' ∉ r.netloc := by
  intro opened
  have closed := (read.isNetloc.brackets.1 opened).1
  rw [whole, List.mem_append, List.mem_append] at closed
  rcases closed with (inFront | inHost) | inPort
  · exact plain _ inFront rfl
  · exact read.bare_rstrip _ inHost (by decide)
  · exact (portSuffix_bare scheme port _ inPort).1 (by decide)

/-- Only a settled host is read back, with its port. -/
theorem settled_of_readsBack (network : scheme = http ∨ scheme = https)
    (read : LowerRead codec scheme (bracketHost host ++ portSuffix scheme port) r port)
    (isHost : rstripBy (· = '.') r.hostAndPort.1 = host) (unstarred : contains star host = false)
    (visible : ∀ c ∈ (bracketHost host ++ portSuffix scheme port).getLast?, isSpace c = false) :
    Settled codec scheme host port := by
  have bare := isHost ▸ read.bare_rstrip
  have netloc := netloc_of_clean network (canonical_delimiters bare) read.split
  have unopened (unbracketed : bracketHost host = host) : '[' ∉ r.netloc := by
    apply read.unopened []
    · rw [netloc, unbracketed, isHost]
      rfl
    · simp
  have inside : host ⊆ r.netloc := by
    rw [← isHost]
    exact List.Subset.trans (rstripBy_subset _) read.host
  have notDot : ∀ c ∈ host.getLast?, c ≠ '.' := by
    rcases rstripBy_last (p := (· = '.')) r.hostAndPort.1 with empty | ⟨front, last, whole, kept⟩
    · rw [← isHost, empty]
      simp
    · rw [← isHost, whole]
      intro c member
      obtain rfl : last = c := by simpa using member
      simpa using kept
  refine ⟨?_, bare, unstarred, isHost ▸ read.encoded, ?_, ?_, ?_, read.inRange⟩
  · intro empty
    -- then the host that was read is made of dots, which a port has none of
    rcases filled : r.hostAndPort.1 with - | ⟨c, rest⟩
    · exact read.filled filled
    · have dots := rstripBy_eq_nil (isHost.trans empty) c (by simp [filled])
      obtain rfl : c = '.' := by simpa using dots
      have there : '.' ∈ r.netloc := read.host (by simp [filled])
      rw [netloc, empty] at there
      exact (portSuffix_bare scheme port _ there).2.2 rfl
  · intro c member
    refine ⟨notDot c member, fun colon noPort => visible c ?_⟩
    rw [bracketHost_of_name colon, noPort, List.append_nil]
    exact member
  · intro colon opened
    exact unopened (bracketHost_of_name colon) (inside opened)
  · intro colon
    have head : host.head? ≠ some '[' := by
      intro opened
      have unbracketed : bracketHost host = host := by simp [bracketHost, opened]
      exact unopened unbracketed (inside (List.mem_of_mem_head? opened))
    refine ⟨head, ?_⟩
    have shape : bracketHost host ++ portSuffix scheme port =
        '[' :: (host ++ ']' :: portSuffix scheme port) := by
      rw [bracketHost_of_literal colon head]
      simp
    rw [← shape, ← netloc]
    apply (read.isNetloc.brackets.1 _).2
    rw [netloc, shape]
    exact List.mem_cons_self

/-- A placeholder label in front of a host is read as part of it. -/
theorem placeholder_not_readsBack (network : scheme = http ∨ scheme = https)
    (read : LowerRead codec scheme ("host.".toList ++ (bracketHost host ++ portSuffix scheme port)) r port)
    (isHost : rstripBy (· = '.') r.hostAndPort.1 = host)
    (unbracketed : bracketHost host = host) : False := by
  have bare := isHost ▸ read.bare_rstrip
  have fresh : ∀ c ∈ "host.".toList ++ (bracketHost host ++ portSuffix scheme port),
      c ∈ hostDelimiters → c = ']' := by
    intro c member delimiter
    rcases List.mem_append.mp member with inLabel | later
    · have table : ∀ c ∈ "host.".toList, c ∉ hostDelimiters := by decide
      exact absurd delimiter (table c inLabel)
    · exact canonical_delimiters bare c later delimiter
  have netloc : r.netloc = ("host.".toList ++ host) ++ portSuffix scheme port := by
    rw [netloc_of_clean network fresh read.split, unbracketed, List.append_assoc]
  have unopened : '[' ∉ r.netloc := by
    apply read.unopened "host.".toList
    · rw [netloc, isHost]
    · decide
  have hostInside : host ⊆ r.hostAndPort.1 := by
    rw [← isHost]
    exact rstripBy_subset _
  have parts : r.hostAndPort.1 = (cut ':' r.netloc).1 := by
    have unsigned : '@' ∉ r.netloc := by
      rw [netloc, List.mem_append, List.mem_append, not_or, not_or]
      exact ⟨⟨by decide, fresh_of_bare bare (by decide)⟩, fun member =>
        (portSuffix_bare scheme port _ member).1 (by decide)⟩
    unfold SplitResult.hostAndPort
    rw [(hostinfo_of_unsigned unsigned).1, partition_eq_none unopened]
    rfl
  have colon : ':' ∉ "host.".toList ++ host := by
    rw [List.mem_append, not_or]
    refine ⟨by decide, fun member => ?_⟩
    have there := hostInside member
    rw [parts] at there
    exact cut_fresh _ _ there
  have longer : r.hostAndPort.1 = "host.".toList ++ host := by
    rw [parts, netloc]
    rcases portSuffix_cases scheme port with empty | ⟨n, -, -, text⟩
    · rw [empty, List.append_nil, cut_of_not_mem colon]
    · rw [text, cut_of_mem colon]
  rw [longer] at isHost
  obtain empty | ⟨front, last, whole⟩ := List.eq_nil_or_concat host
  · rw [empty] at isHost
    exact absurd isHost (by decide)
  · rcases rstripBy_last (p := (· = '.')) ("host.".toList ++ host) with gone | ⟨_, c, kept, notDot⟩
    · rw [isHost, whole] at gone
      simp at gone
    · rw [isHost, whole, List.concat_eq_append] at kept
      obtain ⟨-, rfl⟩ : _ ∧ last = c := by simpa using kept
      rw [whole, List.concat_eq_append, ← List.append_assoc, rstripBy_append_of_last notDot] at isHost
      have lengths := congrArg List.length isHost
      simp only [List.length_append] at lengths
      have label : "host.".toList.length = 5 := rfl
      omega

end Parts

/-! ## Stars -/

theorem splitFirst_eq_some {sep s before after : List Char}
    (split : splitFirst sep s = some (before, after)) : s = before ++ sep ++ after := by
  induction s generalizing before with
  | nil =>
      unfold splitFirst at split
      split at split
      · next empty =>
          cases split
          rw [empty]
          rfl
      · cases split
  | cons x s ih =>
      unfold splitFirst at split
      split at split
      · next found =>
          cases split
          obtain ⟨later, whole⟩ := List.isPrefixOf_iff_prefix.mp found
          rw [← whole, List.drop_left, List.nil_append]
      · obtain ⟨⟨before', after'⟩, inner, same⟩ := Option.map_eq_some_iff.mp split
        cases same
        rw [ih inner]
        rfl

theorem contains_eq_isSome (sep s : List Char) : contains sep s = (splitFirst sep s).isSome := by
  induction s with
  | nil =>
      unfold splitFirst
      cases sep <;> rfl
  | cons x s ih =>
      unfold contains at ih ⊢
      unfold splitFirst
      rw [List.tails_cons, List.any_cons, ih]
      split
      · next found => simp [found]
      · next missing => simp [missing]

/-- A text without a star and without a dot in front adds no `*.` after a host. -/
theorem contains_star_append (host : List Char) {rest : List Char} (fresh : '*' ∉ rest)
    (head : rest.head? ≠ some '.') : contains star (host ++ rest) = contains star host := by
  induction host with
  | nil =>
      have none : contains star rest = false := contains_eq_false fresh
      rw [List.nil_append, none]
      rfl
  | cons x host ih =>
      have step (s : List Char) :
          contains star (x :: s) = (star.isPrefixOf (x :: s) || contains star s) := by
        unfold contains
        rw [List.tails_cons, List.any_cons]
      rw [List.cons_append, step, step, ih]
      congr 1
      rcases host with - | ⟨y, host⟩
      · rcases rest with - | ⟨y, rest⟩
        · rfl
        · have other : y ≠ '.' := fun same => head (by rw [same]; rfl)
          simp [star, List.isPrefixOf, Ne.symm other]
      · simp [star, List.isPrefixOf]

theorem portSuffix_head (scheme : List Char) (port : Option Nat) :
    '*' ∉ portSuffix scheme port ∧ (portSuffix scheme port).head? ≠ some '.' := by
  refine ⟨?_, ?_⟩
  · intro member
    rcases portSuffix_chars scheme port _ member with colon | digit
    · exact absurd colon (by decide)
    · exact absurd digit (by decide)
  · intro head
    exact (portSuffix_bare scheme port '.' (List.mem_of_mem_head? head)).2.2 rfl

theorem contains_star_canonical (scheme host : List Char) (port : Option Nat) :
    contains star (bracketHost host ++ portSuffix scheme port) = contains star host := by
  obtain ⟨fresh, head⟩ := portSuffix_head scheme port
  rw [contains_star_append _ fresh head]
  unfold bracketHost
  split
  · have opened : contains star ('[' :: host) = contains star host := rfl
    rw [contains_star_append ('[' :: host) (by decide) (by decide), opened]
  · rfl

section Passes

variable {scheme : List Char}

theorem contains_star_network (network : scheme = http ∨ scheme = https) (authority : List Char) :
    contains star (scheme ++ "://".toList ++ authority) = contains star authority := by
  rcases network with rfl | rfl <;> rfl

/-- What a pass makes of a value without a star. -/
theorem policyOriginPattern_unstarred {value : List Char} (unstarred : contains star value = false) :
    policyOriginPattern codec value =
      if value = [] ∨ value ≠ stripBy isSpace value ∨ rstripBy (· = '/') value ≠ value then []
      else origin codec value := by
  have missing : splitFirst star value = none := by
    rw [contains_eq_isSome] at unstarred
    exact Option.isNone_iff_eq_none.mp (by simpa using unstarred)
  unfold policyOriginPattern
  rw [missing]
  by_cases blank : value = [] ∨ value ≠ stripBy isSpace value
  · rw [if_pos blank, if_pos (by tauto)]
  · rw [if_neg blank]
    by_cases slash : rstripBy (· = '/') value = value
    · simp only [slash, if_true]
      rw [if_neg (by tauto)]
    · simp only [slash, if_false]
      rw [if_pos (by tauto)]

/-- What a pass makes of a value with a star. -/
theorem policyOriginPattern_starred {value : List Char} (starred : contains star value = true)
    (accepted : policyOriginPattern codec value ≠ []) :
    ∃ head suffix scheme hostPort, value = head ++ star ++ suffix ∧
      (head = "http://".toList ∨ head = "https://".toList) ∧
      splitFirst "://".toList (origin codec (head ++ "host.".toList ++ suffix)) =
        some (scheme, hostPort) ∧ hostPort.head? ≠ some '[' ∧
      policyOriginPattern codec value = scheme ++ "://".toList ++ star ++ hostPort := by
  unfold policyOriginPattern at accepted ⊢
  split at accepted
  · exact absurd rfl accepted
  · next wellFormed =>
      rw [if_neg wellFormed]
      rw [contains_eq_isSome] at starred
      obtain ⟨⟨head, suffix⟩, split⟩ := Option.isSome_iff_exists.mp starred
      rw [split] at accepted ⊢
      dsimp only at accepted ⊢
      split at accepted
      · exact absurd rfl accepted
      · next once =>
          rw [if_neg once]
          split at accepted
          · exact absurd rfl accepted
          · next marks =>
              rw [if_neg marks]
              cases parts : splitFirst "://".toList (origin codec (head ++ "host.".toList ++ suffix)) with
              | none =>
                  rw [parts] at accepted
                  exact absurd rfl accepted
              | some pair =>
                  obtain ⟨scheme, hostPort⟩ := pair
                  rw [parts] at accepted
                  dsimp only at accepted ⊢
                  split at accepted
                  · exact absurd rfl accepted
                  · next unbracketed =>
                      refine ⟨head, suffix, scheme, hostPort, splitFirst_eq_some split, ?_, parts,
                        unbracketed, if_neg unbracketed⟩
                      rw [not_or] at marks
                      tauto

theorem network_text (network : scheme = http ∨ scheme = https) {head : List Char}
    (isHead : head = "http://".toList ∨ head = "https://".toList) {suffix authority : List Char}
    (same : head ++ star ++ suffix = scheme ++ "://".toList ++ authority) :
    head = scheme ++ "://".toList ∧ star ++ suffix = authority := by
  rcases network with rfl | rfl <;> rcases isHead with rfl | rfl
  · rw [List.append_assoc] at same
    exact ⟨rfl, List.append_cancel_left same⟩
  · exact absurd (congrArg (·[4]?) same) (by simp [http, star])
  · exact absurd (congrArg (·[4]?) same) (by simp [https, star])
  · rw [List.append_assoc] at same
    exact ⟨rfl, List.append_cancel_left same⟩

theorem splitFirst_network (network : scheme = http ∨ scheme = https) (authority : List Char) :
    splitFirst "://".toList (scheme ++ "://".toList ++ authority) = some (scheme, authority) := by
  apply splitFirst_append
  rcases network with rfl | rfl <;> decide

/-- A pass puts a placeholder label into every text with a star. -/
theorem policyOriginPattern_star_ne (lawful : codec.Lawful) (encodes : codec.EncodesAscii)
    (network : scheme = http ∨ scheme = https) {authority : List Char} (lower : LowerText authority)
    (starred : contains star (scheme ++ "://".toList ++ authority) = true) :
    policyOriginPattern codec (scheme ++ "://".toList ++ authority) ≠
      scheme ++ "://".toList ++ authority := by
  intro again
  have filled : scheme ++ "://".toList ++ authority ≠ [] := by simp
  obtain ⟨head, suffix, scheme', hostPort, whole, isHead, parts, unbracketed, text⟩ :=
    policyOriginPattern_starred starred (again ▸ filled)
  obtain ⟨rfl, rfl⟩ := network_text network isHead whole.symm
  have lowerPlaced : LowerText ("host.".toList ++ suffix) := by
    have label : LowerText "host.".toList := ⟨by decide, by decide⟩
    exact label.append (lower.subset (List.subset_append_right _ _))
  rw [List.append_assoc] at parts
  have accepted : origin codec (scheme ++ "://".toList ++ ("host.".toList ++ suffix)) ≠ [] := by
    intro empty
    rw [empty] at parts
    cases parts
  obtain ⟨r, port, read⟩ := origin_lower_inv lawful encodes network lowerPlaced accepted
  rw [read.text, splitFirst_network network] at parts
  obtain ⟨rfl, rfl⟩ := Prod.mk.inj (Option.some.inj parts)
  rw [text, List.append_assoc] at again
  have same : suffix = _ := (List.append_cancel_left (List.append_cancel_left again)).symm
  rw [same] at read
  refine placeholder_not_readsBack network read rfl ?_
  unfold bracketHost at unbracketed ⊢
  split
  · next bracketed =>
      rw [if_pos bracketed] at unbracketed
      exact absurd rfl unbracketed
  · rfl

theorem stripBy_of_last {p : Char → Bool} {first : Char} {rest : List Char} (head : p first = false)
    (last : ∀ c ∈ (first :: rest).getLast?, p c = false) : stripBy p (first :: rest) = first :: rest := by
  unfold stripBy
  rw [lstripBy_eq_self head]
  obtain empty | ⟨front, c, whole⟩ := List.eq_nil_or_concat (first :: rest)
  · cases empty
  · rw [whole, List.concat_eq_append] at last ⊢
    exact rstripBy_append_of_last (last c (by simp)) front

theorem rstripBy_ne_of_last {p : Char → Bool} {s : List Char} {c : Char} (last : c ∈ s.getLast?)
    (gone : p c = true) : rstripBy p s ≠ s := by
  obtain rfl | ⟨front, d, rfl⟩ := List.eq_nil_or_concat s
  · cases last
  · rw [List.concat_eq_append] at last ⊢
    obtain rfl : d = c := by simpa using last
    intro same
    rcases rstripBy_last (p := p) (front ++ [d]) with empty | ⟨front', e, kept, stays⟩
    · rw [same] at empty
      simp at empty
    · rw [same] at kept
      obtain ⟨-, rfl⟩ : _ ∧ d = e := by simpa using kept
      rw [gone] at stays
      cases stays

theorem getLast_network (scheme : List Char) {authority : List Char} (filled : authority ≠ []) :
    (scheme ++ "://".toList ++ authority).getLast? = authority.getLast? :=
  List.getLast?_append_of_ne_nil _ filled

theorem stripBy_network (network : scheme = http ∨ scheme = https) {authority : List Char}
    (filled : authority ≠ []) :
    scheme ++ "://".toList ++ authority = stripBy isSpace (scheme ++ "://".toList ++ authority) ↔
      ∀ c ∈ authority.getLast?, isSpace c = false := by
  obtain ⟨rest, whole⟩ : ∃ rest, scheme ++ "://".toList ++ authority = 'h' :: rest := by
    rcases network with rfl | rfl <;> exact ⟨_, rfl⟩
  rw [← getLast_network scheme filled, whole]
  constructor
  · intro stripped c last
    rw [Bool.eq_false_iff]
    intro blank
    apply rstripBy_ne_of_last last blank
    unfold stripBy at stripped
    rw [lstripBy_eq_self (by decide)] at stripped
    exact stripped.symm
  · exact fun visible => (stripBy_of_last (by decide) visible).symm

/-- A settled authority ends with a visible character that is not a slash. -/
theorem Settled.getLast {host : List Char} {port : Option Nat}
    (settled : Settled codec scheme host port) :
    ∀ c ∈ (bracketHost host ++ portSuffix scheme port).getLast?, isSpace c = false ∧ c ≠ '/' := by
  intro c member
  rcases portSuffix_cases scheme port with empty | ⟨n, -, -, text⟩
  · rw [empty, List.append_nil] at member
    by_cases colon : ':' ∈ host
    · rw [bracketHost_of_literal colon (settled.literal colon).1] at member
      rw [List.getLast?_concat] at member
      obtain rfl := Option.some.inj member
      decide
    · rw [bracketHost_of_name colon] at member
      refine ⟨(settled.last c member).2 colon empty, ?_⟩
      rintro rfl
      exact settled.bare _ (List.mem_of_getLast? member) (by decide)
  · have digit : c.isDigit = true := by
      rw [text, List.append_cons, List.getLast?_append_of_ne_nil _ Nat.toDigits_ne_nil] at member
      exact isDigit_toDigits c (List.mem_of_getLast? member)
    have hostChar : isHostChar c = true := by simp [isHostChar, Char.isAlphanum, digit]
    have bounds := isHostChar_toNat hostChar
    refine ⟨?_, ?_⟩
    · simp [isSpace]
      omega
    · rintro rfl
      exact absurd digit (by decide)

/-- A second pass over a canonical text gives the same text back exactly when its
authority is settled. -/
theorem policyOriginPattern_eq_self_iff (lawful : codec.Lawful) (encodes : codec.EncodesAscii)
    (network : scheme = http ∨ scheme = https) {authority : List Char} (lower : LowerText authority) :
    policyOriginPattern codec (scheme ++ "://".toList ++ authority) =
        scheme ++ "://".toList ++ authority ↔ SettledAuthority codec scheme authority := by
  constructor
  · intro again
    have unstarred : contains star (scheme ++ "://".toList ++ authority) = false := by
      rw [Bool.eq_false_iff]
      intro starred
      exact policyOriginPattern_star_ne lawful encodes network lower starred again
    rw [policyOriginPattern_unstarred unstarred] at again
    split at again
    · next refused => exact absurd again.symm (by simp)
    · next wellFormed =>
        rw [not_or, not_or, not_not, not_not] at wellFormed
        have accepted : origin codec (scheme ++ "://".toList ++ authority) ≠ [] := by
          rw [again]
          exact wellFormed.1
        obtain ⟨r, port, read⟩ := origin_lower_inv lawful encodes network lower accepted
        have text := read.text
        rw [again] at text
        obtain rfl := List.append_cancel_left text
        rw [contains_star_network network, contains_star_canonical] at unstarred
        refine ⟨_, port, settled_of_readsBack network read rfl unstarred ?_, rfl⟩
        intro c last
        have filled : bracketHost (rstripBy (· = '.') r.hostAndPort.1) ++ portSuffix scheme port ≠ [] := by
          intro empty
          rw [empty] at last
          cases last
        exact (stripBy_network network filled).mp wellFormed.2.1 c last
  · rintro ⟨host, port, settled, rfl⟩
    have lowerHost : LowerText host := lower.subset (by
      intro c member
      rw [List.mem_append]
      left
      unfold bracketHost
      split
      · simp [member]
      · exact member)
    have filled : bracketHost host ++ portSuffix scheme port ≠ [] := by
      unfold bracketHost
      split
      · simp
      · simp [settled.filled]
    have unstarred : contains star (scheme ++ "://".toList ++
        (bracketHost host ++ portSuffix scheme port)) = false := by
      rw [contains_star_network network, contains_star_canonical]
      exact settled.unstarred
    have visible := (stripBy_network network filled).mpr fun c last => (settled.getLast c last).1
    rw [policyOriginPattern_unstarred unstarred, settled.origin_eq lawful network lowerHost, if_neg]
    rw [not_or, not_or, not_not, not_not]
    refine ⟨by simp, visible, ?_⟩
    obtain empty | ⟨front, c, whole⟩ := List.eq_nil_or_concat
      (scheme ++ "://".toList ++ (bracketHost host ++ portSuffix scheme port))
    · simp at empty
    · have last : c ∈ (bracketHost host ++ portSuffix scheme port).getLast? := by
        rw [← getLast_network scheme filled, whole, List.concat_eq_append]
        simp
      rw [whole, List.concat_eq_append]
      exact rstripBy_append_of_last (p := (· = '/')) (decide_eq_false (settled.getLast c last).2) front

/-- The canonical form of what `_origin` accepts is ASCII in lower case. -/
theorem OriginParts.lowerText (encodes : codec.EncodesAscii) {value : List Char} {parsed : SplitResult}
    {encoded : List Char} {port : Option Nat} (parts : OriginParts codec value parsed encoded port) :
    LowerText (canonicalAuthority parsed encoded port) :=
  (lowerText_bracketHost (lowerText_lowerAscii (encodes.ascii _ _ parts.encodes))).append
    (lowerText_portSuffix _ _)

/-- A pass is the last one exactly for the values without a star whose host, as IDNA
encodes it, is settled. -/
theorem policyOriginPattern_again_iff (lawful : codec.Lawful) (encodes : codec.EncodesAscii)
    {value : List Char} (accepted : policyOriginPattern codec value ≠ []) :
    policyOriginPattern codec (policyOriginPattern codec value) = policyOriginPattern codec value ↔
      contains star value = false ∧
        ∃ parsed encoded port, OriginParts codec value parsed encoded port ∧
          SettledAuthority codec (lowerAscii parsed.scheme) (canonicalAuthority parsed encoded port) := by
  cases starred : contains star value with
  | true =>
      simp only [Bool.true_eq_false, false_and, iff_false]
      obtain ⟨head, suffix, scheme, hostPort, -, -, split, -, text⟩ :=
        policyOriginPattern_starred starred accepted
      have normalized : origin codec (head ++ "host.".toList ++ suffix) ≠ [] := by
        intro empty
        rw [empty] at split
        cases split
      obtain ⟨parsed, encoded, port, parts⟩ := origin_inv normalized
      rw [parts.origin_eq, splitFirst_network parts.network] at split
      obtain ⟨rfl, rfl⟩ := Prod.mk.inj (Option.some.inj split)
      have lowerStar : LowerText star := ⟨by decide, by decide⟩
      rw [text, List.append_assoc]
      apply policyOriginPattern_star_ne lawful encodes parts.network
        (lowerStar.append (parts.lowerText encodes))
      rw [contains_star_network parts.network]
      rfl
  | false =>
      rw [policyOriginPattern_unstarred starred] at accepted ⊢
      split at accepted
      · exact absurd rfl accepted
      · next wellFormed =>
          rw [if_neg wellFormed]
          obtain ⟨parsed, encoded, port, parts⟩ := origin_inv accepted
          rw [parts.origin_eq, policyOriginPattern_eq_self_iff lawful encodes parts.network
            (parts.lowerText encodes)]
          constructor
          · exact fun settled => ⟨rfl, parsed, encoded, port, parts, settled⟩
          · rintro ⟨-, parsed', encoded', port', parts', settled⟩
            obtain rfl := Option.some.inj (parts.split.symm.trans parts'.split)
            obtain rfl := Option.some.inj (parts.encodes.symm.trans parts'.encodes)
            obtain rfl := Option.some.inj (parts.port.symm.trans parts'.port)
            exact settled

end Passes

end Dingdongditch
