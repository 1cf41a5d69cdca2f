import Dingdongditch.Text.Url
import Mathlib.Data.List.Infix

/-!
# The parts of a URL

What `urlsplit` returns is well formed (`wellFormed_of_urlsplit`), and well formed
parts with a scheme are what their `geturl` splits into (`urlsplit_geturl`), so two
texts put together from such parts are equal only if the parts are
(`geturl_injective`).  `urlsplit_slash` follows one slash at the end of a URL into
the part that it becomes part of.
-/

namespace Dingdongditch.Text

/-! ## Partitions -/

theorem partition_eq_some {c : Char} {s before after : List Char}
    (split : partition c s = some (before, after)) : s = before ++ c :: after ∧ c ∉ before := by
  induction s generalizing before with
  | nil => cases split
  | cons x s ih =>
      unfold partition at split
      split at split
      · next same =>
          cases split
          rw [same]
          exact ⟨rfl, List.not_mem_nil⟩
      · next differs =>
          obtain ⟨⟨before', after'⟩, inner, same⟩ := Option.map_eq_some_iff.mp split
          cases same
          obtain ⟨whole, fresh⟩ := ih inner
          refine ⟨by rw [whole]; rfl, ?_⟩
          rw [List.mem_cons, not_or]
          exact ⟨Ne.symm differs, fresh⟩

/-- The text before and after the first `c`; all of it before, where there is none. -/
def cut (c : Char) (s : List Char) : List Char × List Char := (partition c s).getD (s, [])

theorem cut_of_mem {c : Char} {before : List Char} (fresh : c ∉ before) (after : List Char) :
    cut c (before ++ c :: after) = (before, after) := by
  rw [cut, partition_append fresh]
  rfl

theorem cut_of_not_mem {c : Char} {s : List Char} (fresh : c ∉ s) : cut c s = (s, []) := by
  rw [cut, partition_eq_none fresh]
  rfl

theorem cut_cases (c : Char) (s : List Char) :
    (c ∉ s ∧ cut c s = (s, [])) ∨
      ∃ before after, s = before ++ c :: after ∧ c ∉ before ∧ cut c s = (before, after) := by
  cases split : partition c s with
  | none =>
      have fresh : c ∉ s := by
        intro member
        obtain ⟨before, after, whole, fresh⟩ := List.eq_append_cons_of_mem member
        rw [whole, partition_append fresh] at split
        cases split
      exact .inl ⟨fresh, cut_of_not_mem fresh⟩
  | some parts =>
      obtain ⟨before, after⟩ := parts
      obtain ⟨whole, fresh⟩ := partition_eq_some split
      refine .inr ⟨before, after, whole, fresh, ?_⟩
      rw [cut, split]
      rfl

theorem cut_isPrefix (c : Char) (s : List Char) : (cut c s).1 <+: s := by
  rcases cut_cases c s with ⟨-, same⟩ | ⟨before, after, whole, -, same⟩
  · rw [same]
  · rw [same, whole]
    exact List.prefix_append _ _

theorem cut_fresh (c : Char) (s : List Char) : c ∉ (cut c s).1 := by
  rcases cut_cases c s with ⟨fresh, same⟩ | ⟨before, after, -, fresh, same⟩
  · rw [same]
    exact fresh
  · rw [same]
    exact fresh

theorem cut_snd_subset (c : Char) (s : List Char) : (cut c s).2 ⊆ s := by
  rcases cut_cases c s with ⟨-, same⟩ | ⟨before, after, whole, -, same⟩
  · rw [same]
    exact List.nil_subset _
  · rw [same, whole]
    exact List.subset_append_of_subset_right _ (List.subset_cons_self _ _)

/-! ## The steps of `urlsplit` -/

theorem urlsplit_eq (codec : HostCodec) (url : List Char) : urlsplit codec url =
    (splitNetloc codec (splitScheme (scrub url)).2).map fun (netloc, rest) =>
      ⟨(splitScheme (scrub url)).1, netloc, (cut '?' (cut '#' rest).1).1,
        (cut '?' (cut '#' rest).1).2, (cut '#' rest).2⟩ := rfl

/-- A scheme that `urlsplit` finds, in lower case. -/
structure IsScheme (scheme : List Char) : Prop where
  filled : scheme ≠ []
  letter : ∀ c ∈ scheme.head?, c.isAlpha = true
  chars : ∀ c ∈ scheme, isSchemeChar c = true
  lower : lowerAscii scheme = scheme

theorem colon_not_mem_scheme {scheme : List Char} (chars : ∀ c ∈ scheme, isSchemeChar c = true) :
    ':' ∉ scheme := by
  intro member
  have := chars _ member
  revert this
  decide

theorem splitScheme_append {scheme : List Char} (isScheme : IsScheme scheme) (rest : List Char) :
    splitScheme (scheme ++ ':' :: rest) = (scheme, rest) := by
  have split := partition_append (colon_not_mem_scheme isScheme.chars) rest
  rcases scheme with - | ⟨first, scheme⟩
  · exact absurd rfl isScheme.filled
  · have letter : first.isAlpha = true := isScheme.letter first (by simp)
    have each : (first :: scheme).all isSchemeChar = true := by
      rw [List.all_eq_true]
      exact isScheme.chars
    unfold splitScheme
    rw [List.cons_append] at split ⊢
    simp only [split, letter, each, List.isEmpty_cons, Bool.not_false, Bool.and_self, if_true,
      isScheme.lower]

theorem toLower_of_not_isUpper {c : Char} (other : ¬ c.isUpper = true) : c.toLower = c := by
  unfold Char.toLower
  rw [dif_neg]
  intro between
  exact other (isUpper_iff.mpr between)

theorem isLower_toLower {c : Char} (upper : c.isUpper = true) : c.toLower.isLower = true := by
  have between : c.val ≥ 'A'.val ∧ c.val ≤ 'Z'.val := isUpper_iff.mp upper
  have bounds := isUpper_iff.mp upper
  unfold Char.toLower
  rw [dif_pos between, isLower_iff]
  change 97 ≤ (c.val + _).toNat ∧ (c.val + _).toNat ≤ 122
  rw [UInt32.toNat_add]
  simp
  omega

theorem toLower_toLower (c : Char) : c.toLower.toLower = c.toLower := by
  by_cases upper : c.isUpper = true
  · apply toLower_of_not_isUpper
    have lower := isLower_toLower upper
    rw [isLower_iff] at lower
    rw [isUpper_iff]
    omega
  · rw [toLower_of_not_isUpper upper, toLower_of_not_isUpper upper]

theorem isAlpha_toLower {c : Char} (alpha : c.isAlpha = true) : c.toLower.isAlpha = true := by
  by_cases upper : c.isUpper = true
  · exact isAlpha_iff.mpr (.inr (isLower_toLower upper))
  · rw [toLower_of_not_isUpper upper]
    exact alpha

theorem isSchemeChar_toLower {c : Char} (char : isSchemeChar c = true) :
    isSchemeChar c.toLower = true := by
  by_cases upper : c.isUpper = true
  · have letter : c.toLower.isAlpha = true := by
      apply isAlpha_toLower
      exact isAlpha_iff.mpr (.inl upper)
    simp [isSchemeChar, Char.isAlphanum, letter]
  · rw [toLower_of_not_isUpper upper]
    exact char

/-- How a scheme comes about. -/
theorem splitScheme_cases (url : List Char) :
    splitScheme url = ([], url) ∨
      ∃ before after, url = before ++ ':' :: after ∧ IsScheme (lowerAscii before) ∧
        ∀ after', splitScheme (before ++ ':' :: after') = (lowerAscii before, after') := by
  cases split : partition ':' url with
  | none =>
      left
      unfold splitScheme
      rw [split]
      split
      · contradiction
      · rfl
  | some parts =>
      obtain ⟨before, after⟩ := parts
      obtain ⟨whole, fresh⟩ := partition_eq_some split
      rcases before with - | ⟨first, before⟩
      · left
        rw [whole]
        rfl
      · by_cases named : (first.isAlpha && (first :: before).all isSchemeChar) = true
        · right
          rw [Bool.and_eq_true] at named
          have chars := List.all_eq_true.mp named.2
          refine ⟨first :: before, after, whole, ⟨by simp [lowerAscii], ?_, ?_, ?_⟩, ?_⟩
          · intro c head
            simp only [lowerAscii, List.map_cons, List.head?_cons, Option.mem_some_iff] at head
            rw [← head]
            exact isAlpha_toLower named.1
          · intro c member
            obtain ⟨d, there, same⟩ := List.mem_map.mp member
            rw [← same]
            exact isSchemeChar_toLower (chars d there)
          · unfold lowerAscii
            rw [List.map_map]
            exact List.map_congr_left fun c _ => toLower_toLower c
          · intro after'
            have again := partition_append fresh after'
            unfold splitScheme
            rw [List.cons_append] at again ⊢
            simp only [again, named.1, named.2, List.isEmpty_cons, Bool.not_false, Bool.and_self,
              if_true]
        · left
          unfold splitScheme
          rw [split, whole]
          simp only [List.cons_append]
          rw [if_neg]
          rw [Bool.and_eq_true] at named
          simp only [List.isEmpty_cons, Bool.not_false, Bool.true_and, Bool.and_eq_true]
          exact named

theorem scrub_append {front : List Char} (nonempty : front ≠ [])
    (printable : ∀ c ∈ front, 32 < c.toNat) (s : List Char) :
    scrub (front ++ s) = front ++ s.filter fun c => !isUnsafe c := by
  have kept := scrub_eq_self printable
  cases front with
  | nil => exact absurd rfl nonempty
  | cons first front =>
      have above := printable first List.mem_cons_self
      have visible : decide (first.toNat ≤ 32) = false := decide_eq_false (by omega)
      rw [scrub, lstripBy_eq_self visible] at kept
      rw [scrub, List.cons_append, lstripBy_eq_self visible, ← List.cons_append,
        List.filter_append, kept]

/-! ## Authorities -/

/-- The characters that end an authority. -/
def netlocStops : List Char := ['/', '?', '#']

theorem breakAt_append_self {stops : List Char} (s : List Char) :
    (breakAt stops s).1 ++ (breakAt stops s).2 = s := by
  induction s with
  | nil => rfl
  | cons x s ih =>
      unfold breakAt
      split
      · rfl
      · rw [List.cons_append, ih]

theorem breakAt_snd_head {stops : List Char} (s : List Char) :
    ∀ c ∈ (breakAt stops s).2.head?, c ∈ stops := by
  induction s with
  | nil => simp [breakAt]
  | cons x s ih =>
      unfold breakAt
      split
      · next stop => simpa using stop
      · exact ih

theorem breakAt_append_stop {stops s rest : List Char} (fresh : ∀ x ∈ s, x ∉ stops)
    (stop : ∀ c ∈ rest.head?, c ∈ stops) : breakAt stops (s ++ rest) = (s, rest) := by
  rcases rest with - | ⟨c, rest⟩
  · rw [List.append_nil]
    exact breakAt_eq_self fresh
  · exact breakAt_append (stop c (by simp)) fresh

/-- An authority that `urlsplit` accepts, as it stands in front of the rest of a URL. -/
structure IsNetloc (codec : HostCodec) (netloc : List Char) : Prop where
  fresh : ∀ c ∈ netloc, c ∉ netlocStops
  split : ∀ rest : List Char, (∀ c ∈ rest.head?, c ∈ netlocStops) →
    splitNetloc codec ('/' :: '/' :: (netloc ++ rest)) = some (netloc, rest)

theorem splitNetloc_of_no_slashes {codec : HostCodec} {url : List Char}
    (noSlashes : ¬ ['/', '/'] <+: url) : splitNetloc codec url = some ([], url) := by
  unfold splitNetloc
  split
  · next rest => exact absurd ⟨rest, rfl⟩ noSlashes
  · rfl

theorem IsNetloc.nil (codec : HostCodec) : IsNetloc codec [] := by
  refine ⟨by simp, ?_⟩
  intro rest stop
  have whole : breakAt ['/', '?', '#'] rest = ([], rest) := breakAt_append_stop (s := []) (by simp) stop
  rw [List.nil_append]
  simp [splitNetloc, whole]

/-- How an authority comes about. -/
theorem splitNetloc_cases {codec : HostCodec} {url netloc rest : List Char}
    (split : splitNetloc codec url = some (netloc, rest)) :
    IsNetloc codec netloc ∧
      ((netloc = [] ∧ rest = url ∧ ¬ ['/', '/'] <+: url) ∨
        url = '/' :: '/' :: (netloc ++ rest) ∧ ∀ c ∈ rest.head?, c ∈ netlocStops) := by
  by_cases slashes : ['/', '/'] <+: url
  · obtain ⟨after, rfl⟩ := slashes
    have whole : (breakAt netlocStops after).1 ++ (breakAt netlocStops after).2 = after :=
      breakAt_append_self after
    have fresh : ∀ c ∈ (breakAt netlocStops after).1, c ∉ netlocStops := breakAt_fresh after
    have head : ∀ c ∈ (breakAt netlocStops after).2.head?, c ∈ netlocStops :=
      breakAt_snd_head after
    simp only [List.cons_append, List.nil_append, splitNetloc] at split ⊢
    split at split
    · cases split
    split at split
    · cases split
    split at split
    · cases split
    next brackets bracketed ascii =>
      cases split
      refine ⟨⟨fresh, ?_⟩, .inr ⟨?_, head⟩⟩
      · intro rest stop
        have again : breakAt ['/', '?', '#'] ((breakAt ['/', '?', '#'] after).1 ++ rest) =
            ((breakAt ['/', '?', '#'] after).1, rest) := breakAt_append_stop fresh stop
        simp only [splitNetloc, again]
        rw [if_neg brackets, if_neg bracketed, if_neg ascii]
      · exact congrArg (fun s => '/' :: '/' :: s) whole.symm
  · rw [splitNetloc_of_no_slashes slashes] at split
    cases split
    exact ⟨.nil codec, .inl ⟨rfl, rfl, slashes⟩⟩

/-! ## Well formed parts -/

namespace SplitResult

/-- What `urlsplit` returns for a URL with a scheme. -/
structure WellFormed (codec : HostCodec) (r : SplitResult) : Prop where
  scheme : IsScheme r.scheme
  netloc : IsNetloc codec r.netloc
  rooted : r.netloc ≠ [] → ∀ c ∈ r.path.head?, c = '/'
  path : '?' ∉ r.path ∧ '#' ∉ r.path
  query : '#' ∉ r.query
  clean : ∀ c ∈ r.netloc ++ r.path ++ r.query ++ r.fragment, isUnsafe c = false

/-- The authority and the path, as `geturl` writes them. -/
def hier (r : SplitResult) : List Char :=
  if r.netloc ≠ [] then '/' :: '/' :: (r.netloc ++ r.path)
  else if ['/', '/'] <+: r.path ∨ (usesNetloc.contains (String.ofList r.scheme) = true ∧
      (r.path = [] ∨ r.path.head? = some '/')) then '/' :: '/' :: r.path
  else r.path

/-- The query and the fragment, as `geturl` writes them. -/
def tail (r : SplitResult) : List Char :=
  (if r.query ≠ [] then '?' :: r.query else []) ++ (if r.fragment ≠ [] then '#' :: r.fragment else [])

section WellFormed

variable {codec : HostCodec} {r : SplitResult}

theorem WellFormed.geturl_eq (formed : r.WellFormed codec) :
    r.geturl = r.scheme ++ ':' :: (r.hier ++ r.tail) := by
  have named := formed.scheme.filled
  have bare : ¬ (r.netloc ≠ [] ∧ r.path ≠ [] ∧ r.path.head? ≠ some '/') := by
    rintro ⟨authority, filled, unrooted⟩
    rcases same : r.path with - | ⟨c, path⟩
    · exact filled same
    · have root := formed.rooted authority c (by simp [same])
      rw [same, root] at unrooted
      exact unrooted rfl
  unfold geturl hier tail
  by_cases authority : r.netloc ≠ []
  · have rooted : ¬ (r.path ≠ [] ∧ r.path.head? ≠ some '/') := fun h => bare ⟨authority, h⟩
    simp [authority, rooted, named]
  · by_cases slashes : ['/', '/'] <+: r.path
    · have found := List.isPrefixOf_iff_prefix.mpr slashes
      simp [authority, named, slashes, found]
    · have missing : ['/', '/'].isPrefixOf r.path = false := by
        rw [Bool.eq_false_iff, ne_eq, List.isPrefixOf_iff_prefix]
        exact slashes
      by_cases known : usesNetloc.contains (String.ofList r.scheme) = true ∧
          (r.path = [] ∨ r.path.head? = some '/')
      · simp [authority, named, slashes, missing, known]
      · simp [authority, named, slashes, missing]

theorem tail_head (r : SplitResult) : ∀ c ∈ r.tail.head?, c = '?' ∨ c = '#' := by
  unfold tail
  intro c head
  by_cases asked : r.query ≠ []
  · rw [if_pos asked] at head
    left
    simpa using head.symm
  · rw [if_neg asked, List.nil_append] at head
    by_cases marked : r.fragment ≠ []
    · rw [if_pos marked] at head
      right
      simpa using head.symm
    · rw [if_neg marked] at head
      cases head

theorem WellFormed.splitNetloc_eq (formed : r.WellFormed codec) :
    splitNetloc codec (r.hier ++ r.tail) = some (r.netloc, r.path ++ r.tail) := by
  have tailStop : ∀ c ∈ r.tail.head?, c ∈ netlocStops := by
    intro c head
    rcases r.tail_head c head with rfl | rfl <;> decide
  unfold hier
  by_cases authority : r.netloc ≠ []
  · rw [if_pos authority, List.cons_append, List.cons_append, List.append_assoc]
    apply formed.netloc.split
    rcases path : r.path with - | ⟨c, path'⟩
    · exact tailStop
    · intro d head
      have rooted := formed.rooted authority c (by simp [path])
      have first : c = d := by simpa using head
      rw [← first, rooted]
      decide
  · rw [if_neg authority, not_ne_iff.mp authority]
    split
    · next slashes =>
        apply (IsNetloc.nil codec).split
        rcases path : r.path with - | ⟨c, path'⟩
        · exact tailStop
        · intro d head
          have first : c = d := by simpa using head
          have rooted : c = '/' := by
            rw [path] at slashes
            rcases slashes with slashes | ⟨-, slashes⟩
            · exact (List.cons_prefix_cons.mp slashes).1.symm
            · simpa using slashes
          rw [← first, rooted]
          decide
    · next noSlashes =>
        apply splitNetloc_of_no_slashes
        intro slashes
        apply noSlashes
        left
        have bound : ¬ ∃ c ∈ r.tail.head?, c = '/' := by
          rintro ⟨c, head, rfl⟩
          rcases r.tail_head _ head with same | same <;> cases same
        rcases path : r.path with - | ⟨c, - | ⟨d, path'⟩⟩
        · rw [path, List.nil_append] at slashes
          obtain ⟨after, same⟩ := slashes
          rw [← same] at bound
          exact absurd ⟨'/', rfl, rfl⟩ bound
        · rw [path] at slashes
          have rest : ['/'] <+: r.tail := (List.cons_prefix_cons.mp slashes).2
          obtain ⟨after, same⟩ := rest
          rw [← same] at bound
          exact absurd ⟨'/', rfl, rfl⟩ bound
        · rw [path] at slashes
          have first := List.cons_prefix_cons.mp slashes
          have second := List.cons_prefix_cons.mp first.2
          rw [← first.1, ← second.1]
          exact ⟨path', rfl⟩

theorem cut_tail (formed : r.WellFormed codec) :
    cut '#' (r.path ++ r.tail) =
        (r.path ++ if r.query ≠ [] then '?' :: r.query else [], r.fragment) ∧
      cut '?' (r.path ++ if r.query ≠ [] then '?' :: r.query else []) = (r.path, r.query) := by
  have unmarked : '#' ∉ r.path ++ if r.query ≠ [] then '?' :: r.query else [] := by
    rw [List.mem_append, not_or]
    refine ⟨formed.path.2, ?_⟩
    split
    · rw [List.mem_cons, not_or]
      exact ⟨by decide, formed.query⟩
    · exact List.not_mem_nil
  constructor
  · unfold tail
    rw [← List.append_assoc]
    by_cases marked : r.fragment ≠ []
    · rw [if_pos marked, cut_of_mem unmarked]
    · rw [if_neg marked, List.append_nil, cut_of_not_mem unmarked, not_ne_iff.mp marked]
  · by_cases asked : r.query ≠ []
    · rw [if_pos asked, cut_of_mem formed.path.1]
    · rw [if_neg asked, List.append_nil, cut_of_not_mem formed.path.1, not_ne_iff.mp asked]

theorem scrub_of_clean {first : Char} {s : List Char} (visible : 32 < first.toNat)
    (clean : ∀ c ∈ first :: s, isUnsafe c = false) : scrub (first :: s) = first :: s := by
  have kept : decide (first.toNat ≤ 32) = false := decide_eq_false (by omega)
  rw [scrub, lstripBy_eq_self kept, List.filter_eq_self]
  intro c member
  rw [clean c member]
  rfl

theorem not_isUnsafe_of_visible {c : Char} (visible : 32 < c.toNat) : isUnsafe c = false := by
  unfold isUnsafe
  rw [Bool.or_eq_false_iff, Bool.or_eq_false_iff]
  simp only [decide_eq_false_iff_not]
  refine ⟨⟨?_, ?_⟩, ?_⟩
  all_goals
    intro same
    rw [same] at visible
    revert visible
    decide

theorem WellFormed.clean_rest (formed : r.WellFormed codec) :
    ∀ c ∈ r.hier ++ r.tail, isUnsafe c = false := by
  have clean : ∀ c, c ∈ r.netloc ∨ c ∈ r.path ∨ c ∈ r.query ∨ c ∈ r.fragment →
      isUnsafe c = false := by
    intro c member
    apply formed.clean
    simpa [or_assoc] using member
  have slash : isUnsafe '/' = false := by decide
  have mark : isUnsafe '?' = false ∧ isUnsafe '#' = false := by decide
  intro c member
  rw [List.mem_append] at member
  rcases member with member | member
  · unfold hier at member
    split at member
    · simp only [List.mem_cons, List.mem_append] at member
      rcases member with rfl | rfl | member | member
      · exact slash
      · exact slash
      · exact clean c (.inl member)
      · exact clean c (.inr (.inl member))
    · split at member
      · simp only [List.mem_cons] at member
        rcases member with rfl | rfl | member
        · exact slash
        · exact slash
        · exact clean c (.inr (.inl member))
      · exact clean c (.inr (.inl member))
  · unfold tail at member
    rw [List.mem_append] at member
    rcases member with member | member
    · split at member
      · rcases List.mem_cons.mp member with rfl | member
        · exact mark.1
        · exact clean c (.inr (.inr (.inl member)))
      · cases member
    · split at member
      · rcases List.mem_cons.mp member with rfl | member
        · exact mark.2
        · exact clean c (.inr (.inr (.inr member)))
      · cases member

theorem WellFormed.scrub_geturl (formed : r.WellFormed codec) : scrub r.geturl = r.geturl := by
  have named : ∀ c ∈ r.scheme, 32 < c.toNat := by
    intro c member
    have char := formed.scheme.chars c member
    unfold isSchemeChar at char
    by_cases plus : c = '+'
    · rw [plus]
      decide
    · have host : isHostChar c = true := by
        simp only [plus, decide_false, Bool.or_false] at char
        unfold isHostChar
        simp only [Bool.or_eq_true] at char ⊢
        tauto
      exact (isHostChar_toNat host).1
  rw [formed.geturl_eq]
  rcases same : r.scheme with - | ⟨first, scheme⟩
  · exact absurd same formed.scheme.filled
  · rw [List.cons_append]
    apply scrub_of_clean (named first (by simp [same]))
    intro c member
    rw [← List.cons_append, ← same, List.mem_append, List.mem_cons] at member
    rcases member with member | rfl | member
    · exact not_isUnsafe_of_visible (named c member)
    · decide
    · exact formed.clean_rest c member

theorem WellFormed.urlsplit_geturl (formed : r.WellFormed codec) :
    urlsplit codec r.geturl = some r := by
  rw [urlsplit_eq, formed.scrub_geturl, formed.geturl_eq, splitScheme_append formed.scheme,
    formed.splitNetloc_eq]
  simp only [Option.map_some, (cut_tail formed).1, (cut_tail formed).2]

/-- The text after the authority has the parts that are cut from it. -/
def ofRest (scheme netloc rest : List Char) : SplitResult :=
  ⟨scheme, netloc, (cut '?' (cut '#' rest).1).1, (cut '?' (cut '#' rest).1).2, (cut '#' rest).2⟩

theorem ofRest_subset (scheme netloc rest : List Char) :
    (ofRest scheme netloc rest).path ++ (ofRest scheme netloc rest).query ++
      (ofRest scheme netloc rest).fragment ⊆ rest := by
  have front : (cut '#' rest).1 ⊆ rest := (cut_isPrefix '#' rest).subset
  intro c member
  rw [List.mem_append, List.mem_append] at member
  rcases member with (member | member) | member
  · exact front ((cut_isPrefix '?' _).subset member)
  · exact front (cut_snd_subset '?' _ member)
  · exact cut_snd_subset '#' _ member

/-- How a URL with a scheme comes apart. -/
theorem urlsplit_cases {url : List Char} (split : urlsplit codec url = some r)
    (named : r.scheme ≠ []) :
    ∃ before after rest, scrub url = before ++ ':' :: after ∧ IsScheme r.scheme ∧
      (∀ after', splitScheme (before ++ ':' :: after') = (r.scheme, after')) ∧
      splitNetloc codec after = some (r.netloc, rest) ∧ r = ofRest r.scheme r.netloc rest := by
  rw [urlsplit_eq] at split
  obtain ⟨⟨netloc, rest⟩, authority, parts⟩ := Option.map_eq_some_iff.mp split
  have scheme : r.scheme = (splitScheme (scrub url)).1 := by rw [← parts]
  have isNetloc : r.netloc = netloc := by rw [← parts]
  rcases splitScheme_cases (scrub url) with unnamed | ⟨before, after, whole, isScheme, again⟩
  · rw [unnamed] at scheme
    exact absurd scheme named
  · rw [whole, again] at scheme authority
    have same : r.scheme = lowerAscii before := scheme
    refine ⟨before, after, rest, whole, ?_, ?_, ?_, ?_⟩
    · rw [same]
      exact isScheme
    · rw [same]
      exact again
    · rw [isNetloc]
      exact authority
    · rw [same, isNetloc, ← parts, whole, again]
      rfl

/-- What `urlsplit` returns for a URL with a scheme is well formed. -/
theorem wellFormed_of_urlsplit {url : List Char} (split : urlsplit codec url = some r)
    (named : r.scheme ≠ []) : r.WellFormed codec := by
  obtain ⟨before, after, rest, whole, isScheme, -, authority, parts⟩ := urlsplit_cases split named
  obtain ⟨isNetloc, cases⟩ := splitNetloc_cases authority
  have inside : after ⊆ scrub url := by
    rw [whole]
    exact List.subset_append_of_subset_right _ (List.subset_cons_self _ _)
  have netlocInside : r.netloc ⊆ after ∧ rest ⊆ after := by
    rcases cases with ⟨empty, same, -⟩ | ⟨same, -⟩
    · rw [empty, same]
      exact ⟨List.nil_subset _, List.Subset.refl _⟩
    · rw [same]
      constructor
      · intro c member
        simp [member]
      · intro c member
        simp [member]
  have restInside := ofRest_subset r.scheme r.netloc rest
  rw [← parts] at restInside
  have path : r.path = (cut '?' (cut '#' rest).1).1 := congrArg SplitResult.path parts
  have query : r.query = (cut '?' (cut '#' rest).1).2 := congrArg SplitResult.query parts
  refine ⟨isScheme, isNetloc, ?_, ⟨?_, ?_⟩, ?_, ?_⟩
  · intro filled c head
    rcases cases with ⟨empty, -, -⟩ | ⟨-, stop⟩
    · exact absurd empty filled
    · have isPrefix : r.path <+: rest := by
        rw [path]
        exact (cut_isPrefix '?' _).trans (cut_isPrefix '#' _)
      obtain ⟨later, same⟩ := isPrefix
      have first : c ∈ rest.head? := by
        rw [← same, List.head?_append, head]
        rfl
      have member : c ∈ r.path := List.mem_of_mem_head? head
      have unasked : '?' ∉ r.path := by
        rw [path]
        exact cut_fresh _ _
      have unmarked : '#' ∉ r.path := by
        rw [path]
        intro there
        exact cut_fresh '#' rest ((cut_isPrefix '?' _).subset there)
      have stops := stop c first
      simp only [netlocStops, List.mem_cons, List.not_mem_nil, or_false] at stops
      rcases stops with same | same | same
      · exact same
      · rw [same] at member
        exact absurd member unasked
      · rw [same] at member
        exact absurd member unmarked
  · rw [path]
    exact cut_fresh _ _
  · rw [path]
    intro there
    exact cut_fresh '#' rest ((cut_isPrefix '?' _).subset there)
  · rw [query]
    intro there
    exact cut_fresh '#' rest (cut_snd_subset '?' _ there)
  · intro c member
    have fromText : ∀ d ∈ after, isUnsafe d = false := fun d there =>
      not_isUnsafe_of_mem_scrub (inside there)
    apply fromText
    rw [List.append_assoc, List.append_assoc, List.mem_append, ← List.append_assoc] at member
    rcases member with member | member
    · exact netlocInside.1 member
    · exact netlocInside.2 (restInside member)

/-- Well formed parts are equal if their texts are. -/
theorem WellFormed.geturl_injective {r' : SplitResult} (formed : r.WellFormed codec)
    (formed' : r'.WellFormed codec) (same : r.geturl = r'.geturl) : r = r' := by
  have again := formed.urlsplit_geturl
  rw [same, formed'.urlsplit_geturl] at again
  exact (Option.some.inj again).symm

end WellFormed

end SplitResult

/-! ## Slashes at the end -/

/-- `s.rstrip("/")` -/
def rstripSlash (s : List Char) : List Char := rstripBy (fun c => c = '/') s

theorem rstripSlash_append (s : List Char) : rstripSlash (s ++ ['/']) = rstripSlash s := by
  simp [rstripSlash, rstripBy]

theorem rstripSlash_append_replicate (s : List Char) (n : Nat) :
    rstripSlash (s ++ List.replicate n '/') = rstripSlash s := by
  induction n with
  | zero => rw [List.replicate_zero, List.append_nil]
  | succ n ih => rw [List.replicate_succ', ← List.append_assoc, rstripSlash_append, ih]

theorem eq_rstripSlash_append (s : List Char) :
    ∃ n, s = rstripSlash s ++ List.replicate n '/' := by
  induction s using List.reverseRecOn with
  | nil => exact ⟨0, rfl⟩
  | append_singleton s c ih =>
      by_cases slash : c = '/'
      · obtain ⟨n, same⟩ := ih
        refine ⟨n + 1, ?_⟩
        rw [slash, rstripSlash_append, List.replicate_succ', ← List.append_assoc, ← same]
      · refine ⟨0, ?_⟩
        rw [rstripSlash, rstripBy_append_of_last (decide_eq_false slash)]
        exact (List.append_nil _).symm

theorem rstripSlash_idem (s : List Char) : rstripSlash (rstripSlash s) = rstripSlash s := by
  obtain ⟨n, whole⟩ := eq_rstripSlash_append s
  have same := rstripSlash_append_replicate (rstripSlash s) n
  rw [← whole] at same
  exact same.symm

theorem scrub_slash (url : List Char) : scrub (url ++ ['/']) = scrub url ++ ['/'] := by
  have kept : lstripBy (fun c : Char => decide (c.toNat ≤ 32)) (url ++ ['/']) =
      lstripBy (fun c : Char => decide (c.toNat ≤ 32)) url ++ ['/'] := by
    unfold lstripBy
    rw [List.dropWhile_append]
    split
    · next gone =>
        rw [List.isEmpty_iff.mp gone]
        rfl
    · rfl
  rw [scrub, kept, List.filter_append]
  rfl

theorem cut_slash {c : Char} (other : c ≠ '/') (s : List Char) :
    cut c (s ++ ['/']) =
      if c ∈ s then ((cut c s).1, (cut c s).2 ++ ['/']) else (s ++ ['/'], []) := by
  rcases cut_cases c s with ⟨fresh, -⟩ | ⟨before, after, whole, fresh, same⟩
  · rw [if_neg fresh]
    apply cut_of_not_mem
    simp [fresh, other]
  · have member : c ∈ s := by simp [whole]
    rw [if_pos member, same, whole, List.append_assoc]
    exact cut_of_mem fresh _

theorem splitNetloc_slash {codec : HostCodec} {after netloc rest : List Char}
    (split : splitNetloc codec after = some (netloc, rest)) :
    splitNetloc codec (after ++ ['/']) = some (netloc, rest ++ ['/']) ∨
      netloc = [] ∧ rest = ['/'] ∧ splitNetloc codec (after ++ ['/']) = some ([], []) := by
  obtain ⟨isNetloc, ⟨empty, same, noSlashes⟩ | ⟨same, stop⟩⟩ := splitNetloc_cases split
  · by_cases slashes : ['/', '/'] <+: after ++ ['/']
    · right
      have root : after = ['/'] := by
        rcases after with - | ⟨c, - | ⟨d, after⟩⟩
        · have short := slashes.length_le
          simp at short
        · rw [(List.cons_prefix_cons.mp slashes).1]
        · have first := List.cons_prefix_cons.mp slashes
          have second := List.cons_prefix_cons.mp first.2
          rw [← first.1, ← second.1] at noSlashes
          exact absurd ⟨after, rfl⟩ noSlashes
      refine ⟨empty, same.trans root, ?_⟩
      rw [root]
      exact (IsNetloc.nil codec).split [] (by simp)
    · left
      rw [splitNetloc_of_no_slashes slashes, empty, same]
  · left
    have longer := isNetloc.split (rest ++ ['/']) (by
      intro c head
      rcases rest with - | ⟨d, rest⟩
      · have root : '/' = c := by simpa using head
        rw [← root]
        decide
      · exact stop c (by simpa using head))
    rw [same, List.cons_append, List.cons_append, List.append_assoc]
    exact longer

/-- The same scheme and authority, and the same path and query up to slashes at their ends. -/
structure SplitResult.SlashEq (r r' : SplitResult) : Prop where
  scheme : r.scheme = r'.scheme
  netloc : r.netloc = r'.netloc
  path : rstripSlash r.path = rstripSlash r'.path
  query : rstripSlash r.query = rstripSlash r'.query

namespace SplitResult.SlashEq

theorem refl (r : SplitResult) : r.SlashEq r := ⟨rfl, rfl, rfl, rfl⟩

theorem symm {r r' : SplitResult} (h : r.SlashEq r') : r'.SlashEq r :=
  ⟨h.scheme.symm, h.netloc.symm, h.path.symm, h.query.symm⟩

theorem trans {r r' r'' : SplitResult} (h : r.SlashEq r') (h' : r'.SlashEq r'') : r.SlashEq r'' :=
  ⟨h.scheme.trans h'.scheme, h.netloc.trans h'.netloc, h.path.trans h'.path, h.query.trans h'.query⟩

end SplitResult.SlashEq

/-- A slash at the end of the text after the authority is at the end of the fragment, of
the query, or of the path. -/
theorem SplitResult.ofRest_slash (scheme netloc rest : List Char) :
    (ofRest scheme netloc (rest ++ ['/'])).SlashEq (ofRest scheme netloc rest) := by
  have cutWhole := cut_slash (c := '#') (by decide) rest
  by_cases marked : '#' ∈ rest
  · rw [if_pos marked] at cutWhole
    simp only [ofRest, cutWhole]
    exact ⟨rfl, rfl, rfl, rfl⟩
  · rw [if_neg marked] at cutWhole
    have bare := cut_of_not_mem marked
    have cutFront := cut_slash (c := '?') (by decide) rest
    by_cases asked : '?' ∈ rest
    · rw [if_pos asked] at cutFront
      simp only [ofRest, cutWhole, bare, cutFront]
      exact ⟨rfl, rfl, rfl, rstripSlash_append _⟩
    · rw [if_neg asked] at cutFront
      simp only [ofRest, cutWhole, bare, cutFront, cut_of_not_mem asked]
      exact ⟨rfl, rfl, rstripSlash_append _, rfl⟩

/-- A slash at the end of a URL leaves the scheme and the authority and, up to slashes at
their ends, the path and the query. -/
theorem urlsplit_slash {codec : HostCodec} {url : List Char} {r : SplitResult}
    (split : urlsplit codec url = some r) (named : r.scheme ≠ []) :
    ∃ r', urlsplit codec (url ++ ['/']) = some r' ∧ r'.SlashEq r := by
  obtain ⟨before, after, rest, whole, -, again, authority, parts⟩ := r.urlsplit_cases split named
  have longer : scrub (url ++ ['/']) = before ++ ':' :: (after ++ ['/']) := by
    rw [scrub_slash, whole, List.append_assoc]
    rfl
  have result (rest' : List Char)
      (authority' : splitNetloc codec (after ++ ['/']) = some (r.netloc, rest')) :
      urlsplit codec (url ++ ['/']) = some (.ofRest r.scheme r.netloc rest') := by
    rw [urlsplit_eq, longer, again, authority']
    rfl
  rcases splitNetloc_slash authority with authority' | ⟨empty, root, authority'⟩
  · refine ⟨_, result _ authority', ?_⟩
    have step := SplitResult.ofRest_slash r.scheme r.netloc rest
    rw [← parts] at step
    exact step
  · have whole' : splitNetloc codec (after ++ ['/']) = some (r.netloc, []) := by
      rw [empty]
      exact authority'
    refine ⟨_, result _ whole', ⟨rfl, rfl, ?_, ?_⟩⟩
    · rw [parts, root]
      rfl
    · rw [parts, root]
      rfl

theorem urlsplit_slashes {codec : HostCodec} {url : List Char} {r : SplitResult}
    (split : urlsplit codec url = some r) (named : r.scheme ≠ []) (n : Nat) :
    ∃ r', urlsplit codec (url ++ List.replicate n '/') = some r' ∧ r'.SlashEq r := by
  induction n with
  | zero =>
      rw [List.replicate_zero, List.append_nil]
      exact ⟨r, split, .refl r⟩
  | succ n ih =>
      obtain ⟨r', split', same⟩ := ih
      obtain ⟨r'', split'', step⟩ := urlsplit_slash split' (same.scheme ▸ named)
      rw [List.replicate_succ', ← List.append_assoc]
      exact ⟨r'', split'', step.trans same⟩

/-- URLs that agree up to slashes at their ends have parts that do. -/
theorem slashEq_of_rstripSlash {codec : HostCodec} {a b : List Char} {ra rb : SplitResult}
    (splitA : urlsplit codec a = some ra) (splitB : urlsplit codec b = some rb)
    (namedA : ra.scheme ≠ []) (namedB : rb.scheme ≠ []) (same : rstripSlash a = rstripSlash b) :
    ra.SlashEq rb := by
  obtain ⟨m, wholeA⟩ := eq_rstripSlash_append a
  obtain ⟨n, wholeB⟩ := eq_rstripSlash_append b
  rw [same] at wholeA
  rcases Nat.le_total m n with le | le
  · obtain ⟨r', split', step⟩ := urlsplit_slashes splitA namedA (n - m)
    have longer : a ++ List.replicate (n - m) '/' = b := by
      rw [wholeA, List.append_assoc, List.replicate_append_replicate,
        Nat.add_sub_cancel' le, ← wholeB]
    rw [longer, splitB] at split'
    cases split'
    exact step.symm
  · obtain ⟨r', split', step⟩ := urlsplit_slashes splitB namedB (m - n)
    have longer : b ++ List.replicate (m - n) '/' = a := by
      rw [wholeB, List.append_assoc, List.replicate_append_replicate,
        Nat.add_sub_cancel' le, ← wholeA]
    rw [longer, splitA] at split'
    cases split'
    exact step

end Dingdongditch.Text
