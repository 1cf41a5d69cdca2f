import Dingdongditch.Contract.Download
import Mathlib.Data.List.DropRight

/-!
# Which stored names are safe

`filename` checks a name and then shortens it, and `select` may put a number into it;
neither step is followed by the checks.  `Safe` is what the checks are for.  A name that
is not shortened is safe (`filename_inv`); a shortened one is, unless the cut leaves a
blank or a device name at its end (`safe_shortened_iff`); a numbered one is where it is
short enough (`safe_uniquified_iff`).  The components of the destination are checked for
everything but their length.
-/

namespace Dingdongditch.Download

open Text

/-! ## Safe names -/

/-- The characters that no name may have. -/
def isForbidden (c : Char) : Bool := c = '/' || c = '\\' || c = ':' || isControl c

/-- A name without its length: what makes it a plain name on every platform. -/
structure Plain (tables : UnicodeTables) (name : List Char) : Prop where
  filled : name ≠ []
  chars : ∀ c ∈ name, isForbidden c = false
  trailing : ∀ c ∈ name.getLast?, isTrailing c = false
  reserved : isReserved tables name = false

/-- A name is in the limits of the policy and of the file system. -/
structure Fits (policy : DownloadPolicy) (name : List Char) : Prop where
  length : name.length ≤ policy.maxFilenameLength
  bytes : utf8Length name ≤ 255

structure Safe (tables : UnicodeTables) (policy : DownloadPolicy) (name : List Char) : Prop where
  plain : Plain tables name
  fits : Fits policy name

/-- A name that is a child of the directory that it is looked up in. -/
def IsChild (name : List Char) : Prop :=
  name ≠ [] ∧ name ≠ ['.'] ∧ name ≠ ['.', '.'] ∧ '/' ∉ name ∧ '\\' ∉ name

variable {tables : UnicodeTables} {policy : DownloadPolicy}

theorem trailing_iff {name : List Char} :
    (∀ c ∈ name.getLast?, isTrailing c = false) ↔ rstripBy isTrailing name = name := by
  have stripped : rstripBy isTrailing name = name.rdropWhile isTrailing := rfl
  rw [stripped, List.rdropWhile_eq_self_iff]
  constructor
  · intro kept filled
    rw [kept _ (List.getLast?_eq_some_getLast filled)]
    exact Bool.false_ne_true
  · intro kept c last
    have filled : name ≠ [] := by
      intro empty
      rw [empty] at last
      cases last
    rw [List.getLast?_eq_some_getLast filled, Option.mem_some_iff] at last
    rw [← last]
    exact Bool.eq_false_iff.mpr (kept filled)

theorem rstripBy_idem (p : Char → Bool) (s : List Char) :
    rstripBy p (rstripBy p s) = rstripBy p s := List.rdropWhile_idempotent p s

theorem rstripBy_subset (p : Char → Bool) (s : List Char) : rstripBy p s ⊆ s :=
  (List.rdropWhile_prefix p s).subset

theorem firstPart_append {value : List Char} (dotted : '.' ∈ value) (rest : List Char) :
    firstPart (value ++ rest) = firstPart value := by
  obtain ⟨before, after, whole, fresh⟩ := List.eq_append_cons_of_mem dotted
  rw [whole, List.append_assoc, List.cons_append, firstPart, firstPart, cut_of_mem fresh,
    cut_of_mem fresh]

theorem firstPart_of_no_dot {value : List Char} (plain : '.' ∉ value) : firstPart value = value := by
  rw [firstPart, cut_of_not_mem plain]

theorem firstPart_append_dot {value : List Char} (plain : '.' ∉ value) (rest : List Char) :
    firstPart (value ++ '.' :: rest) = value := by
  rw [firstPart, cut_of_mem plain]

/-- The two parts of a name, as the path library finds them. -/
theorem splitSuffix_cases (name : List Char) :
    (splitSuffix name = (name, []) ∧ ∀ before after, name = before ++ '.' :: after →
        '.' ∉ after → before = [] ∨ after = []) ∨
      ∃ before after, name = before ++ '.' :: after ∧ before ≠ [] ∧ after ≠ [] ∧ '.' ∉ after ∧
        splitSuffix name = (before, '.' :: after) := by
  by_cases dotted : '.' ∈ name
  · obtain ⟨after, before, reversed, fresh⟩ :=
      List.eq_append_cons_of_mem (List.mem_reverse.mpr dotted)
    have whole : name = before.reverse ++ '.' :: after.reverse := by
      rw [← List.reverse_reverse name, reversed]
      simp
    have fresh' : '.' ∉ after.reverse := by simpa using fresh
    have split : rpartition '.' name = some (before.reverse, after.reverse) := by
      rw [whole]
      exact rpartition_append fresh' _
    by_cases parts : before.reverse ≠ [] ∧ after.reverse ≠ []
    · right
      refine ⟨before.reverse, after.reverse, whole, parts.1, parts.2, fresh', ?_⟩
      rw [splitSuffix, split]
      exact if_pos parts
    · left
      constructor
      · rw [splitSuffix, split]
        exact if_neg parts
      · intro b a same freshA
        rw [same, rpartition_append freshA] at split
        cases split
        tauto
  · left
    constructor
    · rw [splitSuffix, rpartition_eq_none dotted]
    · intro before after same
      rw [same] at dotted
      simp at dotted

theorem splitSuffix_append (name : List Char) :
    (splitSuffix name).1 ++ (splitSuffix name).2 = name := by
  rcases splitSuffix_cases name with ⟨split, -⟩ | ⟨before, after, whole, -, -, -, split⟩
  · rw [split, List.append_nil]
  · rw [split, ← whole]

/-! ## Shortened names -/

/-- The part of a name that is kept in front of its suffix. -/
def kept (policy : DownloadPolicy) (whole : List Char) : List Char :=
  whole.take (policy.maxFilenameLength - (splitSuffix whole).2.length)

/-- What `truncate` returns for a name whose suffix leaves room. -/
def shortened (policy : DownloadPolicy) (whole : List Char) : List Char :=
  if whole.length > policy.maxFilenameLength then kept policy whole ++ (splitSuffix whole).2
  else whole

/-- The name that is checked. -/
def checked (tables : UnicodeTables) (value : List Char) : List Char :=
  rstripBy isTrailing (decoded tables value)

theorem truncate_inv {whole name : List Char} (returned : truncate policy whole = .ok name) :
    name = shortened policy whole ∧
      (whole.length > policy.maxFilenameLength →
        (splitSuffix whole).2.length + 1 ≤ policy.maxFilenameLength) := by
  unfold truncate at returned
  simp only at returned
  split at returned
  · next long =>
      split at returned
      · cases returned
      · next room =>
          cases returned
          rw [shortened, if_pos long]
          exact ⟨rfl, fun _ => by omega⟩
  · next short =>
      cases returned
      rw [shortened, if_neg short]
      exact ⟨rfl, fun long => absurd long short⟩

/-- A name that is returned was checked, and then shortened. -/
theorem filename_inv {value name : List Char} {changed : Bool}
    (returned : filename tables policy value = .ok (name, changed)) :
    Plain tables (checked tables value) ∧ name = shortened policy (checked tables value) ∧
      Fits policy name ∧
      ((checked tables value).length > policy.maxFilenameLength →
        (splitSuffix (checked tables value)).2.length + 1 ≤ policy.maxFilenameLength) := by
  unfold filename at returned
  simp only at returned
  split at returned
  · cases returned
  next decodes =>
  split at returned
  · cases returned
  next flat =>
  split at returned
  · cases returned
  next noColon =>
  split at returned
  · cases returned
  next filled =>
  split at returned
  · cases returned
  next unreserved =>
  have plain : Plain tables (checked tables value) := by
    refine ⟨?_, ?_, ?_, ?_⟩
    · exact fun empty => filled (.inl empty)
    · intro c member
      have inside : c ∈ decoded tables value := rstripBy_subset isTrailing _ member
      have noControl : isControl c = false := by
        rw [← Bool.not_eq_true]
        intro control
        exact decodes (.inr (.inr (.inr (List.any_eq_true.mpr ⟨c, inside, control⟩))))
      simp only [isForbidden, noControl, Bool.or_false, Bool.or_eq_false_iff,
        decide_eq_false_iff_not]
      refine ⟨⟨?_, ?_⟩, ?_⟩
      · intro same
        rw [same] at inside
        exact flat (.inl inside)
      · intro same
        rw [same] at inside
        exact flat (.inr (.inl inside))
      · intro same
        rw [same] at inside
        exact noColon inside
    · rw [trailing_iff]
      exact rstripBy_idem _ _
    · exact Bool.eq_false_iff.mpr unreserved
  obtain ⟨shorter, truncated, returned⟩ := bind_eq_ok.mp returned
  obtain ⟨same, room⟩ := truncate_inv truncated
  split at returned
  · cases returned
  · next fits =>
      cases returned
      exact ⟨plain, same, ⟨by omega, by omega⟩, room⟩

/-! ## Which shortened names are safe -/

/-- The cut leaves no blank at the end of a name and no device name in front of its
suffix. -/
structure CutsWell (tables : UnicodeTables) (policy : DownloadPolicy) (whole : List Char) :
    Prop where
  trailing : (splitSuffix whole).2 = [] → ∀ c ∈ (kept policy whole).getLast?, isTrailing c = false
  reserved : isReserved tables (kept policy whole) = false

/-- Cutting does not touch the last character of a name with a suffix. -/
theorem getLast_suffix {whole : List Char} (suffixed : (splitSuffix whole).2 ≠ [])
    (front : List Char) :
    (front ++ (splitSuffix whole).2).getLast? = whole.getLast? := by
  have same := splitSuffix_append whole
  rw [List.getLast?_append_of_ne_nil _ suffixed]
  nth_rewrite 2 [← same]
  rw [List.getLast?_append_of_ne_nil _ suffixed]

theorem firstPart_kept_append (whole : List Char) :
    firstPart (kept policy whole ++ (splitSuffix whole).2) = firstPart (kept policy whole) := by
  by_cases dotted : '.' ∈ kept policy whole
  · exact firstPart_append dotted _
  · rw [firstPart_of_no_dot dotted]
    rcases splitSuffix_cases whole with ⟨split, -⟩ | ⟨before, after, -, -, -, -, split⟩
    · rw [split, List.append_nil]
      exact firstPart_of_no_dot dotted
    · rw [split]
      exact firstPart_append_dot dotted after

theorem shortened_subset (policy : DownloadPolicy) (whole : List Char) :
    shortened policy whole ⊆ whole := by
  unfold shortened
  split
  · intro c member
    have same := splitSuffix_append whole
    rcases List.mem_append.mp member with front | back
    · exact List.mem_of_mem_take front
    · rw [← same]
      exact List.mem_append_right _ back
  · exact List.Subset.refl _

/-- A shortened name is safe if it was not too long, or the cut was a good one. -/
theorem safe_shortened_iff {whole : List Char} (plain : Plain tables whole)
    (fits : Fits policy (shortened policy whole))
    (room : whole.length > policy.maxFilenameLength →
      (splitSuffix whole).2.length + 1 ≤ policy.maxFilenameLength) :
    Safe tables policy (shortened policy whole) ↔
      whole.length ≤ policy.maxFilenameLength ∨ CutsWell tables policy whole := by
  by_cases long : whole.length > policy.maxFilenameLength
  · have cut : shortened policy whole = kept policy whole ++ (splitSuffix whole).2 := if_pos long
    have keeps : kept policy whole ≠ [] := by
      intro empty
      have length := congrArg List.length empty
      rw [kept, List.length_take, List.length_nil] at length
      have := room long
      omega
    constructor
    · intro safe
      right
      constructor
      · intro bare c last
        apply safe.plain.trailing
        rw [cut, bare, List.append_nil]
        exact last
      · have unreserved := safe.plain.reserved
        rw [cut, isReserved, firstPart_kept_append] at unreserved
        exact unreserved
    · intro either
      rcases either with short | well
      · omega
      · refine ⟨⟨?_, ?_, ?_, ?_⟩, fits⟩
        · rw [cut]
          exact List.append_ne_nil_of_left_ne_nil keeps _
        · exact fun c member => plain.chars c (shortened_subset policy whole member)
        · rw [cut]
          by_cases bare : (splitSuffix whole).2 = []
          · rw [bare, List.append_nil]
            exact well.trailing bare
          · rw [getLast_suffix bare]
            exact plain.trailing
        · rw [cut, isReserved, firstPart_kept_append]
          exact well.reserved
  · have same : shortened policy whole = whole := if_neg long
    rw [same] at fits ⊢
    exact iff_of_true ⟨plain, fits⟩ (.inl (by omega))

/-! ## Which numbered names are safe -/

theorem collisionTag_chars (index : Nat) :
    ∀ c ∈ collisionTag index, c.isDigit = true ∨ c = ' ' ∨ c = '(' ∨ c = ')' := by
  intro c member
  simp only [collisionTag, List.mem_append, List.mem_singleton] at member
  rcases member with (member | member) | member
  · have parts : c = ' ' ∨ c = '(' := by simpa using member
    tauto
  · exact .inl (Nat.isDigit_of_mem_toDigits (by decide) (by decide) member)
  · exact .inr (.inr (.inr member))

theorem isDigit_toNat {c : Char} (digit : c.isDigit = true) : 48 ≤ c.toNat ∧ c.toNat ≤ 57 := by
  simp only [Char.isDigit, Bool.and_eq_true, decide_eq_true_eq] at digit
  exact ⟨UInt32.le_iff_toNat_le.mp digit.1, UInt32.le_iff_toNat_le.mp digit.2⟩

theorem collisionTag_plain (index : Nat) {c : Char} (member : c ∈ collisionTag index) :
    isForbidden c = false ∧ c ≠ '.' ∧ c.toNat < 128 := by
  rcases collisionTag_chars index c member with digit | rfl | rfl | rfl
  · have bounds := isDigit_toNat digit
    have other (d : Char) (outside : ¬ (48 ≤ d.toNat ∧ d.toNat ≤ 57)) : c ≠ d := by
      intro same
      rw [same] at bounds
      exact outside bounds
    refine ⟨?_, other _ (by decide), by omega⟩
    simp only [isForbidden, isControl, Bool.or_eq_false_iff, decide_eq_false_iff_not]
    exact ⟨⟨⟨other _ (by decide), other _ (by decide)⟩, other _ (by decide)⟩, by omega, by omega⟩
  all_goals decide

theorem splitSuffix_eq {before after : List Char} (stem : before ≠ []) (filled : after ≠ [])
    (fresh : '.' ∉ after) : splitSuffix (before ++ '.' :: after) = (before, '.' :: after) := by
  rw [splitSuffix, rpartition_append fresh]
  exact if_pos ⟨stem, filled⟩

/-- A cut does not give a name a suffix that it did not have. -/
theorem splitSuffix_take {whole : List Char} (bare : (splitSuffix whole).2 = [])
    (trailing : ∀ c ∈ whole.getLast?, isTrailing c = false) (n : Nat) :
    (splitSuffix (whole.take n)).2 = [] := by
  rcases splitSuffix_cases (whole.take n) with ⟨split, -⟩ | ⟨before, after, cut, stem, -, -, -⟩
  · rw [split]
  · have whole_eq : whole = before ++ '.' :: (after ++ whole.drop n) := by
      rw [← List.cons_append, ← List.append_assoc, ← cut, List.take_append_drop]
    rcases splitSuffix_cases whole with ⟨-, only⟩ | ⟨b, a, -, -, -, -, split⟩
    · have dotted : '.' ∈ whole.reverse := by
        rw [whole_eq]
        simp
      obtain ⟨a, b, reversed, fresh⟩ := List.eq_append_cons_of_mem dotted
      have last : whole = b.reverse ++ '.' :: a.reverse := by
        rw [← List.reverse_reverse whole, reversed]
        simp
      rcases only _ _ last (by simpa using fresh) with first | ends
      · rw [first, List.nil_append] at last
        rcases before with - | ⟨c, before⟩
        · exact absurd rfl stem
        · rw [last, List.cons_append] at whole_eq
          have inside : '.' ∈ a.reverse := by
            rw [(List.cons.inj whole_eq).2]
            simp
          exact absurd (by simpa using inside) fresh
      · rw [ends] at last
        have dot := trailing '.' (by rw [last]; simp)
        cases dot
    · rw [split] at bare
      cases bare

section Uniquified

variable {whole : List Char}

/-- A stored name that has a suffix ends like the name that was checked. -/
theorem getLast_shortened (plain : Plain tables whole)
    (suffixed : (splitSuffix (shortened policy whole)).2 ≠ []) :
    (shortened policy whole).getLast? = whole.getLast? := by
  unfold shortened at suffixed ⊢
  split
  · next long =>
      rw [if_pos long] at suffixed
      by_cases bare : (splitSuffix whole).2 = []
      · rw [bare, List.append_nil] at suffixed
        exact absurd (splitSuffix_take bare plain.trailing _) suffixed
      · exact getLast_suffix bare _
  · rfl

/-- Where the stem of a stored name has a dot, the name starts like the one that was checked. -/
theorem firstPart_stem
    (room : whole.length > policy.maxFilenameLength →
      (splitSuffix whole).2.length + 1 ≤ policy.maxFilenameLength)
    (dotted : '.' ∈ (splitSuffix (shortened policy whole)).1) :
    firstPart (splitSuffix (shortened policy whole)).1 = firstPart whole := by
  by_cases long : whole.length > policy.maxFilenameLength
  · have cut : shortened policy whole = kept policy whole ++ (splitSuffix whole).2 := if_pos long
    have keptDotted : '.' ∈ kept policy whole := by
      by_contra plainKept
      have keeps : kept policy whole ≠ [] := by
        intro empty
        have length := congrArg List.length empty
        rw [kept, List.length_take, List.length_nil] at length
        have := room long
        omega
      rcases splitSuffix_cases whole with ⟨split, -⟩ | ⟨before, after, -, -, filled, fresh, split⟩
      · have inside : '.' ∈ shortened policy whole := by
          rw [← splitSuffix_append (shortened policy whole)]
          exact List.mem_append_left _ dotted
        rw [cut, split, List.append_nil] at inside
        exact plainKept inside
      · rw [cut, split, splitSuffix_eq keeps filled fresh] at dotted
        exact plainKept dotted
    have stored : firstPart (shortened policy whole) = firstPart whole := by
      rw [cut, firstPart_append keptDotted]
      have front : whole = kept policy whole ++ whole.drop _ := (List.take_append_drop _ whole).symm
      nth_rewrite 2 [front]
      exact (firstPart_append keptDotted _).symm
    have first := firstPart_append dotted (splitSuffix (shortened policy whole)).2
    rw [splitSuffix_append, stored] at first
    exact first.symm
  · have same : shortened policy whole = whole := if_neg long
    rw [same] at dotted ⊢
    have first := firstPart_append dotted (splitSuffix whole).2
    rw [splitSuffix_append] at first
    exact first.symm

theorem mem_upper {c : Char} {s : List Char} (same : tables.upperChar c = [c]) (member : c ∈ s) :
    c ∈ tables.upper s := by
  rw [UnicodeTables.upper, List.mem_flatMap]
  exact ⟨c, member, by rw [same]; exact List.mem_singleton_self c⟩

theorem not_reserved_of_paren {value : List Char} (member : '(' ∈ firstPart value) :
    isReserved tables value = false := by
  have inside := mem_upper tables.upper_paren member
  have none : ∀ name ∈ RESERVED, '(' ∉ name := by decide +kernel
  rw [isReserved, decide_eq_false_iff_not]
  exact fun reserved => none _ reserved inside

theorem plain_uniquified (plain : Plain tables whole)
    (room : whole.length > policy.maxFilenameLength →
      (splitSuffix whole).2.length + 1 ≤ policy.maxFilenameLength) (index : Nat) :
    Plain tables (uniquified (shortened policy whole) index) := by
  have parts := splitSuffix_append (shortened policy whole)
  refine ⟨?_, ?_, ?_, ?_⟩
  · simp [uniquified, collisionTag]
  · intro c member
    simp only [uniquified, List.mem_append] at member
    have stored : c ∈ shortened policy whole → isForbidden c = false :=
      fun inside => plain.chars c (shortened_subset policy whole inside)
    rcases member with (member | member) | member
    · apply stored
      rw [← parts]
      exact List.mem_append_left _ member
    · exact (collisionTag_plain index member).1
    · apply stored
      rw [← parts]
      exact List.mem_append_right _ member
  · intro c last
    by_cases bare : (splitSuffix (shortened policy whole)).2 = []
    · have closing : c = ')' := by
        rw [uniquified, bare, List.append_nil, collisionTag, ← List.append_assoc,
          List.getLast?_concat] at last
        exact (Option.some.inj last).symm
      rw [closing]
      decide
    · rw [uniquified, List.getLast?_append_of_ne_nil _ bare] at last
      apply plain.trailing
      rw [← getLast_shortened plain bare, ← parts, List.getLast?_append_of_ne_nil _ bare]
      exact last
  · by_cases dotted : '.' ∈ (splitSuffix (shortened policy whole)).1
    · have unreserved := plain.reserved
      rw [isReserved, ← firstPart_stem room dotted] at unreserved
      rw [isReserved, uniquified, List.append_assoc, firstPart_append dotted]
      exact unreserved
    · apply not_reserved_of_paren
      have fresh : '.' ∉ (splitSuffix (shortened policy whole)).1 ++ collisionTag index := by
        rw [List.mem_append, not_or]
        exact ⟨dotted, fun member => (collisionTag_plain index member).2.1 rfl⟩
      have first : firstPart (uniquified (shortened policy whole) index) =
          (splitSuffix (shortened policy whole)).1 ++ collisionTag index := by
        rw [uniquified]
        rcases splitSuffix_cases (shortened policy whole) with
          ⟨split, -⟩ | ⟨before, after, -, -, -, -, split⟩
        · rw [split] at fresh ⊢
          rw [List.append_nil]
          exact firstPart_of_no_dot fresh
        · rw [split] at fresh ⊢
          exact firstPart_append_dot fresh after
      rw [first]
      simp [collisionTag]

theorem utf8Length_append (s t : List Char) : utf8Length (s ++ t) = utf8Length s + utf8Length t := by
  simp [utf8Length]

theorem utf8Length_of_ascii {s : List Char} (ascii : ∀ c ∈ s, c.toNat < 128) :
    utf8Length s = s.length := by
  induction s with
  | nil => rfl
  | cons c s ih =>
      have small : c.utf8Size = 1 := by
        rw [Char.utf8Size_eq_one_iff, UInt32.le_iff_toNat_le]
        have := ascii c List.mem_cons_self
        exact Nat.le_of_lt_succ this
      have rest := ih fun d member => ascii d (List.mem_cons_of_mem _ member)
      unfold utf8Length at rest ⊢
      rw [List.map_cons, List.sum_cons, rest, small, List.length_cons, Nat.add_comm]

theorem uniquified_length (name : List Char) (index : Nat) :
    (uniquified name index).length = name.length + (collisionTag index).length ∧
      utf8Length (uniquified name index) = utf8Length name + (collisionTag index).length := by
  have tag := utf8Length_of_ascii fun c member => (collisionTag_plain index (c := c) member).2.2
  have length := congrArg List.length (splitSuffix_append name)
  have bytes := congrArg utf8Length (splitSuffix_append name)
  rw [List.length_append] at length
  rw [utf8Length_append] at bytes
  constructor
  · simp only [uniquified, List.length_append]
    omega
  · rw [uniquified, utf8Length_append, utf8Length_append, tag]
    omega

/-- A numbered name is safe if there was room for the number. -/
theorem safe_uniquified_iff (plain : Plain tables whole)
    (room : whole.length > policy.maxFilenameLength →
      (splitSuffix whole).2.length + 1 ≤ policy.maxFilenameLength) (index : Nat) :
    Safe tables policy (uniquified (shortened policy whole) index) ↔
      whole.length + (collisionTag index).length ≤ policy.maxFilenameLength ∧
        utf8Length whole + (collisionTag index).length ≤ 255 := by
  have lengths := uniquified_length (shortened policy whole) index
  have tag : 0 < (collisionTag index).length := by
    rw [collisionTag, List.length_append]
    exact Nat.succ_pos _
  by_cases long : whole.length > policy.maxFilenameLength
  · have cut : shortened policy whole = kept policy whole ++ (splitSuffix whole).2 := if_pos long
    have full : (shortened policy whole).length = policy.maxFilenameLength := by
      have := room long
      rw [cut, List.length_append, kept, List.length_take]
      omega
    constructor
    · intro safe
      have bound := safe.fits.length
      omega
    · intro bounds
      omega
  · have same : shortened policy whole = whole := if_neg long
    rw [same] at lengths
    constructor
    · intro safe
      have bounds := safe.fits
      rw [same] at bounds
      exact ⟨by have := bounds.length; omega, by have := bounds.bytes; omega⟩
    · intro bounds
      refine ⟨plain_uniquified plain room index, ?_⟩
      rw [same]
      exact ⟨by omega, by omega⟩

end Uniquified

/-! ## Stored names -/

/-- The number that `select` puts into a name. -/
def firstFree (taken : List Char → Bool) (name : List Char) : Option Nat :=
  (List.range' 1 9999).find? fun index => !taken (uniquified name index)

theorem select_inv {taken : List Char → Bool} {name final : List Char}
    {collision : DownloadCollisionPolicy} (selected : select taken name collision = .ok final) :
    (¬ (taken name = true ∧ collision = .uniquify) ∧ final = name) ∨
      (taken name = true ∧ collision = .uniquify) ∧
        ∃ index, firstFree taken name = some index ∧ final = uniquified name index := by
  unfold select at selected
  split at selected
  · next free =>
      cases selected
      left
      refine ⟨?_, rfl⟩
      intro both
      rw [both.1] at free
      cases free
  · next isTaken =>
      cases collision with
      | reject => cases selected
      | replace =>
          cases selected
          left
          refine ⟨?_, rfl⟩
          intro both
          cases both.2
      | uniquify =>
          right
          simp only at selected
          refine ⟨⟨by simpa using isTaken, rfl⟩, ?_⟩
          split at selected
          · next index found =>
              cases selected
              exact ⟨index, found, rfl⟩
          · cases selected

/-- What the name has to be like for the stored one to be safe: with room for the number
that it gets; short enough not to be cut; or cut well. -/
def NameHolds (tables : UnicodeTables) (policy : DownloadPolicy) (taken : List Char → Bool)
    (collision : DownloadCollisionPolicy) (value : List Char) : Prop :=
  let whole := checked tables value
  if taken (shortened policy whole) = true ∧ collision = .uniquify then
    ∀ index, firstFree taken (shortened policy whole) = some index →
      whole.length + (collisionTag index).length ≤ policy.maxFilenameLength ∧
        utf8Length whole + (collisionTag index).length ≤ 255
  else whole.length ≤ policy.maxFilenameLength ∨ CutsWell tables policy whole

theorem stored_name_iff {value name final : List Char} {changed : Bool} {taken : List Char → Bool}
    {collision : DownloadCollisionPolicy}
    (returned : filename tables policy value = .ok (name, changed))
    (selected : select taken name collision = .ok final) :
    Safe tables policy final ↔ NameHolds tables policy taken collision value := by
  obtain ⟨plain, same, fits, room⟩ := filename_inv returned
  rw [same] at fits selected
  unfold NameHolds
  rcases select_inv selected with ⟨free, stored⟩ | ⟨isTaken, index, found, stored⟩
  · rw [if_neg free, stored]
    exact safe_shortened_iff plain fits room
  · rw [if_pos isTaken, stored, safe_uniquified_iff plain room]
    constructor
    · intro bounds index' found'
      rw [found] at found'
      cases found'
      exact bounds
    · intro bounds
      exact bounds index found

/-! ## Destinations -/

theorem not_of_mem_splitOnP {p : Char → Bool} {s part : List Char} (member : part ∈ s.splitOnP p) :
    ∀ c ∈ part, p c = false := by
  induction s generalizing part with
  | nil =>
      rw [List.splitOnP_nil, List.mem_singleton] at member
      simp [member]
  | cons x s ih =>
      rw [List.splitOnP_cons_eq_if_modifyHead] at member
      split at member
      · rcases List.mem_cons.mp member with rfl | member
        · simp
        · exact ih member
      · next keep =>
          rcases split : s.splitOnP p with - | ⟨first, rest⟩
          · exact absurd split (List.splitOnP_ne_nil p s)
          · rw [split] at member ih
            rcases List.mem_cons.mp member with rfl | member
            · intro c inside
              rcases List.mem_cons.mp inside with rfl | inside
              · exact Bool.eq_false_iff.mpr keep
              · exact ih List.mem_cons_self c inside
            · exact ih (List.mem_cons_of_mem _ member)

theorem component_inv {part : List Char} (accepted : component tables part = .ok ())
    (flat : ∀ c ∈ part, isSeparator c = false) : Plain tables part := by
  unfold component at accepted
  split at accepted
  · cases accepted
  next clean =>
  split at accepted
  · cases accepted
  next unreserved =>
  push Not at clean
  obtain ⟨filled, -, -, noControl, noColon, trailing⟩ := clean
  refine ⟨filled, ?_, trailing_iff.mpr trailing, Bool.eq_false_iff.mpr unreserved⟩
  intro c member
  have separator := flat c member
  have control : isControl c = false := by
    rw [← Bool.not_eq_true]
    intro control
    exact noControl (List.any_eq_true.mpr ⟨c, member, control⟩)
  simp only [isSeparator, Bool.or_eq_false_iff, decide_eq_false_iff_not] at separator
  simp only [isForbidden, control, Bool.or_false, Bool.or_eq_false_iff, decide_eq_false_iff_not]
  refine ⟨⟨separator.2, separator.1⟩, ?_⟩
  intro same
  rw [same] at member
  exact noColon member

/-- The components that the text of a destination has. -/
def declaredComponents (tables : UnicodeTables) (dest : Option (List Char)) : List (List Char) :=
  match dest.getD [] with
  | [] => []
  | value => components (decoded tables value)

theorem subdirectory_inv {dest : Option (List Char)} {parts : List (List Char)}
    (returned : subdirectory tables policy dest = .ok parts) :
    parts = declaredComponents tables dest ∧ ∀ part ∈ parts, Plain tables part := by
  unfold subdirectory at returned
  unfold declaredComponents
  cases given : dest.getD [] with
  | nil =>
      rw [given] at returned
      cases returned
      exact ⟨rfl, by simp⟩
  | cons c value =>
      rw [given] at returned
      simp only at returned
      split at returned
      · cases returned
      split at returned
      · cases returned
      obtain ⟨⟨⟩, accepted, returned⟩ := bind_eq_ok.mp returned
      cases returned
      refine ⟨rfl, ?_⟩
      intro part member
      exact component_inv (forM_eq_ok.mp accepted part member) (not_of_mem_splitOnP member)

theorem Plain.isChild {name : List Char} (plain : Plain tables name) : IsChild name := by
  have notDots (dots : List Char) (last : ∀ c ∈ name.getLast?, isTrailing c = false)
      (same : name = dots) (ends : dots.getLast? = some '.') : False := by
    rw [same] at last
    have dot := last '.' ends
    cases dot
  have absent (c : Char) (forbidden : isForbidden c = true) : c ∉ name := by
    intro member
    rw [plain.chars c member] at forbidden
    cases forbidden
  exact ⟨plain.filled, fun same => notDots _ plain.trailing same rfl,
    fun same => notDots _ plain.trailing same rfl, absent _ (by decide), absent _ (by decide)⟩

/-- Every stored name is a child of its directory, also one that is cut badly. -/
theorem isChild_shortened {whole : List Char} (plain : Plain tables whole)
    (enough : 2 < policy.maxFilenameLength)
    (room : whole.length > policy.maxFilenameLength →
      (splitSuffix whole).2.length + 1 ≤ policy.maxFilenameLength) :
    IsChild (shortened policy whole) := by
  by_cases long : whole.length > policy.maxFilenameLength
  · have cut : shortened policy whole = kept policy whole ++ (splitSuffix whole).2 := if_pos long
    have full : (shortened policy whole).length = policy.maxFilenameLength := by
      have := room long
      rw [cut, List.length_append, kept, List.length_take]
      omega
    have other (name : List Char) (few : name.length ≤ 2) : shortened policy whole ≠ name := by
      intro same
      rw [same] at full
      omega
    have absent (c : Char) (forbidden : isForbidden c = true) : c ∉ shortened policy whole := by
      intro member
      rw [plain.chars c (shortened_subset policy whole member)] at forbidden
      cases forbidden
    exact ⟨other _ (by decide), other _ (by decide), other _ (by decide), absent _ (by decide),
      absent _ (by decide)⟩
  · have same : shortened policy whole = whole := if_neg long
    rw [same]
    exact plain.isChild

/-- Under a valid policy, the stored name and the components of its directory are safe
exactly where the declared name holds and the declared components fit.  In any case each of
them is a child of the directory it is looked up in. -/
theorem stored_safe_iff (valid : policy.validate = .ok ()) {value name final : List Char}
    {changed : Bool} {dest : Option (List Char)} {parts : List (List Char)}
    {taken : List Char → Bool} {collision : DownloadCollisionPolicy}
    (returned : filename tables policy value = .ok (name, changed))
    (placed : subdirectory tables policy dest = .ok parts)
    (selected : select taken name collision = .ok final) :
    ((Safe tables policy final ∧ ∀ part ∈ parts, Safe tables policy part) ↔
        NameHolds tables policy taken collision value ∧
          ∀ part ∈ declaredComponents tables dest, Fits policy part) ∧
      ∀ step ∈ parts ++ [final], IsChild step := by
  obtain ⟨declared, plainParts⟩ := subdirectory_inv placed
  obtain ⟨plain, same, fits, room⟩ := filename_inv returned
  have components : (∀ part ∈ parts, Safe tables policy part) ↔
      ∀ part ∈ declaredComponents tables dest, Fits policy part := by
    rw [← declared]
    constructor
    · intro safe part member
      exact (safe part member).fits
    · intro fits part member
      exact ⟨plainParts part member, fits part member⟩
  constructor
  · rw [stored_name_iff returned selected, components]
  · intro step member
    rcases List.mem_append.mp member with inParts | isFinal
    · exact (plainParts step inParts).isChild
    · rw [List.mem_singleton.mp isFinal]
      have enough : 2 < policy.maxFilenameLength := by
        unfold DownloadPolicy.validate at valid
        rw [rejectIf_bind_ok, decide_eq_false_iff_not] at valid
        omega
      rw [same] at selected
      rcases select_inv selected with ⟨-, stored⟩ | ⟨-, index, -, stored⟩
      · rw [stored]
        exact isChild_shortened plain enough room
      · rw [stored]
        exact (plain_uniquified plain room index).isChild

/-- Tables for ASCII text. -/
def asciiTables : UnicodeTables where
  nfc s := s
  upperChar c := [c.toUpper]
  upper_paren := rfl

/-- A name that is taken, in a directory below the root. -/
theorem stored_safe_report :
    Safe asciiTables {} "report (1).pdf".toList ∧
      ∀ part ∈ ["q1".toList], Safe asciiTables {} part := by
  let isTaken (name : List Char) : Bool := name = "report.pdf".toList
  have valid : DownloadPolicy.validate {} = .ok () := by decide
  have returned :
      filename asciiTables {} "report.pdf".toList = .ok ("report.pdf".toList, false) := by
    decide +kernel
  have placed : subdirectory asciiTables {} (some "q1".toList) = .ok ["q1".toList] := by
    decide +kernel
  have selected : select isTaken "report.pdf".toList .uniquify = .ok "report (1).pdf".toList := by
    decide +kernel
  refine (stored_safe_iff valid returned placed selected).1.mpr ⟨?_, ?_⟩
  · have whole : checked asciiTables "report.pdf".toList = "report.pdf".toList := by decide +kernel
    have number : firstFree isTaken (shortened {} "report.pdf".toList) = some 1 := by decide +kernel
    unfold NameHolds
    rw [whole]
    simp only [number]
    rw [if_pos (by decide +kernel)]
    intro index found
    cases found
    decide +kernel
  · intro part member
    have parts : declaredComponents asciiTables (some "q1".toList) = ["q1".toList] := by
      decide +kernel
    rw [parts, List.mem_singleton] at member
    rw [member]
    exact ⟨by decide +kernel, by decide +kernel⟩

/-- A name may be cut to one with a blank at its end, cut to a device name, or made too long
by a number, and the component of a destination may be too long. -/
theorem stored_unsafe : ∃ policy : DownloadPolicy, policy.validate = .ok () ∧
    (∃ value name, filename asciiTables policy value = .ok (name, true) ∧
      ' ' ∈ name.getLast?) ∧
    (∃ value name, filename asciiTables policy value = .ok (name, true) ∧
      isReserved asciiTables name = true) ∧
    (∃ name final, filename asciiTables policy name = .ok (name, false) ∧
      select (fun other => other = name) name .uniquify = .ok final ∧
      policy.maxFilenameLength < final.length) ∧
    ∃ part, subdirectory asciiTables policy (some part) = .ok [part] ∧
      policy.maxFilenameLength < part.length := by
  refine ⟨{ maxFilenameLength := 32 }, by decide, ?_, ?_, ?_, ?_⟩
  · exact ⟨List.replicate 31 'a' ++ " b".toList, List.replicate 31 'a' ++ [' '], by decide +kernel⟩
  · exact ⟨"CONTRACT.".toList ++ List.replicate 28 'a', "CON.".toList ++ List.replicate 28 'a',
      by decide +kernel⟩
  · exact ⟨List.replicate 31 'a', List.replicate 31 'a' ++ " (1)".toList, by decide +kernel⟩
  · exact ⟨List.replicate 33 'a', by decide +kernel⟩

end Dingdongditch.Download
