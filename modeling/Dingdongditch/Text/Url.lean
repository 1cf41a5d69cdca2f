import Dingdongditch.Text.Surgery

/-!
# Splitting URLs

`urlsplit` and the authority accessors of `urllib.parse`, on character lists.
What the standard library looks up in tables (Unicode case mapping, the
normalisation check of a non-ASCII authority, IP literals, IDNA) comes from a
`HostCodec`; the control flow around it is spelled out.

`urlsplit_of_plain` and the accessor lemmas after it compute all of this on an
authority that is put together from a host and a port.
-/

namespace Dingdongditch.Text

/-- The table-driven parts of URL handling. -/
structure HostCodec where
  /-- `str.lower` -/
  lower : List Char → List Char
  /-- `_checknetloc` on a non-ASCII authority: `true` when it raises. -/
  rejectsNetloc : List Char → Bool
  /-- `_check_bracketed_netloc`: `true` when it raises. -/
  rejectsBrackets : List Char → Bool
  /-- `host.encode("idna").decode("ascii")`; `none` when it raises. -/
  idna : List Char → Option (List Char)

structure SplitResult where
  scheme : List Char
  netloc : List Char
  path : List Char
  query : List Char
  fragment : List Char
  deriving DecidableEq, Repr

/-- ASCII lower-casing. -/
def lowerAscii (s : List Char) : List Char := s.map Char.toLower

def isAscii (c : Char) : Bool := c.toNat < 128

def isSchemeChar (c : Char) : Bool := c.isAlphanum || c = '+' || c = '-' || c = '.'

/-- The characters `urlsplit` deletes wherever they stand. -/
def isUnsafe (c : Char) : Bool := c = '\t' || c = '\r' || c = '\n'

/-- The URL without leading controls and blanks and without tabs and newlines. -/
def scrub (url : List Char) : List Char :=
  (lstripBy (fun c => c.toNat ≤ 32) url).filter fun c => !isUnsafe c

/-- Split off `scheme:` when the text before the first colon is a scheme. -/
def splitScheme (url : List Char) : List Char × List Char :=
  match url, partition ':' url with
  | first :: _, some (before, after) =>
      if !before.isEmpty && first.isAlpha && before.all isSchemeChar then
        (lowerAscii before, after)
      else ([], url)
  | _, _ => ([], url)

/-- Split off the authority of a URL that goes on with `//`; `none` is the
`ValueError` of an invalid one. -/
def splitNetloc (codec : HostCodec) (url : List Char) : Option (List Char × List Char) :=
  match url with
  | '/' :: '/' :: rest =>
      let (netloc, rest) := breakAt ['/', '?', '#'] rest
      let hasOpen := netloc.contains '['
      if hasOpen != netloc.contains ']' then none
      else if hasOpen && codec.rejectsBrackets netloc then none
      else if !netloc.all isAscii && codec.rejectsNetloc netloc then none
      else some (netloc, rest)
  | _ => some ([], url)

/-- `urlsplit(url)`; `none` is its `ValueError`. -/
def urlsplit (codec : HostCodec) (url : List Char) : Option SplitResult :=
  let (scheme, rest) := splitScheme (scrub url)
  (splitNetloc codec rest).map fun (netloc, rest) =>
    let (rest, fragment) := (partition '#' rest).getD (rest, [])
    let (path, query) := (partition '?' rest).getD (rest, [])
    ⟨scheme, netloc, path, query, fragment⟩

namespace SplitResult

/-- The authority after the last `@`. -/
def hostinfo (r : SplitResult) : List Char :=
  match rpartition '@' r.netloc with
  | some (_, hostinfo) => hostinfo
  | none => r.netloc

/-- `_hostinfo`: host and port text. -/
def hostAndPort (r : SplitResult) : List Char × List Char :=
  match partition '[' r.hostinfo with
  | some (_, bracketed) =>
      let (host, rest) := (partition ']' bracketed).getD (bracketed, [])
      (host, ((partition ':' rest).map Prod.snd).getD [])
  | none => (partition ':' r.hostinfo).getD (r.hostinfo, [])

/-- `hostname`; the empty list is `None`.  A zone identifier keeps its case. -/
def hostname (codec : HostCodec) (r : SplitResult) : List Char :=
  match partition '%' r.hostAndPort.1 with
  | some (host, zone) => codec.lower host ++ '%' :: zone
  | none => codec.lower r.hostAndPort.1

/-- Whether `username` or `password` is a non-empty string. -/
def hasCredentials (r : SplitResult) : Bool :=
  match rpartition '@' r.netloc with
  | none => false
  | some (userinfo, _) =>
      match partition ':' userinfo with
      | none => !userinfo.isEmpty
      | some (username, password) => !username.isEmpty || !password.isEmpty

/-- `port`; the outer `none` is its `ValueError`. -/
def port (r : SplitResult) : Option (Option Nat) :=
  let text := r.hostAndPort.2
  if text.isEmpty then some none
  else if text.all Char.isDigit then
    let value := Nat.ofDigitChars 10 text 0
    if value ≤ 65535 then some (some value) else none
  else none

/-- The schemes whose URLs are written with an authority. -/
def usesNetloc : List String :=
  ["ftp", "http", "gopher", "nntp", "telnet", "imap", "wais", "file", "mms", "https", "shttp",
   "snews", "prospero", "rtsp", "rtsps", "rtspu", "rsync", "svn", "svn+ssh", "sftp", "nfs", "git",
   "git+ssh", "ws", "wss", "itms-services"]

/-- `urlunsplit` -/
def geturl (r : SplitResult) : List Char :=
  let slashes := "//".toList
  let hier :=
    if r.netloc ≠ [] then
      slashes ++ r.netloc ++ (if r.path ≠ [] ∧ r.path.head? ≠ some '/' then '/' :: r.path else r.path)
    else if slashes.isPrefixOf r.path then slashes ++ r.path
    else if r.scheme ≠ [] ∧ usesNetloc.contains (String.ofList r.scheme) ∧
        (r.path = [] ∨ r.path.head? = some '/') then slashes ++ r.path
    else r.path
  (if r.scheme ≠ [] then r.scheme ++ ':' :: hier else hier) ++
    (if r.query ≠ [] then '?' :: r.query else []) ++
    (if r.fragment ≠ [] then '#' :: r.fragment else [])

end SplitResult

/-! ## Plain authorities -/

/-- The characters of an ASCII host name. -/
def isHostChar (c : Char) : Bool := c.isAlphanum || c = '-' || c = '_' || c = '.'

/-- A host name or port character: nothing in it delimits a URL component. -/
def isPlainChar (c : Char) : Bool := isHostChar c || c = ':'

theorem isHostChar_toNat {c : Char} (host : isHostChar c = true) :
    32 < c.toNat ∧ c.toNat < 128 := by
  simp only [isHostChar, Bool.or_eq_true, isAlphanum_iff, decide_eq_true_eq] at host
  rcases host with ((word | rfl) | rfl) | rfl
  · omega
  all_goals decide

theorem isPlainChar_toNat {c : Char} (plain : isPlainChar c = true) :
    32 < c.toNat ∧ c.toNat < 128 := by
  rcases Bool.or_eq_true _ _ ▸ plain with host | colon
  · exact isHostChar_toNat host
  · obtain rfl := of_decide_eq_true colon
    decide

/-- Every character that delimits a URL component is missing from plain text. -/
theorem not_mem_of_plain {s : List Char} (plain : ∀ c ∈ s, isPlainChar c = true) {d : Char}
    (delimiter : isPlainChar d = false) : d ∉ s := by
  intro mem
  rw [plain d mem] at delimiter
  cases delimiter

theorem lstripBy_of_head {p : Char → Bool} {s : List Char} (kept : ∀ c ∈ s, p c = false) :
    lstripBy p s = s := by
  cases s with
  | nil => rfl
  | cons c s => exact lstripBy_eq_self (kept c List.mem_cons_self) s

theorem scrub_eq_self {s : List Char}
    (printable : ∀ c ∈ s, 32 < c.toNat) : scrub s = s := by
  unfold scrub
  have kept : ∀ c ∈ s, decide (c.toNat ≤ 32) = false := fun c mem => by
    have := printable c mem
    exact decide_eq_false (by omega)
  rw [lstripBy_of_head kept, List.filter_eq_self]
  intro c mem
  have above := printable c mem
  have tab : c ≠ '\t' := fun eq => by subst eq; exact absurd above (by decide)
  have cr : c ≠ '\r' := fun eq => by subst eq; exact absurd above (by decide)
  have lf : c ≠ '\n' := fun eq => by subst eq; exact absurd above (by decide)
  simp [isUnsafe, tab, cr, lf]

theorem splitScheme_of_letters {scheme : List Char} (nonempty : scheme ≠ [])
    (letters : ∀ c ∈ scheme, c.isAlpha = true ∧ c.toLower = c) (rest : List Char) :
    splitScheme (scheme ++ ':' :: rest) = (scheme, rest) := by
  have fresh : ':' ∉ scheme := fun mem => by
    have := (letters _ mem).1
    revert this
    decide
  have lower : lowerAscii scheme = scheme :=
    (List.map_congr_left fun c mem => (letters c mem).2).trans (List.map_id _)
  cases scheme with
  | nil => exact absurd rfl nonempty
  | cons first scheme =>
      have split := partition_append fresh rest
      have alpha := (letters first List.mem_cons_self).1
      have each : (first :: scheme).all isSchemeChar = true := by
        rw [List.all_eq_true]
        intro c mem
        simp [isSchemeChar, Char.isAlphanum, (letters c mem).1]
      unfold splitScheme
      rw [List.cons_append] at split ⊢
      simp only [split, alpha, each, List.isEmpty_cons, Bool.not_false, Bool.and_self, if_true,
        lower]

theorem splitNetloc_of_plain (codec : HostCodec) {netloc : List Char}
    (plain : ∀ c ∈ netloc, isPlainChar c = true) :
    splitNetloc codec ('/' :: '/' :: netloc) = some (netloc, []) := by
  have whole : breakAt ['/', '?', '#'] netloc = (netloc, []) := by
    refine breakAt_eq_self fun c mem stop => ?_
    have := plain c mem
    simp only [List.mem_cons, List.not_mem_nil, or_false] at stop
    rcases stop with rfl | rfl | rfl <;> exact absurd this (by decide)
  have noOpen : '[' ∉ netloc := not_mem_of_plain plain (by decide)
  have noClose : ']' ∉ netloc := not_mem_of_plain plain (by decide)
  have ascii : netloc.all isAscii = true := by
    rw [List.all_eq_true]
    intro c mem
    exact decide_eq_true (isPlainChar_toNat (plain c mem)).2
  simp [splitNetloc, whole, noOpen, noClose, ascii]

/-- Splitting a URL that consists of a scheme and a plain authority. -/
theorem urlsplit_of_plain (codec : HostCodec) {scheme netloc : List Char} (nonempty : scheme ≠ [])
    (letters : ∀ c ∈ scheme, c.isAlpha = true ∧ c.toLower = c)
    (plain : ∀ c ∈ netloc, isPlainChar c = true) :
    urlsplit codec (scheme ++ ':' :: '/' :: '/' :: netloc) =
      some ⟨scheme, netloc, [], [], []⟩ := by
  have printable : ∀ c ∈ scheme ++ ':' :: '/' :: '/' :: netloc, 32 < c.toNat := by
    intro c mem
    rcases List.mem_append.mp mem with inScheme | rest
    · have host : isHostChar c = true := by
        simp [isHostChar, Char.isAlphanum, (letters c inScheme).1]
      exact (isHostChar_toNat host).1
    · rcases List.mem_cons.mp rest with rfl | rest
      · decide
      rcases List.mem_cons.mp rest with rfl | rest
      · decide
      rcases List.mem_cons.mp rest with rfl | rest
      · decide
      exact (isPlainChar_toNat (plain c rest)).1
  unfold urlsplit
  rw [scrub_eq_self printable, splitScheme_of_letters nonempty letters]
  simp only [splitNetloc_of_plain codec plain, Option.map_some]
  rfl

/-! ## Origins -/

theorem splitScheme_subset (url : List Char) : (splitScheme url).2 ⊆ url := by
  unfold splitScheme
  split
  · next split =>
      split
      · exact partition_subset split
      · exact List.Subset.refl _
  · exact List.Subset.refl _

theorem not_isUnsafe_of_mem_scrub {url : List Char} {c : Char} (mem : c ∈ scrub url) :
    isUnsafe c = false := by
  simpa using (List.mem_filter.mp mem).2

/-- An authority that was split off a URL is split off again when it stands alone. -/
theorem splitNetloc_again {codec : HostCodec} {url netloc rest : List Char}
    (split : splitNetloc codec url = some (netloc, rest)) :
    splitNetloc codec ('/' :: '/' :: netloc) = some (netloc, []) ∧ netloc ⊆ url := by
  unfold splitNetloc at split
  split at split
  · next after =>
      have whole : breakAt ['/', '?', '#'] (breakAt ['/', '?', '#'] after).1 =
          ((breakAt ['/', '?', '#'] after).1, []) := breakAt_eq_self (breakAt_fresh after)
      simp only at split
      split at split
      · cases split
      split at split
      · cases split
      split at split
      · cases split
      next brackets bracketed ascii =>
        cases split
        refine ⟨?_, List.Subset.trans (breakAt_subset after)
          (List.Subset.trans (List.subset_cons_self _ _) (List.subset_cons_self _ _))⟩
        simp only [splitNetloc, whole]
        rw [if_neg brackets, if_neg bracketed, if_neg ascii]
  · obtain ⟨rfl, rfl⟩ := Prod.mk.inj (Option.some.inj split)
    exact ⟨rfl, List.nil_subset _⟩

/-- The origin of a URL is a URL whose only parts are the scheme and the authority. -/
theorem urlsplit_origin {codec : HostCodec} {url : List Char} {parts : SplitResult}
    (split : urlsplit codec url = some parts) (nonempty : parts.scheme ≠ [])
    (letters : ∀ c ∈ parts.scheme, c.isAlpha = true ∧ c.toLower = c) :
    urlsplit codec (parts.scheme ++ ':' :: '/' :: '/' :: parts.netloc) =
      some ⟨parts.scheme, parts.netloc, [], [], []⟩ := by
  obtain ⟨⟨netloc, rest⟩, netlocOf, isParts⟩ := Option.map_eq_some_iff.mp split
  obtain rfl : parts.netloc = netloc := by
    rw [← isParts]
  obtain ⟨again, inside⟩ := splitNetloc_again netlocOf
  have safe : ∀ c ∈ parts.netloc, isUnsafe c = false := fun c mem =>
    not_isUnsafe_of_mem_scrub (splitScheme_subset _ (inside mem))
  have printable : ∀ c ∈ parts.scheme, isUnsafe c = false ∧ ¬ c.toNat ≤ 32 := by
    intro c mem
    have host : isHostChar c = true := by simp [isHostChar, Char.isAlphanum, (letters c mem).1]
    have above := (isHostChar_toNat host).1
    have plain : ∀ d ∈ ([c] : List Char), 32 < d.toNat := by simpa using above
    have kept := scrub_eq_self plain
    have clean : c ∈ scrub [c] := by
      rw [kept]
      exact List.mem_singleton_self c
    exact ⟨not_isUnsafe_of_mem_scrub clean, by omega⟩
  have scrubbed : scrub (parts.scheme ++ ':' :: '/' :: '/' :: parts.netloc) =
      parts.scheme ++ ':' :: '/' :: '/' :: parts.netloc := by
    have unstripped : lstripBy (fun c : Char => decide (c.toNat ≤ 32))
        (parts.scheme ++ ':' :: '/' :: '/' :: parts.netloc) =
          parts.scheme ++ ':' :: '/' :: '/' :: parts.netloc := by
      rcases isScheme : parts.scheme with _ | ⟨c, scheme⟩
      · exact absurd isScheme nonempty
      · have first := (printable c (isScheme ▸ List.mem_cons_self)).2
        exact lstripBy_eq_self (decide_eq_false first) _
    rw [scrub, unstripped, List.filter_eq_self]
    intro c mem
    rw [Bool.not_eq_true']
    rcases List.mem_append.mp mem with inScheme | later
    · exact (printable c inScheme).1
    rcases List.mem_cons.mp later with rfl | later
    · decide
    rcases List.mem_cons.mp later with rfl | later
    · decide
    rcases List.mem_cons.mp later with rfl | later
    · decide
    exact safe c later
  unfold urlsplit
  rw [scrubbed, splitScheme_of_letters nonempty letters]
  simp only [again, Option.map_some]
  rfl

/-- The text of an optional port: nothing, or a colon and the digits. -/
def portText : Option (List Char) → List Char
  | none => []
  | some digits => ':' :: digits

section Authority

variable {host : List Char} {digits : Option (List Char)}

theorem plain_of_parts (hostChars : ∀ c ∈ host, isHostChar c = true)
    (digitChars : ∀ ds ∈ digits, ∀ c ∈ ds, c.isDigit = true) :
    ∀ c ∈ host ++ portText digits, isPlainChar c = true := by
  intro c mem
  rcases List.mem_append.mp mem with inHost | inPort
  · exact Bool.or_eq_true _ _ ▸ Or.inl (hostChars c inHost)
  · cases digits with
    | none => cases inPort
    | some ds =>
        rcases List.mem_cons.mp inPort with rfl | inDigits
        · decide
        · have digit := digitChars ds rfl c inDigits
          simp [isPlainChar, isHostChar, Char.isAlphanum, digit]

theorem colon_not_mem (hostChars : ∀ c ∈ host, isHostChar c = true) : ':' ∉ host := by
  intro mem
  exact absurd (hostChars _ mem) (by decide)

variable {scheme path query fragment : List Char}

theorem hostinfo_of_plain {netloc : List Char} (plain : ∀ c ∈ netloc, isPlainChar c = true) :
    SplitResult.hostinfo ⟨scheme, netloc, path, query, fragment⟩ = netloc := by
  unfold SplitResult.hostinfo
  rw [rpartition_eq_none (not_mem_of_plain plain (by decide))]

theorem hasCredentials_of_plain {netloc : List Char}
    (plain : ∀ c ∈ netloc, isPlainChar c = true) :
    SplitResult.hasCredentials ⟨scheme, netloc, path, query, fragment⟩ = false := by
  unfold SplitResult.hasCredentials
  rw [rpartition_eq_none (not_mem_of_plain plain (by decide))]

theorem hostAndPort_of_parts (hostChars : ∀ c ∈ host, isHostChar c = true)
    (digitChars : ∀ ds ∈ digits, ∀ c ∈ ds, c.isDigit = true) :
    SplitResult.hostAndPort ⟨scheme, host ++ portText digits, path, query, fragment⟩ =
      (host, digits.getD []) := by
  have plain := plain_of_parts hostChars digitChars
  unfold SplitResult.hostAndPort
  rw [hostinfo_of_plain plain, partition_eq_none (not_mem_of_plain plain (by decide))]
  cases digits with
  | none =>
      have fresh : ':' ∉ host ++ portText none := by
        simpa [portText] using colon_not_mem hostChars
      rw [partition_eq_none fresh]
      simp [portText]
  | some ds =>
      rw [portText, partition_append (colon_not_mem hostChars)]
      rfl

theorem port_of_parts (hostChars : ∀ c ∈ host, isHostChar c = true)
    (digitChars : ∀ ds ∈ digits, ∀ c ∈ ds, c.isDigit = true)
    (nonempty : ∀ ds ∈ digits, ds ≠ []) :
    SplitResult.port ⟨scheme, host ++ portText digits, path, query, fragment⟩ =
      match digits with
      | none => some none
      | some ds =>
          if Nat.ofDigitChars 10 ds 0 ≤ 65535 then some (some (Nat.ofDigitChars 10 ds 0))
          else none := by
  unfold SplitResult.port
  rw [hostAndPort_of_parts hostChars digitChars]
  cases digits with
  | none => rfl
  | some ds =>
      have some_ds : ds.isEmpty = false := by
        rw [List.isEmpty_eq_false_iff]
        exact nonempty ds rfl
      have all_digits : ds.all Char.isDigit = true := by
        rw [List.all_eq_true]
        exact digitChars ds rfl
      simp only [Option.getD_some, some_ds, all_digits, Bool.false_eq_true, if_false, if_true]

theorem hostname_of_parts (codec : HostCodec) (hostChars : ∀ c ∈ host, isHostChar c = true)
    (digitChars : ∀ ds ∈ digits, ∀ c ∈ ds, c.isDigit = true) :
    SplitResult.hostname codec ⟨scheme, host ++ portText digits, path, query, fragment⟩ =
      codec.lower host := by
  have noZone : '%' ∉ host := fun mem => absurd (hostChars _ mem) (by decide)
  unfold SplitResult.hostname
  rw [hostAndPort_of_parts hostChars digitChars]
  simp only [partition_eq_none noZone]

end Authority

end Dingdongditch.Text
