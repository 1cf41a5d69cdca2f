import Dingdongditch.Contract.OriginPolicy
import Dingdongditch.Contract.PagePrecondition
import Dingdongditch.Runtime.ElementSnapshot
import Dingdongditch.Runtime.Executor

/-!
# Evaluating page preconditions

The conditions of a page precondition are read once, in order, against one page.  The
first half is the evaluator; the second says which pairs of URLs its `exact_url` check
lets through.  The check compares two texts before it compares their parts, so that it
takes a slash at the end of a query for one at the end of a path:
`passes_equivalence_iff` says that this is the only thing that keeps it from being
an equivalence that preserves the parts.
-/

namespace Dingdongditch

open Text Resolver

/-! ## The evaluator -/

/-- What the evaluator sees of a page. -/
structure PageState where
  url : List Char
  readElementState : Locator → Option Locator → List Locator →
    Except PyException ElementStateSnapshot

/-- The current URL, taken apart. -/
structure CurrentUrl where
  parsed : SplitResult
  decodedPath : List Char
  decodedQuery : List (List Char × List Char)

def currentUrl (codec : HostCodec) (actualUrl : List Char) : Except PyException CurrentUrl := do
  let parsed ← parseUrl codec actualUrl
  rejectIf (parsed.scheme = []) "current URL is not an absolute URL"
  rejectIf (hasUserinfo parsed) "current URL contains userinfo"
  rejectIf (isHttp parsed && parsed.hostname codec = []) "current http(s) URL has no host"
  rejectIf parsed.port.isNone "invalid port"
  return ⟨parsed, unquote parsed.path, parseQsl parsed.query⟩

structure PageConditionResult where
  result : PageConditionResultValue
  explanation : String
  deriving DecidableEq, Repr

/-- A check with the explanations of its two results. -/
def verdict (passed : Bool) (pass fail : String) : PageConditionResult :=
  if passed then ⟨.pass, pass⟩ else ⟨.fail, fail⟩

/-- `match_count` of the state of an element. -/
def stateMatchCount (state : ElementStateSnapshot) : Nat :=
  match state.availability with
  | .missing => 0
  | _ => state.matchCount

def evaluateElementVisible (page : PageState) (c : PageCondition) :
    Except PyException PageConditionResult :=
  match c.locator with
  | none => throw ⟨.assertionError, "", none⟩
  | some locator =>
      match page.readElementState locator c.frame c.framePath with
      | .error _ => return ⟨.indeterminate, "DOM observation was unavailable"⟩
      | .ok state =>
          let seen := state.toLegacyState
          if seen.ambiguous || stateMatchCount state > 1 then
            return ⟨.indeterminate, "locator matched multiple elements"⟩
          else if stateMatchCount state = 0 || !seen.exists_ then
            return ⟨.fail, "locator matched no elements"⟩
          else if seen.visible = some true then
            return ⟨.pass, "exactly one visible element matched"⟩
          else return ⟨.fail, "exactly one element matched but it was hidden"⟩

/-- `_same_document_url` with its exception. -/
def sameDocument (codec : HostCodec) (current declared : List Char) : Except PyException Bool :=
  match sameDocumentUrl codec current declared with
  | none => throw (.valueError "invalid URL")
  | some same => return same

def evaluateExactUrl (codec : HostCodec) (actualUrl urlValue : List Char) (policy : FragmentPolicy) :
    Except PyException PageConditionResult :=
  match policy with
  | .ignore => do
      let passed ← sameDocument codec actualUrl urlValue
      return verdict passed "URL matched with fragment ignored"
        "URL did not match with fragment ignored"
  | .include => do
      let actualParts ← parseUrl codec actualUrl
      let expectedParts ← parseUrl codec urlValue
      if actualParts.fragment = expectedParts.fragment then
        let passed ←
          sameDocument codec (← withoutFragment codec actualUrl) (← withoutFragment codec urlValue)
        return verdict passed "URL matched exactly" "URL did not match exactly"
      else return verdict false "URL matched exactly" "URL did not match exactly"

/-- The conditions that are read off the current URL. -/
def evaluateUrlCondition (codec : HostCodec) (actualUrl : List Char) (current : CurrentUrl)
    (c : PageCondition) : Except PyException PageConditionResult :=
  match c.type with
  | .exactUrl => do
      evaluateExactUrl codec actualUrl (← assertSome c.urlValue) c.fragmentPolicy
  | .originEquals => do
      let originValue ← assertSome c.originValue
      match normalizeOrigin codec
          (some (SplitResult.geturl ⟨current.parsed.scheme, current.parsed.netloc, [], [], []⟩)) with
      | .error _ => return ⟨.indeterminate, "current origin was unavailable"⟩
      | .ok actualOrigin =>
          let expectedOrigin ← normalizeOrigin codec (some originValue)
          return verdict (actualOrigin = expectedOrigin) "origin matched" "origin did not match"
  | .pathEquals => do
      let pathValue ← assertSome c.pathValue
      return verdict (current.decodedPath = pathValue) "path matched" "path did not match"
  | .pathStartsWith => do
      let pathValue ← assertSome c.pathValue
      return verdict (pathValue.isPrefixOf current.decodedPath)
        "path had the declared literal prefix" "path lacked the declared literal prefix"
  | .queryParamEquals => do
      let queryName ← assertSome c.queryName
      let queryValue ← assertSome c.queryValue
      match occurrences current.decodedQuery queryName with
      | [] => return ⟨.fail, "query key was absent"⟩
      | [value] => return verdict (value = queryValue) "query value matched" "query value did not match"
      | _ => return ⟨.fail, "query key occurred more than once"⟩
  | .elementVisible => return ⟨.indeterminate, "unsupported condition type"⟩

def evaluateCondition (codec : HostCodec) (page : PageState) (c : PageCondition) :
    PageConditionResult :=
  let evaluated :=
    if c.type = .elementVisible then evaluateElementVisible page c
    else
      match currentUrl codec page.url with
      | .error _ =>
          return ⟨.indeterminate, "current URL could not be parsed deterministically"⟩
      | .ok current => evaluateUrlCondition codec page.url current c
  match evaluated with
  | .ok result => result
  | .error _ => ⟨.indeterminate, "condition evaluator error"⟩

/-- The results of all conditions, put together. -/
def aggregate (results : List PageConditionResult) : PageConditionResultValue :=
  if results.any (·.result = .indeterminate) then .indeterminate
  else if results.any (·.result = .fail) then .fail
  else .pass

def evaluateConditions (codec : HostCodec) (page : PageState) (conditions : List PageCondition) :
    PageConditionResultValue :=
  aggregate (conditions.map (evaluateCondition codec page))

def evaluatePagePrecondition (codec : HostCodec) (page : PageState)
    (precondition : PagePrecondition) : Except PyException PagePreconditionEvaluation := do
  precondition.validate codec
  let result := evaluateConditions codec page precondition.conditions
  return ⟨result, result = .pass, some (String.ofList page.url)⟩

/-! ## URLs that a condition accepts -/

section Absolute

variable {codec : HostCodec}

/-- What the check of an expected URL and the reading of a current one ask for. -/
structure AbsoluteUrl (codec : HostCodec) (url : List Char) (parts : SplitResult) : Prop where
  split : urlsplit codec url = some parts
  scheme : parts.scheme ≠ []
  userinfo : hasUserinfo parts = false
  host : (isHttp parts && parts.hostname codec = []) = false
  port : parts.port.isNone = false

theorem parseUrl_eq_ok {url : List Char} {parts : SplitResult} :
    parseUrl codec url = .ok parts ↔ urlsplit codec url = some parts := by
  unfold parseUrl
  cases urlsplit codec url with
  | none => simp
  | some parsed => simp

theorem validateExactUrl_eq_ok {url : List Char} :
    PageCondition.validateExactUrl codec url = .ok () ↔ ∃ parts, AbsoluteUrl codec url parts := by
  unfold PageCondition.validateExactUrl
  rw [bind_eq_ok]
  simp only [rejectIf_bind_ok, rejectIf_eq_ok, parseUrl_eq_ok, decide_eq_false_iff_not]
  constructor
  · rintro ⟨parts, split, scheme, userinfo, host, port⟩
    exact ⟨parts, split, scheme, userinfo, host, port⟩
  · rintro ⟨parts, absolute⟩
    exact ⟨parts, absolute.split, absolute.scheme, absolute.userinfo, absolute.host, absolute.port⟩

theorem currentUrl_eq_ok {url : List Char} {current : CurrentUrl} :
    currentUrl codec url = .ok current ↔
      ∃ parts, AbsoluteUrl codec url parts ∧
        current = ⟨parts, unquote parts.path, parseQsl parts.query⟩ := by
  unfold currentUrl
  rw [bind_eq_ok]
  simp only [rejectIf_bind_ok, parseUrl_eq_ok, decide_eq_false_iff_not]
  constructor
  · intro ⟨parts, split, scheme, userinfo, host, port, same⟩
    cases same
    exact ⟨parts, ⟨split, scheme, userinfo, host, port⟩, rfl⟩
  · intro ⟨parts, absolute, same⟩
    rw [same]
    exact ⟨parts, absolute.split, absolute.scheme, absolute.userinfo, absolute.host,
      absolute.port, rfl⟩

/-- The URL without its fragment. -/
theorem AbsoluteUrl.withoutFragment {url : List Char} {parts : SplitResult}
    (absolute : AbsoluteUrl codec url parts) :
    AbsoluteUrl codec { parts with fragment := [] }.geturl { parts with fragment := [] } := by
  have formed : SplitResult.WellFormed codec { parts with fragment := [] } := by
    have whole := SplitResult.wellFormed_of_urlsplit absolute.split absolute.scheme
    refine ⟨whole.scheme, whole.netloc, whole.rooted, whole.path, whole.query, ?_⟩
    intro c member
    apply whole.clean
    rw [List.append_nil] at member
    exact List.mem_append_left _ member
  exact ⟨formed.urlsplit_geturl, absolute.scheme, absolute.userinfo, absolute.host, absolute.port⟩

/-! ## Documents -/

/-- `path.rstrip("/") or "/"` -/
def documentPath (path : List Char) : List Char :=
  if rstripSlash path = [] then ['/'] else rstripSlash path

/-- The same scheme, authority and query, and the same path up to slashes at its end. -/
structure SameDocument (r r' : SplitResult) : Prop where
  scheme : r.scheme = r'.scheme
  netloc : r.netloc = r'.netloc
  query : r.query = r'.query
  path : documentPath r.path = documentPath r'.path

theorem SameDocument.refl (r : SplitResult) : SameDocument r r := ⟨rfl, rfl, rfl, rfl⟩

theorem SameDocument.symm {r r' : SplitResult} (h : SameDocument r r') : SameDocument r' r :=
  ⟨h.scheme.symm, h.netloc.symm, h.query.symm, h.path.symm⟩

theorem SameDocument.trans {r r' r'' : SplitResult} (h : SameDocument r r')
    (h' : SameDocument r' r'') : SameDocument r r'' :=
  ⟨h.scheme.trans h'.scheme, h.netloc.trans h'.netloc, h.query.trans h'.query, h.path.trans h'.path⟩

/-- The parts that are compared. -/
def documentParts (r : SplitResult) : SplitResult :=
  { r with path := documentPath r.path, fragment := [] }

theorem documentParts_inj {r r' : SplitResult} :
    documentParts r = documentParts r' ↔ SameDocument r r' := by
  constructor
  · intro same
    have fields := SplitResult.mk.inj same
    exact ⟨fields.1, fields.2.1, fields.2.2.2.1, fields.2.2.1⟩
  · intro same
    unfold documentParts
    rw [same.scheme, same.netloc, same.query, same.path]

theorem rstripSlash_isPrefix (s : List Char) : rstripSlash s <+: s := by
  obtain ⟨n, whole⟩ := eq_rstripSlash_append s
  exact ⟨_, whole.symm⟩

theorem documentParts_wellFormed {r : SplitResult} (formed : r.WellFormed codec) :
    (documentParts r).WellFormed codec := by
  have inside : ∀ c ∈ documentPath r.path, c = '/' ∨ c ∈ r.path := by
    intro c member
    unfold documentPath at member
    split at member
    · exact .inl (List.mem_singleton.mp member)
    · exact .inr ((rstripSlash_isPrefix r.path).subset member)
  refine ⟨formed.scheme, formed.netloc, ?_, ⟨?_, ?_⟩, formed.query, ?_⟩
  · intro authority c head
    have rooted := formed.rooted authority
    simp only [documentParts, documentPath] at head
    split at head
    · simpa using head.symm
    · next filled =>
        obtain ⟨rest, whole⟩ := rstripSlash_isPrefix r.path
        apply rooted
        rw [← whole, List.head?_append, head]
        rfl
  · intro member
    rcases inside _ member with same | member
    · cases same
    · exact formed.path.1 member
  · intro member
    rcases inside _ member with same | member
    · cases same
    · exact formed.path.2 member
  · intro c member
    have clean := formed.clean c
    simp only [documentParts, List.append_nil, List.mem_append] at member clean
    rcases member with (member | member) | member
    · exact clean (.inl (.inl (.inl member)))
    · rcases inside c member with same | member
      · rw [same]
        decide
      · exact clean (.inl (.inl (.inr member)))
    · exact clean (.inl (.inr member))

theorem sameDocumentUrl_eq (a b : List Char) : sameDocumentUrl codec a b =
    if a = b ∨ rstripSlash a = rstripSlash b then some true
    else
      match (urlsplit codec a).map fun r => (documentParts r).geturl,
        (urlsplit codec b).map fun r => (documentParts r).geturl with
      | some a, some b => some (a = b)
      | _, _ => none := rfl

/-- Two URLs are taken for the same document if their texts agree up to slashes at their
ends, or their parts do up to slashes at the end of the path. -/
theorem sameDocument_eq {a b : List Char} {ra rb : SplitResult} (absA : AbsoluteUrl codec a ra)
    (absB : AbsoluteUrl codec b rb) :
    ∃ same, sameDocument codec a b = .ok same ∧
      (same = true ↔ rstripSlash a = rstripSlash b ∨ SameDocument ra rb) := by
  by_cases texts : a = b ∨ rstripSlash a = rstripSlash b
  · have equal : rstripSlash a = rstripSlash b := by
      rcases texts with same | same
      · rw [same]
      · exact same
    refine ⟨true, ?_, iff_of_true rfl (.inl equal)⟩
    rw [sameDocument, sameDocumentUrl_eq, if_pos texts]
    rfl
  · have formedA := SplitResult.wellFormed_of_urlsplit absA.split absA.scheme
    have formedB := SplitResult.wellFormed_of_urlsplit absB.split absB.scheme
    have compared : sameDocumentUrl codec a b =
        some (decide ((documentParts ra).geturl = (documentParts rb).geturl)) := by
      rw [sameDocumentUrl_eq, if_neg texts, absA.split, absB.split]
      rfl
    refine ⟨decide ((documentParts ra).geturl = (documentParts rb).geturl), ?_, ?_⟩
    · rw [sameDocument, compared]
      rfl
    · rw [decide_eq_true_eq, ← documentParts_inj]
      constructor
      · intro same
        exact .inr ((documentParts_wellFormed formedA).geturl_injective
          (documentParts_wellFormed formedB) same)
      · intro same
        rcases same with same | same
        · exact absurd (.inr same) texts
        · rw [same]

end Absolute

/-! ## The `exact_url` condition -/

/-- A condition on the URL alone. -/
def exactUrlCondition (urlValue : List Char) (policy : FragmentPolicy) : PageCondition where
  conditionId := "url".toList
  type := .exactUrl
  urlValue := some urlValue
  fragmentPolicy := policy

/-- A page whose elements cannot be read. -/
def pageAt (url : List Char) : PageState where
  url
  readElementState _ _ _ := .error (.valueError "no elements")

/-- The condition for one URL passes at another. -/
def Passes (codec : HostCodec) (policy : FragmentPolicy) (current declared : List Char) : Prop :=
  (evaluateCondition codec (pageAt current) (exactUrlCondition declared policy)).result = .pass

instance (codec : HostCodec) (policy : FragmentPolicy) (current declared : List Char) :
    Decidable (Passes codec policy current declared) :=
  inferInstanceAs (Decidable (_ = _))

/-- The text that is compared first. -/
def comparedText (policy : FragmentPolicy) (url : List Char) (parts : SplitResult) : List Char :=
  match policy with
  | .ignore => url
  | .include => { parts with fragment := [] }.geturl

section ExactUrl

variable {codec : HostCodec} {policy : FragmentPolicy} {a b : List Char} {ra rb : SplitResult}

theorem evaluateCondition_exactUrl {page : PageState} {c : PageCondition}
    (absolute : AbsoluteUrl codec page.url ra) (exact : c.type = .exactUrl)
    (declared : c.urlValue = some b) (policyOf : c.fragmentPolicy = policy) :
    (evaluateCondition codec page c).result = .pass ↔ Passes codec policy page.url b := by
  have current : currentUrl codec page.url = .ok ⟨ra, unquote ra.path, parseQsl ra.query⟩ :=
    currentUrl_eq_ok.mpr ⟨ra, absolute, rfl⟩
  have here : currentUrl codec (pageAt page.url).url =
      .ok ⟨ra, unquote ra.path, parseQsl ra.query⟩ :=
    current
  unfold Passes evaluateCondition
  rw [current, here]
  simp only [exact, evaluateUrlCondition, declared, policyOf, exactUrlCondition]
  rfl

/-- When the condition passes. -/
theorem passes_iff (absA : AbsoluteUrl codec a ra) (absB : AbsoluteUrl codec b rb) :
    Passes codec policy a b ↔
      (policy = .include → ra.fragment = rb.fragment) ∧
        (rstripSlash (comparedText policy a ra) = rstripSlash (comparedText policy b rb) ∨
          SameDocument ra rb) := by
  have current : currentUrl codec (pageAt a).url = .ok ⟨ra, unquote ra.path, parseQsl ra.query⟩ :=
    currentUrl_eq_ok.mpr ⟨ra, absA, rfl⟩
  have read : Passes codec policy a b ↔
      ∃ result, evaluateExactUrl codec a b policy = .ok result ∧ result.result = .pass := by
    unfold Passes evaluateCondition
    rw [current]
    simp only [exactUrlCondition, evaluateUrlCondition, assertSome, pageAt]
    cases evaluated : evaluateExactUrl codec a b policy with
    | error e => simp [evaluated, bind, Except.bind, pure, Except.pure]
    | ok result => simp [evaluated, bind, Except.bind, pure, Except.pure]
  have isPass (passed : Bool) (pass fail : String) :
      (verdict passed pass fail).result = .pass ↔ passed = true := by
    cases passed <;> simp [verdict]
  rw [read]
  cases policy with
  | ignore =>
      obtain ⟨same, compared, meaning⟩ := sameDocument_eq absA absB
      unfold evaluateExactUrl comparedText
      rw [compared]
      simp [bind, Except.bind, pure, Except.pure, isPass, meaning]
  | «include» =>
      obtain ⟨same, compared, meaning⟩ := sameDocument_eq absA.withoutFragment absB.withoutFragment
      have bareA : withoutFragment codec a = .ok { ra with fragment := [] }.geturl := by
        rw [withoutFragment, parseUrl_eq_ok.mpr absA.split]
        rfl
      have bareB : withoutFragment codec b = .ok { rb with fragment := [] }.geturl := by
        rw [withoutFragment, parseUrl_eq_ok.mpr absB.split]
        rfl
      have parts : SameDocument { ra with fragment := [] } { rb with fragment := [] } ↔
          SameDocument ra rb := by
        rw [← documentParts_inj, ← documentParts_inj]
        rfl
      unfold evaluateExactUrl comparedText
      rw [parseUrl_eq_ok.mpr absA.split, parseUrl_eq_ok.mpr absB.split, bareA, bareB]
      rw [parts] at meaning
      by_cases fragments : ra.fragment = rb.fragment
      · simp [bind, Except.bind, pure, Except.pure, fragments, compared, isPass, meaning]
      · simp [bind, Except.bind, pure, Except.pure, fragments, isPass]

end ExactUrl

/-! ## Which URLs the condition tells apart -/

/-- A URL that an `exact_url` condition accepts. -/
def ExactUrl (codec : HostCodec) : Type :=
  {url : List Char // PageCondition.validateExactUrl codec url = .ok ()}

namespace ExactUrl

variable {codec : HostCodec}

def parts (url : ExactUrl codec) : SplitResult := (urlsplit codec url.val).getD ⟨[], [], [], [], []⟩

theorem absolute (url : ExactUrl codec) : AbsoluteUrl codec url.val url.parts := by
  obtain ⟨parts, absolute⟩ := validateExactUrl_eq_ok.mp url.property
  have same : url.parts = parts := by rw [ExactUrl.parts, absolute.split, Option.getD_some]
  rw [same]
  exact absolute

def Passes (policy : FragmentPolicy) (current declared : ExactUrl codec) : Prop :=
  Dingdongditch.Passes codec policy current.val declared.val

/-- The texts that are compared first agree up to slashes at their ends. -/
def SameText (policy : FragmentPolicy) (a b : ExactUrl codec) : Prop :=
  (policy = .include → a.parts.fragment = b.parts.fragment) ∧
    rstripSlash (comparedText policy a.val a.parts) = rstripSlash (comparedText policy b.val b.parts)

/-- Texts that agree up to slashes at their ends have parts that do. -/
theorem SameText.slashEq {policy : FragmentPolicy} {a b : ExactUrl codec}
    (same : SameText policy a b) :
    a.parts.SlashEq b.parts := by
  cases policy with
  | ignore =>
      exact slashEq_of_rstripSlash a.absolute.split b.absolute.split a.absolute.scheme
        b.absolute.scheme same.2
  | «include» =>
      have bare := slashEq_of_rstripSlash a.absolute.withoutFragment.split
        b.absolute.withoutFragment.split a.absolute.scheme b.absolute.scheme same.2
      exact ⟨bare.scheme, bare.netloc, bare.path, bare.query⟩

/-- On URLs of which no two have texts that agree up to slashes at their ends and different
queries, and on no others, the condition passes only for the same document and is an
equivalence. -/
theorem passes_equivalence_iff (policy : FragmentPolicy) (urls : Set (ExactUrl codec)) :
    ((∀ a ∈ urls, ∀ b ∈ urls, a.Passes policy b → SameDocument a.parts b.parts) ∧
        Equivalence fun a b : urls => a.val.Passes policy b.val) ↔
      ∀ a ∈ urls, ∀ b ∈ urls, SameText policy a b → a.parts.query = b.parts.query := by
  have passes (a b : ExactUrl codec) : a.Passes policy b ↔
      (policy = .include → a.parts.fragment = b.parts.fragment) ∧
        (rstripSlash (comparedText policy a.val a.parts) =
          rstripSlash (comparedText policy b.val b.parts) ∨ SameDocument a.parts b.parts) :=
    passes_iff a.absolute b.absolute
  constructor
  · intro equivalence a ha b hb same
    exact (equivalence.1 a ha b hb ((passes a b).mpr ⟨same.1, .inl same.2⟩)).query
  · intro queries
    have alike : ∀ a ∈ urls, ∀ b ∈ urls, a.Passes policy b → SameDocument a.parts b.parts := by
      intro a ha b hb passed
      obtain ⟨fragments, texts | parts⟩ := (passes a b).mp passed
      · have text : SameText policy a b := ⟨fragments, texts⟩
        have slashEq := text.slashEq
        refine ⟨slashEq.scheme, slashEq.netloc, queries a ha b hb text, ?_⟩
        rw [documentPath, documentPath, slashEq.path]
      · exact parts
    have parts (a b : urls) : a.val.Passes policy b.val ↔
        (policy = .include → a.val.parts.fragment = b.val.parts.fragment) ∧
          SameDocument a.val.parts b.val.parts := by
      constructor
      · intro passed
        exact ⟨((passes _ _).mp passed).1, alike _ a.property _ b.property passed⟩
      · intro ⟨fragments, same⟩
        exact (passes _ _).mpr ⟨fragments, .inr same⟩
    refine ⟨alike, ⟨?_, ?_, ?_⟩⟩
    · intro a
      exact (parts a a).mpr ⟨fun _ => rfl, .refl _⟩
    · intro a b ab
      obtain ⟨fragments, same⟩ := (parts a b).mp ab
      exact (parts b a).mpr ⟨fun policyIs => (fragments policyIs).symm, same.symm⟩
    · intro a b c ab bc
      obtain ⟨fragments, same⟩ := (parts a b).mp ab
      obtain ⟨fragments', same'⟩ := (parts b c).mp bc
      exact (parts a c).mpr
        ⟨fun policyIs => (fragments policyIs).trans (fragments' policyIs), same.trans same'⟩

/-- `http://h/p?q=/` passes for `http://h/p?q=` and that for `http://h/p/?q=`, with
different queries, and the first does not pass for the third. -/
theorem passes_not_equivalence :
    ∃ a b c : ExactUrl asciiCodec, a.Passes .ignore b ∧ a.parts.query ≠ b.parts.query ∧
      b.Passes .ignore c ∧ ¬ a.Passes .ignore c := by
  refine ⟨⟨"http://h/p?q=/".toList, by decide +kernel⟩, ⟨"http://h/p?q=".toList, by decide +kernel⟩,
    ⟨"http://h/p/?q=".toList, by decide +kernel⟩, ?_⟩
  unfold ExactUrl.Passes
  decide +kernel

end ExactUrl

end Dingdongditch
