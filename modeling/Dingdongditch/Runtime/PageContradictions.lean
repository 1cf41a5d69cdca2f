import Dingdongditch.Runtime.PagePreconditions

/-!
# Which contradictions are real

`validateContradictions` compares what the conditions declare; the evaluator compares
it with a page, up to slashes at the end.  Conditions that contradict each other without
an exact URL are met by no page (`validate_of_meets`).  Where there is an exact URL, a
page that meets all conditions is at a URL with other slashes at its end or at the end of
its path (`exists_variant`), so that the refusal is right exactly when none of these
meets them (`contradictory_iff`).
-/

namespace Dingdongditch

open Text Resolver

variable {codec : HostCodec}

/-! ## Valid conditions -/

section Valid

variable {c : PageCondition}

theorem validate_inv (valid : c.validate codec = .ok ()) :
    match c.type with
    | .exactUrl => ∃ url parts, c.urlValue = some url ∧ AbsoluteUrl codec url parts
    | .originEquals => ∃ value declared, c.originValue = some value ∧
        normalizeOrigin codec (some value) = .ok declared
    | .pathEquals => ∃ path, c.pathValue = some path
    | .pathStartsWith => ∃ path, c.pathValue = some path
    | .queryParamEquals => ∃ name value, c.queryName = some name ∧ c.queryValue = some value
    | .elementVisible => ∃ locator, c.locator = some locator := by
  unfold PageCondition.validate at valid
  rw [rejectIf_bind_ok, bind_eq_ok] at valid
  obtain ⟨-, -, -, valid⟩ := valid
  rw [rejectIf_bind_ok] at valid
  obtain ⟨-, valid⟩ := valid
  have some_of_getD {value : Option (List Char)} (filled : value.getD [] ≠ []) :
      ∃ text, value = some text := by
    cases value with
    | none => exact absurd rfl filled
    | some text => exact ⟨text, rfl⟩
  have path (checked : c.validatePath = .ok ()) : ∃ path, c.pathValue = some path := by
    unfold PageCondition.validatePath at checked
    rw [rejectIf_bind_ok, decide_eq_false_iff_not, not_ne_iff] at checked
    apply some_of_getD
    intro empty
    rw [empty] at checked
    cases checked.1
  revert valid
  cases c.type with
  | exactUrl =>
      intro valid
      rw [rejectIf_bind_ok, decide_eq_false_iff_not] at valid
      obtain ⟨url, same⟩ := some_of_getD valid.1
      rw [same] at valid
      obtain ⟨parts, absolute⟩ := validateExactUrl_eq_ok.mp valid.2
      exact ⟨url, parts, same, absolute⟩
  | originEquals =>
      intro valid
      obtain ⟨declared, normalized, -⟩ := bind_eq_ok.mp valid
      cases given : c.originValue with
      | none =>
          rw [given] at normalized
          cases normalized
      | some value =>
          rw [given] at normalized
          exact ⟨value, declared, rfl, normalized⟩
  | pathEquals =>
      intro valid
      exact path valid
  | pathStartsWith =>
      intro valid
      exact path valid
  | queryParamEquals =>
      intro valid
      rw [rejectIf_bind_ok, rejectIf_eq_ok, decide_eq_false_iff_not, Option.isNone_eq_false_iff,
        Option.isSome_iff_exists] at valid
      obtain ⟨name, isName⟩ := some_of_getD valid.1
      obtain ⟨value, isValue⟩ := valid.2
      exact ⟨name, value, isName, isValue⟩
  | elementVisible =>
      intro valid
      unfold PageCondition.validateElement at valid
      cases given : c.locator with
      | none =>
          rw [given] at valid
          cases valid
      | some locator => exact ⟨locator, rfl⟩

end Valid

/-! ## What a URL has to meet -/

/-- A URL meets the part of a condition that is about URLs. -/
def MeetsUrl (codec : HostCodec) (url : List Char) (parts : SplitResult) (c : PageCondition) : Prop :=
  match c.type with
  | .exactUrl => ∃ declared declaredParts, c.urlValue = some declared ∧
      AbsoluteUrl codec declared declaredParts ∧
      (c.fragmentPolicy = .include → parts.fragment = declaredParts.fragment) ∧
      (rstripSlash (comparedText c.fragmentPolicy url parts) =
          rstripSlash (comparedText c.fragmentPolicy declared declaredParts) ∨
        SameDocument parts declaredParts)
  | .originEquals => ∃ origin,
      normalizeOrigin codec (some (SplitResult.geturl ⟨parts.scheme, parts.netloc, [], [], []⟩)) =
        .ok origin ∧ normalizeOrigin codec c.originValue = .ok origin
  | .pathEquals => c.pathValue = some (unquote parts.path)
  | .pathStartsWith => ∃ path, c.pathValue = some path ∧ path <+: unquote parts.path
  | .queryParamEquals => ∃ name value, c.queryName = some name ∧ c.queryValue = some value ∧
      occurrences (parseQsl parts.query) name = [value]
  | .elementVisible => True

section Evaluate

variable {page : PageState} {c : PageCondition} {parts : SplitResult}

theorem verdict_pass {passed : Bool} {pass fail : String} :
    (verdict passed pass fail).result = .pass ↔ passed = true := by
  cases passed <;> simp [verdict]

/-- A condition on the URL passes exactly at the URLs that meet it. -/
theorem evaluateCondition_url (valid : c.validate codec = .ok ())
    (absolute : AbsoluteUrl codec page.url parts) (onUrl : c.type ≠ .elementVisible) :
    (evaluateCondition codec page c).result = .pass ↔ MeetsUrl codec page.url parts c := by
  have current : currentUrl codec page.url = .ok ⟨parts, unquote parts.path, parseQsl parts.query⟩ :=
    currentUrl_eq_ok.mpr ⟨parts, absolute, rfl⟩
  have known := validate_inv valid
  cases type : c.type with
  | exactUrl =>
      rw [type] at known
      obtain ⟨url, declared, given, absoluteUrl⟩ := known
      rw [evaluateCondition_exactUrl absolute type given rfl, passes_iff absolute absoluteUrl]
      simp only [MeetsUrl, type]
      constructor
      · intro passes
        exact ⟨url, declared, given, absoluteUrl, passes⟩
      · rintro ⟨url', declared', given', absoluteUrl', passes⟩
        rw [given] at given'
        cases given'
        have same := absoluteUrl.split
        rw [absoluteUrl'.split] at same
        cases same
        exact passes
  | originEquals =>
      rw [type] at known
      obtain ⟨value, declared, given, normalized⟩ := known
      simp only [evaluateCondition, MeetsUrl, type, current, evaluateUrlCondition, given, normalized,
        assertSome]
      cases here : normalizeOrigin codec
          (some (SplitResult.geturl ⟨parts.scheme, parts.netloc, [], [], []⟩)) with
      | error e => simp [bind, Except.bind, pure, Except.pure]
      | ok actual =>
          simp only [normalized, bind, Except.bind, pure, Except.pure, reduceCtorEq, if_false,
            verdict_pass, decide_eq_true_eq, Except.ok.injEq]
          constructor
          · intro same
            exact ⟨actual, rfl, same.symm⟩
          · rintro ⟨origin, isActual, isDeclared⟩
            exact isActual.trans isDeclared.symm
  | pathEquals =>
      rw [type] at known
      obtain ⟨path, given⟩ := known
      simp only [evaluateCondition, MeetsUrl, type, current, evaluateUrlCondition, given, assertSome]
      simp only [bind, Except.bind, pure, Except.pure, reduceCtorEq, if_false, verdict_pass,
        decide_eq_true_eq, Option.some.injEq]
      exact eq_comm
  | pathStartsWith =>
      rw [type] at known
      obtain ⟨path, given⟩ := known
      simp only [evaluateCondition, MeetsUrl, type, current, evaluateUrlCondition, given, assertSome]
      simp [bind, Except.bind, pure, Except.pure, verdict_pass]
  | queryParamEquals =>
      rw [type] at known
      obtain ⟨name, value, isName, isValue⟩ := known
      simp only [evaluateCondition, MeetsUrl, type, current, evaluateUrlCondition, isName, isValue,
        assertSome]
      rcases found : occurrences (parseQsl parts.query) name with - | ⟨first, - | ⟨second, rest⟩⟩
      · simp [bind, Except.bind, pure, Except.pure, found]
      · simp [bind, Except.bind, pure, Except.pure, found, verdict_pass]
      · simp [bind, Except.bind, pure, Except.pure, found]
  | elementVisible => exact absurd type onUrl

theorem not_pass_of_not_absolute (notAbsolute : ¬ ∃ parts, AbsoluteUrl codec page.url parts)
    (onUrl : c.type ≠ .elementVisible) : (evaluateCondition codec page c).result ≠ .pass := by
  unfold evaluateCondition
  cases current : currentUrl codec page.url with
  | error e => simp [onUrl, pure, Except.pure]
  | ok read =>
      obtain ⟨parts, absolute, -⟩ := currentUrl_eq_ok.mp current
      exact absurd ⟨parts, absolute⟩ notAbsolute

theorem aggregate_pass {results : List PageConditionResult} :
    aggregate results = .pass ↔ ∀ r ∈ results, r.result = .pass := by
  unfold aggregate
  constructor
  · intro passed
    split at passed
    · cases passed
    · next determinate =>
        split at passed
        · cases passed
        · next unfailed =>
            intro r member
            rw [List.any_eq_true] at determinate unfailed
            cases result : r.result with
            | pass => rfl
            | fail => exact absurd ⟨r, member, by simp [result]⟩ unfailed
            | indeterminate => exact absurd ⟨r, member, by simp [result]⟩ determinate
  · intro each
    have without (value : PageConditionResultValue) (other : value ≠ .pass) :
        results.any (·.result = value) = false := by
      rw [List.any_eq_false]
      intro r member
      rw [each r member]
      simpa using other.symm
    rw [without _ (by decide), without _ (by decide)]
    rfl

theorem evaluateConditions_pass {conditions : List PageCondition} :
    evaluateConditions codec page conditions = .pass ↔
      ∀ c ∈ conditions, (evaluateCondition codec page c).result = .pass := by
  rw [evaluateConditions, aggregate_pass]
  simp

end Evaluate

/-! ## Conditions without an exact URL -/

section Contradictions

variable {conditions : List PageCondition} {url : List Char} {parts : SplitResult}

theorem length_dedup_le_one {α : Type} [DecidableEq α] {xs : List α}
    (same : ∀ x ∈ xs, ∀ y ∈ xs, x = y) : xs.dedup.length ≤ 1 := by
  have nodup := List.nodup_dedup xs
  have member : ∀ x ∈ xs.dedup, x ∈ xs := fun x there => List.mem_dedup.mp there
  rcases dedup : xs.dedup with - | ⟨first, - | ⟨second, rest⟩⟩
  · simp
  · simp
  · rw [dedup] at nodup member
    have equal := same first (member first (by simp)) second (member second (by simp))
    simp [equal] at nodup

theorem exactUrls_eq_nil (noExact : ∀ c ∈ conditions, c.type ≠ .exactUrl) :
    exactUrls conditions = [] := by
  unfold exactUrls
  rw [List.filterMap_eq_nil_iff]
  intro c member
  rw [if_neg (noExact c member)]

theorem mem_uniquePaths {type : PageConditionType} {path : List Char}
    (member : path ∈ uniquePaths conditions type) :
    ∃ c ∈ conditions, c.type = type ∧ c.pathValue.getD "None".toList = path := by
  unfold uniquePaths ofType at member
  rw [List.mem_dedup, List.mem_map] at member
  obtain ⟨c, there, same⟩ := member
  rw [List.mem_filter, decide_eq_true_eq] at there
  exact ⟨c, there.1, there.2, same⟩

theorem path_of_meets (meets : ∀ c ∈ conditions, MeetsUrl codec url parts c) {path : List Char}
    (member : path ∈ uniquePaths conditions .pathEquals) : path = unquote parts.path := by
  obtain ⟨c, there, type, same⟩ := mem_uniquePaths member
  have met := meets c there
  simp only [MeetsUrl, type] at met
  rw [← same, met]
  rfl

theorem prefix_of_meets (meets : ∀ c ∈ conditions, MeetsUrl codec url parts c) {path : List Char}
    (member : path ∈ uniquePaths conditions .pathStartsWith) : path <+: unquote parts.path := by
  obtain ⟨c, there, type, same⟩ := mem_uniquePaths member
  have met := meets c there
  simp only [MeetsUrl, type] at met
  obtain ⟨path', given, isPrefix⟩ := met
  rw [← same, given]
  exact isPrefix

theorem queryParams_of_meets (meets : ∀ c ∈ conditions, MeetsUrl codec url parts c) :
    ∃ params, queryParams conditions = .ok params ∧
      ∀ param ∈ params, occurrences (parseQsl parts.query) param.1 = [param.2] := by
  have each : ∀ c ∈ ofType conditions .queryParamEquals, ∃ name value, c.queryName = some name ∧
      c.queryValue = some value ∧ occurrences (parseQsl parts.query) name = [value] := by
    intro c member
    rw [ofType, List.mem_filter, decide_eq_true_eq] at member
    have met := meets c member.1
    simp only [MeetsUrl, member.2] at met
    exact met
  have returned : ∃ params, queryParams conditions = .ok params := by
    apply mapM_ok_of_forall
    intro c member
    obtain ⟨name, value, isName, isValue, -⟩ := each c member
    rw [isName, isValue]
    exact ⟨(name, value), rfl⟩
  obtain ⟨params, mapped⟩ := returned
  refine ⟨params, mapped, ?_⟩
  intro param member
  obtain ⟨c, there, here⟩ := mem_of_mapM_eq_ok mapped member
  obtain ⟨name, value, isName, isValue, found⟩ := each c there
  rw [isName, isValue] at here
  have same : (name, value) = param := Except.ok.inj here
  rw [← same]
  exact found

theorem origins_of_meets (meets : ∀ c ∈ conditions, MeetsUrl codec url parts c) :
    ∃ origins, (ofType conditions .originEquals).mapM
        (fun c => normalizeOrigin codec c.originValue) = .ok origins ∧
      ∀ origin ∈ origins, normalizeOrigin codec
        (some (SplitResult.geturl ⟨parts.scheme, parts.netloc, [], [], []⟩)) = .ok origin := by
  have each : ∀ c ∈ ofType conditions .originEquals, ∃ origin,
      normalizeOrigin codec (some (SplitResult.geturl ⟨parts.scheme, parts.netloc, [], [], []⟩)) =
        .ok origin ∧ normalizeOrigin codec c.originValue = .ok origin := by
    intro c member
    rw [ofType, List.mem_filter, decide_eq_true_eq] at member
    have met := meets c member.1
    simp only [MeetsUrl, member.2] at met
    exact met
  have returned : ∃ origins, (ofType conditions .originEquals).mapM
      (fun c => normalizeOrigin codec c.originValue) = .ok origins := by
    apply mapM_ok_of_forall
    intro c member
    obtain ⟨origin, -, declared⟩ := each c member
    exact ⟨origin, declared⟩
  obtain ⟨origins, mapped⟩ := returned
  refine ⟨origins, mapped, ?_⟩
  intro origin member
  obtain ⟨c, there, declared⟩ := mem_of_mapM_eq_ok mapped member
  obtain ⟨origin', actual, declared'⟩ := each c there
  rw [declared] at declared'
  rw [Except.ok.inj declared']
  exact actual

/-- Conditions that a URL meets pass all checks among themselves. -/
theorem validate_of_meets (noExact : ∀ c ∈ conditions, c.type ≠ .exactUrl)
    (meets : ∀ c ∈ conditions, MeetsUrl codec url parts c) :
    validateContradictions codec conditions = .ok () := by
  obtain ⟨params, paramsOk, found⟩ := queryParams_of_meets meets
  obtain ⟨origins, originsOk, isOrigin⟩ := origins_of_meets meets
  have included : exactUrls (conditions.filter fun c => c.fragmentPolicy = .include) = [] :=
    exactUrls_eq_nil fun c member => noExact c (List.mem_of_mem_filter member)
  have oneOrigin : origins.dedup.length ≤ 1 := by
    apply length_dedup_le_one
    intro a ha b hb
    have same := isOrigin a ha
    rw [isOrigin b hb] at same
    exact (Except.ok.inj same).symm
  have onePath : (uniquePaths conditions .pathEquals).length ≤ 1 := by
    apply length_dedup_le_one
    intro a ha b hb
    have path (x : List Char) (there : x ∈ (ofType conditions .pathEquals).map fun c =>
        c.pathValue.getD "None".toList) : x = unquote parts.path :=
      path_of_meets meets (List.mem_dedup.mpr there)
    rw [path a ha, path b hb]
  have comparable : (uniquePaths conditions .pathStartsWith).any (fun left =>
      (uniquePaths conditions .pathStartsWith).any fun right =>
        !(right.isPrefixOf left || left.isPrefixOf right)) = false := by
    rw [List.any_eq_false]
    intro left hl
    rw [Bool.not_eq_true, List.any_eq_false]
    intro right hr
    have either := List.prefix_or_prefix_of_prefix (prefix_of_meets meets hr)
      (prefix_of_meets meets hl)
    rw [Bool.not_eq_true, Bool.not_eq_false', Bool.or_eq_true, List.isPrefixOf_iff_prefix,
      List.isPrefixOf_iff_prefix]
    exact either
  have oneValue : ((params.map Prod.fst).dedup.any fun name => (valuesOf params name).length > 1) =
      false := by
    rw [List.any_eq_false]
    intro name _
    have few : (valuesOf params name).length ≤ 1 := by
      apply length_dedup_le_one
      intro a ha b hb
      have value (x : List Char)
          (there : x ∈ (params.filter fun param => param.1 = name).map Prod.snd) :
          occurrences (parseQsl parts.query) name = [x] := by
        obtain ⟨param, member, same⟩ := List.mem_map.mp there
        rw [List.mem_filter, decide_eq_true_eq] at member
        have one := found param member.1
        rw [member.2, same] at one
        exact one
      have both := value a ha
      rw [value b hb] at both
      exact (List.cons.inj both).1.symm
    simpa using few
  have noContradiction (path : List Char) (member : path ∈ uniquePaths conditions .pathEquals) :
      (uniquePaths conditions .pathStartsWith).any (fun pre => !pre.isPrefixOf path) = false := by
    rw [List.any_eq_false]
    intro pre there
    rw [Bool.not_eq_true, Bool.not_eq_false', List.isPrefixOf_iff_prefix, path_of_meets meets member]
    exact prefix_of_meets meets there
  have ok_bind {α β : Type} (a : α) (f : α → Except PyException β) : (.ok a >>= f) = f a := rfl
  unfold validateContradictions
  rw [included, exactUrls_eq_nil noExact]
  simp only [List.mapM_nil, pure_bind, originsOk, paramsOk, ok_bind, rejectIf_bind_ok, comparable]
  refine ⟨by simp, decide_eq_false (by omega), decide_eq_false (by omega), trivial, ?_⟩
  have done : (rejectIf ((params.map Prod.fst).dedup.any fun name => (valuesOf params name).length > 1)
      "contradictory query_param_equals conditions" >>= fun _ => pure ()) = .ok () :=
    rejectIf_bind_ok.mpr ⟨oneValue, rfl⟩
  rcases paths : uniquePaths conditions .pathEquals with - | ⟨path, rest⟩
  · exact done
  · exact rejectIf_bind_ok.mpr ⟨noContradiction path (by simp [paths]), done⟩

/-! ## Slashes at the end of an exact URL -/

/-- A text with the fragment that a policy asks for. -/
def withFragment (policy : FragmentPolicy) (fragment text : List Char) : List Char :=
  match policy with
  | .ignore => text
  | .include => if fragment ≠ [] then text ++ '#' :: fragment else text

/-- The URLs that differ from a declared one in the slashes at the end of its path, or in
those at the end of the text that is compared first. -/
inductive SlashVariant (policy : FragmentPolicy) (declared : List Char) (parts : SplitResult) :
    List Char → Prop
  | path (slashes : Nat) : SlashVariant policy declared parts
      (withFragment policy parts.fragment
        (SplitResult.geturl ⟨parts.scheme, parts.netloc,
          rstripSlash parts.path ++ List.replicate slashes '/', parts.query, []⟩))
  | text (slashes : Nat) : SlashVariant policy declared parts
      (withFragment policy parts.fragment
        (rstripSlash (comparedText policy declared parts) ++ List.replicate slashes '/'))

/-- A condition asks for the URL's parts only, unless it is met by its text. -/
theorem MeetsUrl.transfer {c : PageCondition} {url' : List Char} {parts' : SplitResult}
    (met : MeetsUrl codec url parts c)
    (bare : SplitResult.mk parts'.scheme parts'.netloc parts'.path parts'.query [] =
      ⟨parts.scheme, parts.netloc, parts.path, parts.query, []⟩)
    (byParts : c.type = .exactUrl → c.fragmentPolicy = .ignore →
      ∀ declared declaredParts, c.urlValue = some declared →
        AbsoluteUrl codec declared declaredParts → SameDocument parts declaredParts)
    (fragment : c.type = .exactUrl → c.fragmentPolicy = .include →
      parts'.fragment = parts.fragment) :
    MeetsUrl codec url' parts' c := by
  obtain ⟨scheme, netloc, path, query, -⟩ := SplitResult.mk.inj bare
  cases type : c.type with
  | exactUrl =>
      simp only [MeetsUrl, type] at met ⊢
      obtain ⟨declared, declaredParts, given, absolute, fragments, same⟩ := met
      have moved (document : SameDocument parts declaredParts) :
          SameDocument parts' declaredParts := by
        refine ⟨scheme.trans document.scheme, netloc.trans document.netloc,
          query.trans document.query, ?_⟩
        rw [path]
        exact document.path
      refine ⟨declared, declaredParts, given, absolute, ?_, ?_⟩
      · intro policy
        rw [fragment type policy]
        exact fragments policy
      · cases policy : c.fragmentPolicy with
        | ignore => exact .inr (moved (byParts type policy declared declaredParts given absolute))
        | «include» =>
            rw [policy] at same
            rcases same with texts | document
            · left
              simp only [comparedText] at texts ⊢
              rw [bare]
              exact texts
            · exact .inr (moved document)
  | originEquals =>
      simp only [MeetsUrl, type] at met ⊢
      rw [scheme, netloc]
      exact met
  | pathEquals =>
      simp only [MeetsUrl, type] at met ⊢
      rw [path]
      exact met
  | pathStartsWith =>
      simp only [MeetsUrl, type] at met ⊢
      rw [path]
      exact met
  | queryParamEquals =>
      simp only [MeetsUrl, type] at met ⊢
      rw [query]
      exact met
  | elementVisible => simp only [MeetsUrl, type]

theorem geturl_eq_withFragment (r : SplitResult) : r.geturl =
    withFragment .include r.fragment (SplitResult.geturl ⟨r.scheme, r.netloc, r.path, r.query, []⟩) := by
  by_cases marked : r.fragment = []
  · simp [withFragment, SplitResult.geturl, marked]
  · simp [withFragment, SplitResult.geturl, marked]

theorem rstripSlash_of_documentPath {path path' : List Char}
    (same : documentPath path = documentPath path') : rstripSlash path = rstripSlash path' := by
  have stripped (s : List Char) : rstripSlash (documentPath s) = rstripSlash s := by
    unfold documentPath
    split
    · next empty =>
        rw [empty]
        rfl
    · exact rstripSlash_idem s
  rw [← stripped path, same, stripped path']

/-- A declared URL with a variant of it that is a URL. -/
structure Candidate (codec : HostCodec) (c : PageCondition) (url : List Char) (parts : SplitResult) :
    Prop where
  exact_ : c.type = .exactUrl
  variant : ∃ declared declaredParts, c.urlValue = some declared ∧
    AbsoluteUrl codec declared declaredParts ∧
    SlashVariant c.fragmentPolicy declared declaredParts url
  absolute : AbsoluteUrl codec url parts

section Candidates

variable {c : PageCondition} {declared : List Char} {declaredParts : SplitResult}

/-- A URL that is the declared one up to slashes at its end is a variant. -/
theorem candidate_of_text (exact_ : c.type = .exactUrl) (policy : c.fragmentPolicy = .ignore)
    (given : c.urlValue = some declared) (known : AbsoluteUrl codec declared declaredParts)
    (absolute : AbsoluteUrl codec url parts) (same : rstripSlash url = rstripSlash declared) :
    Candidate codec c url parts := by
  refine ⟨exact_, ⟨declared, declaredParts, given, known, ?_⟩, absolute⟩
  obtain ⟨slashes, whole⟩ := eq_rstripSlash_append url
  have variant : SlashVariant .ignore declared declaredParts _ := .text slashes
  simp only [withFragment, comparedText] at variant
  rw [← same, ← whole] at variant
  rw [policy]
  exact variant

theorem AbsoluteUrl.geturl (absolute : AbsoluteUrl codec url parts) :
    AbsoluteUrl codec parts.geturl parts :=
  ⟨(SplitResult.wellFormed_of_urlsplit absolute.split absolute.scheme).urlsplit_geturl,
    absolute.scheme, absolute.userinfo, absolute.host, absolute.port⟩

/-- A URL that is the declared one up to slashes at its end and the fragment is a variant,
as its parts are written. -/
theorem candidate_of_document (exact_ : c.type = .exactUrl) (policy : c.fragmentPolicy = .include)
    (given : c.urlValue = some declared) (known : AbsoluteUrl codec declared declaredParts)
    (absolute : AbsoluteUrl codec url parts) (fragment : parts.fragment = declaredParts.fragment)
    (same : rstripSlash (comparedText .include url parts) =
      rstripSlash (comparedText .include declared declaredParts)) :
    Candidate codec c parts.geturl parts := by
  refine ⟨exact_, ⟨declared, declaredParts, given, known, ?_⟩, absolute.geturl⟩
  obtain ⟨slashes, whole⟩ := eq_rstripSlash_append (comparedText .include url parts)
  rw [policy, geturl_eq_withFragment, fragment]
  have text : SplitResult.geturl ⟨parts.scheme, parts.netloc, parts.path, parts.query, []⟩ =
      rstripSlash (comparedText .include declared declaredParts) ++ List.replicate slashes '/' := by
    rw [← same]
    exact whole
  rw [text]
  exact .text slashes

/-- A URL of the same document is a variant, as its parts are written. -/
theorem candidate_of_path (exact_ : c.type = .exactUrl) (given : c.urlValue = some declared)
    (known : AbsoluteUrl codec declared declaredParts) (absolute : AbsoluteUrl codec url parts)
    (fragment : c.fragmentPolicy = .include → parts.fragment = declaredParts.fragment)
    (bare : c.fragmentPolicy = .ignore → parts.fragment = [])
    (document : SameDocument parts declaredParts) : Candidate codec c parts.geturl parts := by
  refine ⟨exact_, ⟨declared, declaredParts, given, known, ?_⟩, absolute.geturl⟩
  obtain ⟨slashes, whole⟩ := eq_rstripSlash_append parts.path
  rw [rstripSlash_of_documentPath document.path] at whole
  have text : SplitResult.geturl ⟨parts.scheme, parts.netloc, parts.path, parts.query, []⟩ =
      SplitResult.geturl ⟨declaredParts.scheme, declaredParts.netloc,
        rstripSlash declaredParts.path ++ List.replicate slashes '/', declaredParts.query, []⟩ := by
    rw [document.scheme, document.netloc, document.query, ← whole]
  have written : parts.geturl = withFragment c.fragmentPolicy declaredParts.fragment
      (SplitResult.geturl ⟨parts.scheme, parts.netloc, parts.path, parts.query, []⟩) := by
    rw [geturl_eq_withFragment parts]
    cases policy : c.fragmentPolicy with
    | ignore => rw [bare policy]; rfl
    | «include» => rw [fragment policy]
  rw [written, text]
  exact .path slashes

end Candidates

/-- Where a URL meets all conditions and one of them is an exact URL, so does a variant of an
exact URL. -/
theorem exists_variant (exact_ : ∃ c ∈ conditions, c.type = .exactUrl)
    (absolute : AbsoluteUrl codec url parts)
    (meets : ∀ c ∈ conditions, MeetsUrl codec url parts c) :
    ∃ c ∈ conditions, ∃ url' parts', Candidate codec c url' parts' ∧
      ∀ c ∈ conditions, MeetsUrl codec url' parts' c := by
  have met {c : PageCondition} (member : c ∈ conditions) (type : c.type = .exactUrl)
      {declared : List Char} {declaredParts : SplitResult} (given : c.urlValue = some declared)
      (known : AbsoluteUrl codec declared declaredParts) :
      (c.fragmentPolicy = .include → parts.fragment = declaredParts.fragment) ∧
        (rstripSlash (comparedText c.fragmentPolicy url parts) =
          rstripSlash (comparedText c.fragmentPolicy declared declaredParts) ∨
          SameDocument parts declaredParts) := by
    have whole := meets c member
    simp only [MeetsUrl, type] at whole
    obtain ⟨declared', declaredParts', given', known', rest⟩ := whole
    rw [given] at given'
    cases given'
    have same := known.split
    rw [known'.split] at same
    cases same
    exact rest
  have declares {c : PageCondition} (member : c ∈ conditions) (type : c.type = .exactUrl) :
      ∃ declared declaredParts, c.urlValue = some declared ∧
        AbsoluteUrl codec declared declaredParts := by
    have whole := meets c member
    simp only [MeetsUrl, type] at whole
    obtain ⟨declared, declaredParts, given, known, -⟩ := whole
    exact ⟨declared, declaredParts, given, known⟩
  by_cases byText : ∃ c ∈ conditions, c.type = .exactUrl ∧ c.fragmentPolicy = .ignore ∧
      ∃ declared declaredParts, c.urlValue = some declared ∧
        AbsoluteUrl codec declared declaredParts ∧ rstripSlash url = rstripSlash declared
  · obtain ⟨c, member, type, policy, declared, declaredParts, given, known, same⟩ := byText
    exact ⟨c, member, url, parts,
      candidate_of_text type policy given known absolute same, meets⟩
  -- no condition that ignores fragments is met by its text, so the parts may be written anew
  have byParts : ∀ c ∈ conditions, c.type = .exactUrl → c.fragmentPolicy = .ignore →
      ∀ declared declaredParts, c.urlValue = some declared →
        AbsoluteUrl codec declared declaredParts → SameDocument parts declaredParts := by
    intro c member type policy declared declaredParts given known
    obtain ⟨-, texts | document⟩ := met member type given known
    · rw [policy] at texts
      exact absurd ⟨c, member, type, policy, declared, declaredParts, given, known, texts⟩ byText
    · exact document
  by_cases included : ∃ c ∈ conditions, c.type = .exactUrl ∧ c.fragmentPolicy = .include
  · obtain ⟨c, member, type, policy⟩ := included
    obtain ⟨declared, declaredParts, given, known⟩ := declares member type
    obtain ⟨fragment, same⟩ := met member type given known
    have candidate : Candidate codec c parts.geturl parts := by
      rcases same with texts | document
      · rw [policy] at texts
        exact candidate_of_document type policy given known absolute (fragment policy) texts
      · refine candidate_of_path type given known absolute fragment ?_ document
        intro ignored
        rw [policy] at ignored
        cases ignored
    refine ⟨c, member, parts.geturl, parts, candidate, ?_⟩
    intro c' member'
    exact (meets c' member').transfer rfl (byParts c' member') fun _ _ => rfl
  · obtain ⟨c, member, type⟩ := exact_
    have ignores : ∀ c ∈ conditions, c.type = .exactUrl → c.fragmentPolicy = .ignore := by
      intro c member type
      cases policy : c.fragmentPolicy with
      | ignore => rfl
      | «include» => exact absurd ⟨c, member, type, policy⟩ included
    obtain ⟨declared, declaredParts, given, known⟩ := declares member type
    have document := byParts c member type (ignores c member type) declared declaredParts given known
    have candidate : Candidate codec c (SplitResult.geturl { parts with fragment := [] })
        { parts with fragment := [] } := by
      refine candidate_of_path type given known absolute.withoutFragment ?_ (fun _ => rfl)
        ⟨document.scheme, document.netloc, document.query, document.path⟩
      intro policy
      rw [ignores c member type] at policy
      cases policy
    refine ⟨c, member, _, _, candidate, ?_⟩
    intro c' member'
    refine (meets c' member').transfer rfl (byParts c' member') ?_
    intro type' policy
    rw [ignores c' member' type'] at policy
    cases policy

/-! ## Which refusals are right -/

/-- A page at a URL on which every element is visible. -/
def visiblePage (url : List Char) : PageState where
  url
  readElementState _ _ _ :=
    .ok { availability := .available, matchCount := 1, exists_ := true, visible := some true }

theorem evaluateCondition_visiblePage {c : PageCondition} (valid : c.validate codec = .ok ())
    (type : c.type = .elementVisible) :
    (evaluateCondition codec (visiblePage url) c).result = .pass := by
  have known := validate_inv valid
  rw [type] at known
  obtain ⟨locator, given⟩ := known
  simp only [evaluateCondition, type, if_true, evaluateElementVisible, given]
  rfl

theorem meets_of_pass {page : PageState} (valid : ∀ c ∈ conditions, c.validate codec = .ok ())
    (absolute : AbsoluteUrl codec page.url parts)
    (passed : ∀ c ∈ conditions, (evaluateCondition codec page c).result = .pass) :
    ∀ c ∈ conditions, MeetsUrl codec page.url parts c := by
  intro c member
  by_cases type : c.type = .elementVisible
  · simp only [MeetsUrl, type]
  · exact (evaluateCondition_url (valid c member) absolute type).mp (passed c member)

/-- Of the valid conditions that are refused as contradictory, no page meets all exactly
where no URL does that is one of their exact URLs with other slashes at the end of its path
or of its text. -/
theorem contradictory_iff (valid : ∀ c ∈ conditions, c.validate codec = .ok ()) {e : PyException}
    (refused : validateContradictions codec conditions = .error e) :
    (∀ page, evaluateConditions codec page conditions ≠ .pass) ↔
      ∀ c ∈ conditions, ∀ url parts, Candidate codec c url parts →
        ∃ c' ∈ conditions, ¬ MeetsUrl codec url parts c' := by
  constructor
  · intro never c member url parts candidate
    by_contra all
    push Not at all
    apply never (visiblePage url)
    rw [evaluateConditions_pass]
    intro c' member'
    by_cases type : c'.type = .elementVisible
    · exact evaluateCondition_visiblePage (valid c' member') type
    · have here : AbsoluteUrl codec (visiblePage url).url parts := candidate.absolute
      exact (evaluateCondition_url (valid c' member') here type).mpr (all c' member')
  · intro none page passed
    rw [evaluateConditions_pass] at passed
    have notMet (noExact : ∀ c ∈ conditions, c.type ≠ .exactUrl) (url : List Char)
        (parts : SplitResult) : ¬ ∀ c ∈ conditions, MeetsUrl codec url parts c := by
      intro meets
      rw [validate_of_meets noExact meets] at refused
      cases refused
    by_cases absolute : ∃ parts, AbsoluteUrl codec page.url parts
    · obtain ⟨parts, absolute⟩ := absolute
      have meets := meets_of_pass valid absolute passed
      by_cases exact_ : ∃ c ∈ conditions, c.type = .exactUrl
      · obtain ⟨c, member, url', parts', candidate, all⟩ := exists_variant exact_ absolute meets
        obtain ⟨c', member', unmet⟩ := none c member url' parts' candidate
        exact unmet (all c' member')
      · push Not at exact_
        exact notMet exact_ page.url parts meets
    · have elements : ∀ c ∈ conditions, c.type = .elementVisible := by
        intro c member
        by_contra onUrl
        exact not_pass_of_not_absolute absolute onUrl (passed c member)
      refine notMet ?_ page.url ⟨[], [], [], [], []⟩ ?_
      · intro c member
        rw [elements c member]
        decide
      · intro c member
        simp only [MeetsUrl, elements c member]

end Contradictions

/-! ## Two refusals -/

def originCondition (id origin : String) : PageCondition where
  conditionId := id.toList
  type := .originEquals
  originValue := some origin.toList

/-- No page has two origins. -/
theorem contradictory_origins : evaluateConditions asciiCodec (pageAt "http://a".toList)
    [originCondition "a" "http://a", originCondition "b" "http://b"] ≠ .pass := by
  have refused : validateContradictions asciiCodec
      [originCondition "a" "http://a", originCondition "b" "http://b"] =
        .error (.valueError "contradictory origin_equals conditions") := by
    decide +kernel
  refine (contradictory_iff ?_ refused).mpr ?_ (pageAt "http://a".toList)
  · decide +kernel
  · intro c member url parts candidate
    have exact_ := candidate.exact_
    simp only [List.mem_cons, List.not_mem_nil, or_false] at member
    rcases member with same | same
    · rw [same] at exact_
      cases exact_
    · rw [same] at exact_
      cases exact_

/-- An exact URL with a slash at its end and one without are refused together, and met
together. -/
theorem refused_of_slash : ∃ (precondition : PagePrecondition) (page : PageState),
    precondition.validate asciiCodec = .error (.valueError "contradictory exact_url conditions") ∧
      evaluateConditions asciiCodec page precondition.conditions = .pass := by
  refine ⟨⟨[{ exactUrlCondition "http://h/p".toList .ignore with conditionId := "a".toList },
    { exactUrlCondition "http://h/p/".toList .ignore with conditionId := "b".toList }], "all"⟩,
    pageAt "http://h/p".toList, ?_⟩
  decide +kernel

end Dingdongditch
