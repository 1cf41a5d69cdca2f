import Dingdongditch.Contract.OriginPolicy
import Dingdongditch.Runtime.Verifier
import Mathlib.Data.List.Count

/-!
# What a network expectation decides

`Meets` is the conjunction of the constraints that a network expectation declares, for
one record.  `networkMatches` counts records that meet another one: where neither the
response, nor a status, nor a time limit is declared, it counts only records without a
response.

The result is decided by the number of records that meet the expectation exactly where
this makes no difference (`networkMatches_exact_iff`).
-/

namespace Dingdongditch

open Text

/-! ## The declared constraints -/

/-- The time between the request and the response of a record whose request was seen. -/
def NetworkRecord.elapsedMs (record : NetworkRecord) : Option Int :=
  if record.requestObserved = some false then none
  else do
    let request ← record.requestObservedAtMs
    let response ← record.responseObservedAtMs
    return max 0 (response - request)

/-- The URL without its query and its fragment. -/
def bareUrl (parsed : SplitResult) : List Char := { parsed with query := [], fragment := [] }.geturl

def NetworkUrlMatchMode.Matches (mode : NetworkUrlMatchMode) (needle : List Char)
    (parsed : SplitResult) : Prop :=
  match mode with
  | .contains => needle <:+: bareUrl parsed
  | .exact => needle = bareUrl parsed
  | .pathExact => needle = parsed.path
  | .pathContains => needle <:+: parsed.path

instance (mode : NetworkUrlMatchMode) (needle : List Char) (parsed : SplitResult) :
    Decidable (mode.Matches needle parsed) :=
  match mode with
  | .contains => inferInstanceAs (Decidable (_ <:+: _))
  | .exact => inferInstanceAs (Decidable (_ = _))
  | .pathExact => inferInstanceAs (Decidable (_ = _))
  | .pathContains => inferInstanceAs (Decidable (_ <:+: _))

namespace Expectation

variable (codec : HostCodec) (e : Expectation) (record : NetworkRecord)

/-- The record is of a URL that matches in the declared mode. -/
def UrlMeets : Prop :=
  ∃ needle ∈ e.networkUrlSubstring, ∃ parsed ∈ record.url.bind (urlsplit codec ·.toList),
    e.networkUrlMatch.Matches needle.toList parsed

/-- When the event that the expectation asserts happened. -/
def assertedAtMs : Option Int :=
  if e.networkRequestObserved then record.requestObservedAtMs else record.responseObservedAtMs

/-- The constraints other than the one on the response. -/
def MeetsApartFromResponse (actionStartedAtMs : Int) : Prop :=
  e.UrlMeets codec record ∧
    (∀ method ∈ e.networkMethod, method.text ≠ "" → record.method = some method.text) ∧
    (e.networkRequestObserved = true → record.requestObserved ≠ some false) ∧
    (∀ status ∈ e.networkStatus, record.status = some status) ∧
    (∀ limit ∈ e.networkMaxElapsedMs, ∃ elapsed ∈ record.elapsedMs, elapsed ≤ limit) ∧
    ∃ at_ ∈ e.assertedAtMs record, actionStartedAtMs ≤ at_

/-- The response was observed or not, as declared, and it was where a status or a time
limit is declared. -/
def ResponseMeets : Prop :=
  (∀ observed ∈ e.networkResponseObserved, record.responseObservedAtMs.isSome = observed) ∧
    (e.networkStatus.isSome ∨ e.networkMaxElapsedMs.isSome →
      record.responseObservedAtMs.isSome = true)

/-- The record meets every constraint that the expectation declares. -/
def Meets (actionStartedAtMs : Int) : Prop :=
  e.MeetsApartFromResponse codec record actionStartedAtMs ∧ e.ResponseMeets record

/-- The expectation says something about the response. -/
def DeclaresResponse : Prop :=
  e.networkResponseObserved.isSome ∨ e.networkStatus.isSome ∨ e.networkMaxElapsedMs.isSome

instance : Decidable (e.UrlMeets codec record) := inferInstanceAs (Decidable (∃ _ ∈ _, ∃ _ ∈ _, _))

instance (actionStartedAtMs : Int) :
    Decidable (e.MeetsApartFromResponse codec record actionStartedAtMs) :=
  inferInstanceAs (Decidable (_ ∧ _ ∧ _ ∧ _ ∧ _ ∧ _))

instance : Decidable (e.ResponseMeets record) := inferInstanceAs (Decidable (_ ∧ _))

instance (actionStartedAtMs : Int) : Decidable (e.Meets codec record actionStartedAtMs) :=
  inferInstanceAs (Decidable (_ ∧ _))

end Expectation

/-! ## What is counted -/

section Filter

variable {ε α : Type} {f : α → Except ε Bool} {g : α → Bool} {xs kept : List α}

theorem filterAuxM_eq_ok (each : ∀ x ∈ xs, f x = .ok (g x)) (acc : List α) :
    xs.filterAuxM f acc = .ok ((xs.filter g).reverse ++ acc) := by
  induction xs generalizing acc with
  | nil => rfl
  | cons x xs ih =>
      obtain ⟨here, later⟩ := List.forall_mem_cons.mp each
      unfold List.filterAuxM
      rw [here, List.filter_cons]
      cases g x with
      | true =>
          rw [if_pos rfl, List.reverse_cons, List.append_assoc]
          exact ih later (x :: acc)
      | false => exact ih later acc

theorem filterM_eq_ok (each : ∀ x ∈ xs, f x = .ok (g x)) : xs.filterM f = .ok (xs.filter g) := by
  unfold List.filterM
  rw [filterAuxM_eq_ok each]
  simp [bind, Except.bind, pure, Except.pure]

theorem of_filterAuxM_eq_ok {acc : List α} (filtered : xs.filterAuxM f acc = .ok kept) :
    ∀ x ∈ xs, ∃ b, f x = .ok b := by
  induction xs generalizing acc with
  | nil => simp
  | cons x xs ih =>
      obtain ⟨b, here, later⟩ := bind_eq_ok.mp filtered
      intro y member
      rcases List.mem_cons.mp member with rfl | member
      · exact ⟨b, here⟩
      · exact ih later y member

theorem of_filterM_eq_ok (filtered : xs.filterM f = .ok kept) : ∀ x ∈ xs, ∃ b, f x = .ok b := by
  obtain ⟨_, filtered, -⟩ := bind_eq_ok.mp filtered
  exact of_filterAuxM_eq_ok filtered

end Filter

/-- The result for so many records. -/
def resultOfCount : Nat → ResultValue
  | 0 => .fail
  | 1 => .pass
  | _ => .indeterminate

section Counting

variable {codec : HostCodec} {e : Expectation} {record : NetworkRecord} {actionStartedAtMs : Int}

/-- Every URL of the records can be taken apart. -/
def SplitUrls (codec : HostCodec) (records : List NetworkRecord) : Prop :=
  ∀ record ∈ records, ∀ url ∈ record.url, (urlsplit codec url.toList).isSome = true

theorem networkUrlMatches_iff {b : Bool} {needle : String}
    (given : e.networkUrlSubstring = some needle) :
    networkUrlMatches codec e record.url = .ok b ↔
      (∀ url ∈ record.url, (urlsplit codec url.toList).isSome = true) ∧
        (b = true ↔ e.UrlMeets codec record) := by
  unfold networkUrlMatches Expectation.UrlMeets
  rw [given]
  cases isUrl : record.url with
  | none => cases b <;> simp [pure, Except.pure]
  | some url =>
      cases split : urlsplit codec url.toList with
      | none => simp [split, throw, throwThe, MonadExceptOf.throw]
      | some parsed =>
          simp only [split, Option.mem_def, Option.some.injEq, Option.bind_some, exists_eq_left',
            forall_eq', Option.isSome_some, true_and]
          cases e.networkUrlMatch with
          | contains | pathContains =>
              simp only [NetworkUrlMatchMode.Matches, pure, Except.pure, Except.ok.injEq,
                ← contains_iff, bareUrl]
              rw [← Bool.eq_iff_iff]
              exact eq_comm
          | exact | pathExact =>
              simp only [NetworkUrlMatchMode.Matches, pure, Except.pure, Except.ok.injEq, bareUrl]
              cases b with
              | true => simp
              | false => simp

/-- The records that are counted. -/
def Counted (codec : HostCodec) (e : Expectation) (actionStartedAtMs : Int) (record : NetworkRecord) :
    Prop :=
  e.MeetsApartFromResponse codec record actionStartedAtMs ∧
    record.responseObservedAtMs.isSome = e.responseRequired

instance : Decidable (Counted codec e actionStartedAtMs record) := inferInstanceAs (Decidable (_ ∧ _))

theorem method_iff : ((e.networkMethod.map (·.text)).all fun method =>
    method = "" || record.method == some method) = true ↔
      ∀ method ∈ e.networkMethod, method.text ≠ "" → record.method = some method.text := by
  cases e.networkMethod with
  | none => simp
  | some method => simp [or_iff_not_imp_left]

theorem elapsed_iff {limit : Int} :
    (match record.requestObservedAtMs, record.responseObservedAtMs with
      | some request, some response =>
          record.requestObserved != some false && decide (max 0 (response - request) ≤ limit)
      | _, _ => false) = true ↔ ∃ elapsed ∈ record.elapsedMs, elapsed ≤ limit := by
  unfold NetworkRecord.elapsedMs
  by_cases unseen : record.requestObserved = some false
  · simp only [if_pos unseen]
    split
    · simp [unseen]
    · simp
  · simp only [if_neg unseen]
    cases record.requestObservedAtMs with
    | none => simp
    | some request =>
        cases record.responseObservedAtMs with
        | none => simp
        | some response => simp [unseen]

theorem networkAssertion_iff : e.networkAssertion record = true ↔
    (e.networkRequestObserved = true → record.requestObserved ≠ some false) ∧
      record.responseObservedAtMs.isSome = e.responseRequired ∧
      (∀ status ∈ e.networkStatus, record.status = some status) ∧
      ∀ limit ∈ e.networkMaxElapsedMs, ∃ elapsed ∈ record.elapsedMs, elapsed ≤ limit := by
  unfold Expectation.networkAssertion
  have status : (e.networkStatus.isNone || record.status == e.networkStatus) = true ↔
      ∀ status ∈ e.networkStatus, record.status = some status := by
    cases e.networkStatus with
    | none => simp
    | some status => simp
  have request : (!e.networkRequestObserved || record.requestObserved != some false) = true ↔
      (e.networkRequestObserved = true → record.requestObserved ≠ some false) := by
    cases e.networkRequestObserved with
    | true => simp
    | false => simp
  simp only [Bool.and_eq_true, status, request, beq_iff_eq, Option.all_eq_true, ← elapsed_iff]
  constructor
  · rintro ⟨⟨⟨isRequest, response⟩, isStatus⟩, elapsed⟩
    exact ⟨isRequest, response.symm, isStatus, elapsed⟩
  · rintro ⟨isRequest, response, isStatus, elapsed⟩
    exact ⟨⟨⟨isRequest, response.symm⟩, isStatus⟩, elapsed⟩

theorem counted_iff : Counted codec e actionStartedAtMs record ↔ e.UrlMeets codec record ∧
    ((e.networkMethod.map (·.text)).all fun method => method = "" || record.method == some method) =
      true ∧ e.networkAssertion record = true ∧ e.postAction actionStartedAtMs record = true := by
  have event : e.postAction actionStartedAtMs record = true ↔
      ∃ time ∈ e.assertedAtMs record, actionStartedAtMs ≤ time := by
    unfold Expectation.postAction
    rw [Option.any_eq_true]
    simp [Expectation.assertedAtMs]
  rw [method_iff, networkAssertion_iff, event]
  unfold Counted Expectation.MeetsApartFromResponse
  constructor
  · intro ⟨⟨url, method, request, status, elapsed, time⟩, response⟩
    exact ⟨url, method, ⟨request, response, status, elapsed⟩, time⟩
  · intro ⟨url, method, ⟨request, response, status, elapsed⟩, time⟩
    exact ⟨⟨url, method, request, status, elapsed, time⟩, response⟩

/-- The result is that of the number of counted records, unless a URL cannot be taken apart. -/
theorem networkMatches_eq_ok {records : List NetworkRecord} {needle : String} {result : ResultValue}
    (given : e.networkUrlSubstring = some needle) :
    networkMatches codec e records actionStartedAtMs = .ok result ↔ SplitUrls codec records ∧
      result = resultOfCount (records.countP fun record =>
        decide (Counted codec e actionStartedAtMs record)) := by
  have counted (located : List NetworkRecord)
      (isLocated : located = records.filter fun record => decide (e.UrlMeets codec record)) :
      (((located.filter fun record => (e.networkMethod.map (·.text)).all fun method =>
        method = "" || record.method == some method).filter e.networkAssertion).filter
          (e.postAction actionStartedAtMs)).length =
        records.countP fun record => decide (Counted codec e actionStartedAtMs record) := by
    rw [isLocated, List.filter_filter, List.filter_filter, List.filter_filter,
      List.countP_eq_length_filter]
    congr 1
    apply List.filter_congr
    intro record _
    rw [Bool.eq_iff_iff, decide_eq_true_eq, counted_iff]
    simp only [Bool.and_eq_true, decide_eq_true_eq]
    constructor
    · intro ⟨⟨⟨time, asserts⟩, method⟩, url⟩
      exact ⟨url, method, asserts, time⟩
    · intro ⟨url, method, asserts, time⟩
      exact ⟨⟨⟨time, asserts⟩, method⟩, url⟩
  have located (splits : SplitUrls codec records) : ∀ record ∈ records,
      networkUrlMatches codec e record.url = .ok (decide (e.UrlMeets codec record)) := by
    intro record member
    exact (networkUrlMatches_iff given).mpr ⟨splits record member, decide_eq_true_iff⟩
  have decided (splits : SplitUrls codec records) :
      networkMatches codec e records actionStartedAtMs = .ok (resultOfCount
        (records.countP fun record => decide (Counted codec e actionStartedAtMs record))) := by
    unfold networkMatches
    rw [filterM_eq_ok (located splits)]
    dsimp only [bind, Except.bind]
    rw [counted _ rfl]
    generalize (records.countP fun record => decide (Counted codec e actionStartedAtMs record)) = n
    match n with
    | 0 => rfl
    | 1 => rfl
    | _ + 2 => rfl
  constructor
  · intro isResult
    have splits : SplitUrls codec records := by
      intro record member
      obtain ⟨_, filtered, -⟩ := bind_eq_ok.mp isResult
      obtain ⟨b, isOk⟩ := of_filterM_eq_ok filtered record member
      exact ((networkUrlMatches_iff given).mp isOk).1
    rw [decided splits] at isResult
    exact ⟨splits, (Except.ok.inj isResult).symm⟩
  · intro ⟨splits, isResult⟩
    rw [decided splits, isResult]

end Counting

/-! ## The result and the constraints -/

theorem forall_of_countP_le {α : Type} {p q : α → Bool} {xs : List α}
    (same : xs.countP p ≤ xs.countP fun x => p x && q x) : ∀ x ∈ xs, p x = true → q x = true := by
  induction xs with
  | nil => simp
  | cons x xs ih =>
      have fewer : (xs.countP fun x => p x && q x) ≤ xs.countP p :=
        List.countP_mono_left fun x _ both => (Bool.and_eq_true_iff.mp both).1
      rw [List.countP_cons, List.countP_cons] at same
      intro y member holds
      rcases List.mem_cons.mp member with isHead | later
      · subst isHead
        cases both : q y with
        | true => rfl
        | false =>
            simp only [holds, both, Bool.and_false, Bool.false_eq_true, ↓reduceIte] at same
            omega
      · refine ih ?_ y later holds
        have here : (if (p x && q x) = true then 1 else 0) ≤ if p x = true then 1 else 0 := by
          cases p x with
          | true => split <;> simp
          | false => simp
        omega

theorem resultOfCount_eq_iff {m n : Nat} :
    resultOfCount m = resultOfCount n ↔ m = n ∨ 2 ≤ m ∧ 2 ≤ n := by
  match m, n with
  | 0, 0 | 0, 1 | 0, _ + 2 | 1, 0 | 1, 1 | 1, _ + 2 | _ + 2, 0 | _ + 2, 1 => simp [resultOfCount]
  | m + 2, n + 2 => simp [resultOfCount]

section Exactness

variable (codec : HostCodec) (e : Expectation) (records : List NetworkRecord) (actionStartedAtMs : Int)

/-- How many records meet the expectation. -/
def meetingCount : Nat := records.countP fun record => decide (e.Meets codec record actionStartedAtMs)

/-- The event that the expectation asserts was observed for the record, and not before the action. -/
def Expectation.AssertedInTime (record : NetworkRecord) : Prop :=
  ∃ time ∈ e.assertedAtMs record, actionStartedAtMs ≤ time

instance (record : NetworkRecord) : Decidable (e.AssertedInTime actionStartedAtMs record) :=
  inferInstanceAs (Decidable (∃ _ ∈ _, _))

/-- The result is that of the number of records that meet the expectation; neither the order of the
records nor a record without the asserted event in time matters. -/
structure DecidedExactly : Prop where
  pass : networkMatches codec e records actionStartedAtMs = .ok .pass ↔
    meetingCount codec e records actionStartedAtMs = 1
  indeterminate : networkMatches codec e records actionStartedAtMs = .ok .indeterminate ↔
    1 < meetingCount codec e records actionStartedAtMs
  fail : networkMatches codec e records actionStartedAtMs = .ok .fail ↔
    meetingCount codec e records actionStartedAtMs = 0
  ordered : ∀ other : List NetworkRecord, other.Perm records →
    networkMatches codec e other actionStartedAtMs = networkMatches codec e records actionStartedAtMs
  inTime : networkMatches codec e
      (records.filter fun record => decide (e.AssertedInTime actionStartedAtMs record))
        actionStartedAtMs = networkMatches codec e records actionStartedAtMs

/-- The response of no record that meets the other constraints was observed, or that of two such
records was not. -/
def ResponseImmaterial : Prop :=
  (∀ record ∈ records, e.MeetsApartFromResponse codec record actionStartedAtMs →
    record.responseObservedAtMs.isSome = false) ∨
  2 ≤ records.countP fun record => decide (e.MeetsApartFromResponse codec record actionStartedAtMs ∧
    record.responseObservedAtMs.isSome = false)

variable {codec e records actionStartedAtMs}

theorem Expectation.validate_network (valid : e.validate = .ok ()) (isNetwork : e.type = .network) :
    e.networkUrlSubstring.isSome ∧
      (e.networkStatus.isSome ∨ e.networkMaxElapsedMs.isSome → e.networkResponseObserved ≠ some false) := by
  unfold validate at valid
  obtain ⟨_, -, fields⟩ := bind_eq_ok.mp valid
  unfold validateFields at fields
  rw [isNetwork] at fields
  unfold validateNetwork at fields
  simp only [rejectIf_bind_ok, Bool.and_eq_false_imp, beq_eq_false_iff_ne] at fields
  obtain ⟨named, -, -, -, -, timed, status, -, -⟩ := fields
  constructor
  · cases isUrl : e.networkUrlSubstring with
    | none =>
        rw [isUrl] at named
        cases named
    | some needle => rfl
  · intro declared
    rcases declared with hasStatus | hasLimit
    · exact status hasStatus
    · exact timed hasLimit

/-- Where the expectation says something about the response, it is counted as declared. -/
theorem counted_iff_meets {record : NetworkRecord} (valid : e.validate = .ok ())
    (isNetwork : e.type = .network) (declares : e.DeclaresResponse) :
    Counted codec e actionStartedAtMs record ↔ e.Meets codec record actionStartedAtMs := by
  have required := (e.validate_network valid isNetwork).2
  unfold Counted Expectation.Meets Expectation.ResponseMeets Expectation.responseRequired
  refine and_congr_right fun _ => ?_
  cases observed : e.networkResponseObserved with
  | some b =>
      rw [observed] at required
      simp only [Option.getD_some, Option.mem_def, Option.some.injEq, forall_eq', iff_self_and]
      intro isObserved declared
      rw [isObserved]
      cases b with
      | true => rfl
      | false => exact (required declared rfl).elim
  | none =>
      have isRequired : (e.networkStatus.isSome || e.networkMaxElapsedMs.isSome) = true := by
        rcases declares with isDeclared | isDeclared
        · rw [observed] at isDeclared
          cases isDeclared
        · simpa using isDeclared
      simp only [Option.getD_none, isRequired, Option.mem_def, reduceCtorEq, false_implies,
        implies_true, true_and]
      rw [Bool.or_eq_true] at isRequired
      constructor
      · intro seen _
        exact seen
      · intro seen
        exact seen isRequired

/-- Where it says nothing, the records without a response are counted. -/
theorem undeclared_iff {record : NetworkRecord} (undeclared : ¬ e.DeclaresResponse) :
    (Counted codec e actionStartedAtMs record ↔
      e.MeetsApartFromResponse codec record actionStartedAtMs ∧
        record.responseObservedAtMs.isSome = false) ∧
    (e.Meets codec record actionStartedAtMs ↔
      e.MeetsApartFromResponse codec record actionStartedAtMs) := by
  unfold Expectation.DeclaresResponse at undeclared
  simp only [not_or, Bool.not_eq_true, Option.isSome_eq_false_iff, Option.isNone_iff_eq_none] at undeclared
  obtain ⟨noResponse, noStatus, noLimit⟩ := undeclared
  unfold Counted Expectation.Meets Expectation.ResponseMeets Expectation.responseRequired
  simp [noResponse, noStatus, noLimit]

theorem resultOfCount_iff (valid : e.validate = .ok ()) (isNetwork : e.type = .network) :
    resultOfCount (records.countP fun record => decide (Counted codec e actionStartedAtMs record)) =
        resultOfCount (meetingCount codec e records actionStartedAtMs) ↔
      e.DeclaresResponse ∨ ResponseImmaterial codec e records actionStartedAtMs := by
  unfold meetingCount
  by_cases declares : e.DeclaresResponse
  · simp only [counted_iff_meets valid isNetwork declares, declares, true_or]
  · simp only [(undeclared_iff declares).1, (undeclared_iff declares).2, declares, false_or]
    unfold ResponseImmaterial
    have fewer : (records.countP fun record =>
        decide (e.MeetsApartFromResponse codec record actionStartedAtMs ∧
          record.responseObservedAtMs.isSome = false)) ≤
        records.countP fun record => decide (e.MeetsApartFromResponse codec record actionStartedAtMs) := by
      apply List.countP_mono_left
      intro record _ both
      exact decide_eq_true (of_decide_eq_true both).1
    rw [resultOfCount_eq_iff]
    constructor
    · intro same
      rcases same with same | ⟨two, -⟩
      · refine .inl fun record member meets => ?_
        have atMost := Nat.le_of_eq same.symm
        simp only [Bool.decide_and] at atMost
        exact of_decide_eq_true (forall_of_countP_le atMost record member (decide_eq_true meets))
      · exact .inr two
    · intro immaterial
      rcases immaterial with unseen | two
      · refine .inl (List.countP_congr fun record member => ?_)
        rw [decide_eq_true_iff, decide_eq_true_iff, and_iff_left_iff_imp]
        exact unseen record member
      · exact .inr ⟨two, Nat.le_trans two fewer⟩

theorem resultOfCount_eq {n : Nat} : (resultOfCount n = .pass ↔ n = 1) ∧
    (resultOfCount n = .indeterminate ↔ 1 < n) ∧ (resultOfCount n = .fail ↔ n = 0) := by
  match n with
  | 0 | 1 => decide
  | n + 2 => simp [resultOfCount]

theorem DecidedExactly.result (exact_ : DecidedExactly codec e records actionStartedAtMs) :
    networkMatches codec e records actionStartedAtMs =
      .ok (resultOfCount (meetingCount codec e records actionStartedAtMs)) := by
  cases isCount : resultOfCount (meetingCount codec e records actionStartedAtMs) with
  | pass => exact exact_.pass.mpr (resultOfCount_eq.1.mp isCount)
  | indeterminate => exact exact_.indeterminate.mpr (resultOfCount_eq.2.1.mp isCount)
  | fail => exact exact_.fail.mpr (resultOfCount_eq.2.2.mp isCount)

/-- A network expectation is decided exactly where the URLs of the records can be taken apart and,
unless it declares something about the response, the response makes no difference. -/
theorem networkMatches_exact_iff (valid : e.validate = .ok ()) (isNetwork : e.type = .network) :
    DecidedExactly codec e records actionStartedAtMs ↔ SplitUrls codec records ∧
      (e.DeclaresResponse ∨ ResponseImmaterial codec e records actionStartedAtMs) := by
  obtain ⟨needle, given⟩ := Option.isSome_iff_exists.mp (e.validate_network valid isNetwork).1
  rw [← resultOfCount_iff valid isNetwork]
  constructor
  · intro exact_
    obtain ⟨splits, same⟩ := (networkMatches_eq_ok given).mp exact_.result
    exact ⟨splits, same.symm⟩
  · intro ⟨splits, same⟩
    have result : networkMatches codec e records actionStartedAtMs =
        .ok (resultOfCount (meetingCount codec e records actionStartedAtMs)) :=
      (networkMatches_eq_ok given).mpr ⟨splits, same.symm⟩
    refine ⟨?_, ?_, ?_, ?_, ?_⟩
    · rw [result, Except.ok.injEq]
      exact resultOfCount_eq.1
    · rw [result, Except.ok.injEq]
      exact resultOfCount_eq.2.1
    · rw [result, Except.ok.injEq]
      exact resultOfCount_eq.2.2
    · intro other perm
      rw [result]
      refine (networkMatches_eq_ok given).mpr ⟨?_, ?_⟩
      · intro record member
        exact splits record (perm.mem_iff.mp member)
      · rw [perm.countP_eq, same]
    · rw [result]
      refine (networkMatches_eq_ok given).mpr ⟨?_, ?_⟩
      · intro record member
        exact splits record (List.mem_filter.mp member).1
      · rw [← same, List.countP_filter]
        congr 1
        apply List.countP_congr
        intro record _
        rw [Bool.and_eq_true, decide_eq_true_iff, decide_eq_true_iff, iff_self_and]
        intro counted
        exact counted.1.2.2.2.2.2

end Exactness

/-! ## A request with its response -/

/-- A request after the action at time 100, and its response. -/
def answeredRequest : NetworkRecord where
  url := some "https://local.example.test/submit"
  method := some "POST"
  status := some 200
  requestObserved := some true
  requestObservedAtMs := some 101
  responseObservedAtMs := some 106

/-- The expectation that only names the URL, or also the status. -/
def submitExpectation (status : Option Int) : Expectation where
  type := .network
  networkUrlSubstring := some "https://local.example.test/submit"
  networkStatus := status

theorem networkMatches_exact_status : DecidedExactly asciiCodec (submitExpectation (some 200))
    [answeredRequest] 100 := by
  refine (networkMatches_exact_iff (by decide +kernel) rfl).mpr ⟨?_, .inl (.inr (.inl rfl))⟩
  unfold SplitUrls
  decide +kernel

/-- Without the status the record meets the expectation and the expectation fails. -/
theorem networkMatches_url_only : (submitExpectation none).validate = .ok () ∧
    networkMatches asciiCodec (submitExpectation none) [answeredRequest] 100 = .ok .fail ∧
      meetingCount asciiCodec (submitExpectation none) [answeredRequest] 100 = 1 := by
  decide +kernel

end Dingdongditch
