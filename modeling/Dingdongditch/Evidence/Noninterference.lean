import Dingdongditch.Contract.OriginPolicy
import Dingdongditch.Evidence.Sanitize

/-!
# What sanitized evidence can tell

`Alike` values differ only in what they hold under sensitive keys.  Redaction
makes them equal wherever it descends, which is everywhere below a `dict`;
outside of every `dict` the sanitizer itself descends, into lists and tuples.

`Bounded` is the shape of what is published: the limits count what is kept, and
one note says what was cut off.
-/

namespace Dingdongditch.Evidence

open Text

variable {F : Type} {host : Host F}

/-! ## Values that differ under sensitive keys -/

mutual

/-- The values differ only under sensitive keys; `inDict` says that they lie in a
`dict`, where any mapping is redacted. -/
inductive Alike (host : Host F) : Bool → Value F → Value F → Prop
  | same (inDict : Bool) (value : Value F) : Alike host inDict value value
  | list {inDict : Bool} {xs ys : List (Value F)} :
    AlikeItems host inDict xs ys → Alike host inDict (.list xs) (.list ys)
  | tuple {inDict : Bool} {xs ys : List (Value F)} :
    AlikeItems host inDict xs ys → Alike host inDict (.tuple xs) (.tuple ys)
  | dict {inDict : Bool} {xs ys : List (String × Value F)} :
    AlikeEntries host xs ys → Alike host inDict (.dict xs) (.dict ys)
  | mapping {xs ys : List (String × Value F)} :
    AlikeEntries host xs ys → Alike host true (.mapping xs) (.mapping ys)

inductive AlikeItems (host : Host F) : Bool → List (Value F) → List (Value F) → Prop
  | nil {inDict : Bool} : AlikeItems host inDict [] []
  | cons {inDict : Bool} {x y : Value F} {xs ys : List (Value F)} :
    Alike host inDict x y → AlikeItems host inDict xs ys →
    AlikeItems host inDict (x :: xs) (y :: ys)

inductive AlikeEntries (host : Host F) :
    List (String × Value F) → List (String × Value F) → Prop
  | nil : AlikeEntries host [] []
  | secret {key : String} (x y : Value F) {xs ys : List (String × Value F)} :
    sensitiveKey host.toHostCodec key = true → AlikeEntries host xs ys →
    AlikeEntries host ((key, x) :: xs) ((key, y) :: ys)
  | cons (key : String) {x y : Value F} {xs ys : List (String × Value F)} :
    Alike host true x y → AlikeEntries host xs ys →
    AlikeEntries host ((key, x) :: xs) ((key, y) :: ys)

end

-- The induction is on the derivation, along the three relations at once.
mutual

theorem redact_alike : ∀ {x y : Value F}, Alike host true x y → redact host x = redact host y
  | _, _, .same _ _ => rfl
  | _, _, .list items => by
      unfold redact
      rw [redactItems_alike items]
  | _, _, .tuple items => by
      unfold redact
      rw [redactItems_alike items]
  | _, _, .dict entries => by
      unfold redact
      rw [redactEntries_alike entries]
  | _, _, .mapping entries => by
      unfold redact
      rw [redactEntries_alike entries]

theorem redactItems_alike : ∀ {xs ys : List (Value F)}, AlikeItems host true xs ys →
    redactItems host xs = redactItems host ys
  | _, _, .nil => rfl
  | _, _, .cons item items => by
      unfold redactItems
      rw [redact_alike item, redactItems_alike items]

theorem redactEntries_alike : ∀ {xs ys : List (String × Value F)}, AlikeEntries host xs ys →
    redactEntries host xs = redactEntries host ys
  | _, _, .nil => rfl
  | _, _, .secret _ _ sensitive entries => by
      unfold redactEntries
      rw [if_pos sensitive, if_pos sensitive, redactEntries_alike entries]
  | _, _, .cons _ value entries => by
      unfold redactEntries
      rw [redact_alike value, redactEntries_alike entries]

end

theorem AlikeItems.forall₂ {inDict : Bool} {xs ys : List (Value F)}
    (alike : AlikeItems host inDict xs ys) : List.Forall₂ (Alike host inDict) xs ys := by
  induction xs generalizing ys with
  | nil =>
      cases alike
      exact .nil
  | cons x xs ih =>
      cases alike with
      | cons item items => exact .cons item (ih items)

theorem publishItems_congr {xs ys : List (Value F)} {publish : Value F → Json F}
    (same : List.Forall₂ (fun x y => publish x = publish y) xs ys) :
    publishItems xs publish = publishItems ys publish := by
  have mapped : xs.map publish = ys.map publish := by
    induction same with
    | nil => rfl
    | cons item _ ih => rw [List.map_cons, List.map_cons, item, ih]
  unfold publishItems
  simp only [List.map_take, mapped, same.length_eq]

theorem sanitize_alike {limit : Nat} (room : Nat) {key : Option String} {x y : Value F}
    (alike : Alike host false x y) :
    sanitize host limit room key x = sanitize host limit room key y := by
  induction room generalizing key x y with
  | zero =>
      unfold sanitize
      rfl
  | succ room ih =>
      have publish : ∀ {xs ys}, AlikeItems host false xs ys →
          publishItems xs (sanitize host limit room none) =
            publishItems ys (sanitize host limit room none) := by
        intro xs ys items
        apply publishItems_congr
        exact items.forall₂.imp fun x y item => ih item
      cases alike with
      | same => rfl
      | list items =>
          unfold sanitize
          simp only [publish items]
      | tuple items =>
          unfold sanitize
          simp only [publish items]
      | dict entries =>
          unfold sanitize
          simp only [redactEntries_alike entries]

/-! ## The published form -/

/-- A text within the limit, its first characters with a note on the rest, or one
of the two fixed texts. -/
def BoundedText (limit : Nat) (text : String) : Prop :=
  text.length ≤ limit ∨ text = "<redacted>" ∨ text = "<truncated:depth>" ∨
    ∃ cut : List Char, ∃ omitted : Nat, cut.length = limit ∧
      text = String.ofList cut ++ "…<truncated:" ++ toString omitted ++ ">"

/-- The published value is so deep at most; its lists and mappings show so many
items at most, and note how many more there were. -/
def Bounded (limit : Nat) : Nat → Json F → Prop
  | _, .null => True
  | _, .bool _ => True
  | _, .int _ => True
  | _, .float _ => True
  | _, .str text => BoundedText limit text
  | 0, .list _ => False
  | 0, .dict _ => False
  | depth + 1, .list items => ∃ shown, shown.length ≤ maxEvidenceListItems ∧
      (∀ item ∈ shown, Bounded limit depth item) ∧
      (items = shown ∨ ∃ omitted : Nat,
        items = shown ++ [.str ("<truncated:list_items:" ++ toString omitted ++ ">")])
  | depth + 1, .dict entries => (entries.map Prod.fst).Nodup ∧
      ∃ shown, shown.length ≤ maxEvidenceMappingItems ∧
      (∀ entry ∈ shown, Bounded limit depth entry.2) ∧
      (entries = shown ∨ ∃ omitted : Nat,
        entries = assign shown "_truncated_mapping_items" (.int omitted))

theorem bounded_cutString (limit : Nat) (text : String) : BoundedText limit (cutString limit text) := by
  unfold cutString
  split
  · next short => exact .inl short
  · next long =>
      have cut : (text.toList.take limit).length = limit := by
        rw [List.length_take, String.length_toList]
        omega
      exact .inr (.inr (.inr ⟨_, _, cut, rfl⟩))

theorem bounded_safeString (key : Option String) (limit : Nat) (text : String) :
    BoundedText limit (safeString host key limit text) := by
  unfold safeString
  dsimp only
  generalize (if key.any (isUrlKey host) then _ else text) = stripped
  split
  · exact .inr (.inl rfl)
  · exact bounded_cutString limit stripped

theorem bounded_publishItems {limit depth : Nat} {items : List (Value F)}
    {publish : Value F → Json F} (each : ∀ item, Bounded limit depth (publish item)) :
    Bounded limit (depth + 1) (.list (publishItems items publish)) := by
  refine ⟨(items.take maxEvidenceListItems).map publish, ?_, ?_, ?_⟩
  · rw [List.length_map]
    exact List.length_take_le _ _
  · intro item mem
    obtain ⟨v, -, rfl⟩ := List.mem_map.mp mem
    exact each v
  · unfold publishItems
    dsimp only
    split
    · exact .inr ⟨_, rfl⟩
    · exact .inl rfl

/-- The result of assigning item after item. -/
theorem assigned_items {publish : String → Value F → Json F} {good : Json F → Prop}
    (each : ∀ key value, good (publish key value)) (items : List (String × Value F))
    (result : List (String × Json F)) (distinct : (result.map Prod.fst).Nodup)
    (fine : ∀ entry ∈ result, good entry.2) :
    let assigned := items.foldl
      (fun result entry => assign result entry.1 (publish entry.1 entry.2)) result
    (assigned.map Prod.fst).Nodup ∧ (∀ entry ∈ assigned, good entry.2) ∧
      assigned.length ≤ result.length + items.length := by
  induction items generalizing result with
  | nil => exact ⟨distinct, fine, le_rfl⟩
  | cons item items ih =>
      rcases item with ⟨key, value⟩
      have fineNext : ∀ entry ∈ assign result key (publish key value), good entry.2 := by
        rintro ⟨other, a⟩ mem
        rcases mem_assign mem with known | ⟨-, rfl⟩
        · exact fine _ known
        · exact each key value
      obtain ⟨distinctAll, fineAll, short⟩ :=
        ih (assign result key (publish key value)) (nodup_keys_assign key _ distinct) fineNext
      have grown := length_assign_le result key (publish key value)
      refine ⟨distinctAll, fineAll, ?_⟩
      dsimp only [List.foldl_cons, List.length_cons]
      omega

theorem bounded_publishEntries {limit depth : Nat} {entries : List (String × Value F)}
    {publish : String → Value F → Json F}
    (each : ∀ key value, Bounded limit depth (publish key value)) :
    Bounded limit (depth + 1) (.dict (publishEntries entries publish)) := by
  obtain ⟨distinct, fine, short⟩ := assigned_items each (entries.take maxEvidenceMappingItems) []
    .nil (by simp)
  have few := List.length_take_le maxEvidenceMappingItems entries
  rw [List.length_nil, Nat.zero_add] at short
  constructor
  · unfold publishEntries
    dsimp only
    split
    · exact nodup_keys_assign _ _ distinct
    · exact distinct
  · refine ⟨_, short.trans few, fine, ?_⟩
    unfold publishEntries
    dsimp only
    split
    · exact .inr ⟨_, rfl⟩
    · exact .inl rfl

theorem bounded_sanitize {limit : Nat} (room : Nat) (key : Option String) (value : Value F) :
    Bounded limit room (sanitize host limit room key value) := by
  induction room generalizing key value with
  | zero =>
      unfold sanitize Bounded
      split
      · exact .inr (.inl rfl)
      · exact .inr (.inr (.inl rfl))
  | succ room ih =>
      unfold sanitize
      split
      · unfold Bounded
        exact .inr (.inl rfl)
      · cases value with
        | none | bool | int | float => trivial
        | str | mapping | other =>
            unfold Bounded
            exact bounded_safeString key limit _
        | list items | tuple items => exact bounded_publishItems (ih none)
        | dict entries => exact bounded_publishEntries fun key value => ih (some key) value

/-- Evidence that differs only under sensitive keys is published as one value, and
what is published keeps within the limits. -/
theorem evidence_noninterference (host : Host F) (key : Option String) (depth limit : Nat) :
    (∀ x y, Alike host false x y → sanitizeEvidenceValue host x key depth limit =
      sanitizeEvidenceValue host y key depth limit) ∧
    ∀ value, Bounded limit (maxEvidenceDepth - depth)
      (sanitizeEvidenceValue host value key depth limit) :=
  ⟨fun _ _ alike => sanitize_alike _ alike, fun value => bounded_sanitize _ key value⟩

/-! ## Concrete evidence -/

/-- A host for ASCII text, with mapping proxies of strings as the mappings that
are no `dict`. -/
def asciiHost : Host Empty where
  toHostCodec := asciiCodec
  isWord c := c.isAlphanum || c = '_'
  reprMapping entries := "mappingproxy(\x7b" ++ ", ".intercalate (entries.map fun entry =>
    "'" ++ entry.1 ++ "': " ++ match entry.2 with
      | .str s => "'" ++ s ++ "'"
      | _ => "None") ++ "\x7d)"

/-- A login form with the given password, some levels down. -/
def loginEvidence (password : String) : Value Empty :=
  .list [.dict [("form", .tuple [.mapping [("user", .str "ann"), ("Password", .str password)]])]]

theorem evidence_noninterference_login :
    sanitizeEvidenceValue asciiHost (loginEvidence "hunter2") none 0 512 =
      sanitizeEvidenceValue asciiHost (loginEvidence "correct horse") none 0 512 := by
  apply (evidence_noninterference asciiHost none 0 512).1
  apply Alike.list
  refine .cons (.dict (.cons "form" (.tuple (.cons ?_ .nil)) .nil)) .nil
  exact .mapping (.cons "user" (.same _ _) (.secret _ _ (by decide) .nil))

theorem publishEntries_single (key : String) (value : Value F) (publish : String → Value F → Json F) :
    publishEntries [(key, value)] publish = [(key, publish key value)] := rfl

/-- A key is published as it is, whatever its length. -/
theorem sanitize_key {limit room : Nat} {key : String}
    (plain : sensitiveKey host.toHostCodec key = false) :
    sanitize host limit (room + 2) none (.dict [(key, .none)]) = .dict [(key, .null)] := by
  have kept : sanitize host limit (room + 1) (some key) (redact host .none) = .null := by
    unfold redact sanitize
    rw [Option.any_some, plain]
    rfl
  have same : redactEntries host [(key, Value.none)] = [(key, redact host .none)] := by
    unfold redactEntries redactEntries
    rw [plain]
    rfl
  unfold sanitize
  simp only [same, publishEntries_single, kept]
  rfl

theorem sanitize_mapping (limit room : Nat) (entries : List (String × Value F)) :
    sanitize host limit (room + 1) none (.mapping entries) =
      .str (safeString host none limit (host.reprMapping entries)) := rfl

theorem long_key : ∃ key, sensitiveKey asciiHost.toHostCodec key = false ∧
    maxEvidenceStringChars < key.length := by
  refine ⟨String.ofList (List.replicate 513 'z'), ?_, ?_⟩
  · have lowered : asciiHost.lower (String.ofList (List.replicate 513 'z')).toList =
        List.replicate 513 'z' := by
      rw [String.toList_ofList]
      exact List.map_replicate
    rw [sensitiveKey, List.any_eq_false]
    intro part mem
    rw [lowered]
    -- No part starts with the letter that the key consists of.
    obtain ⟨c, rest, isPart, other⟩ : ∃ c rest, part.toList = c :: rest ∧ c ≠ 'z' := by
      simp only [sensitiveKeyParts, List.mem_cons, List.not_mem_nil, or_false] at mem
      rcases mem with rfl | rfl | rfl | rfl | rfl | rfl | rfl | rfl | rfl | rfl | rfl | rfl <;>
        exact ⟨_, _, rfl, by decide⟩
    rw [isPart, Bool.not_eq_true]
    exact contains_eq_false fun inKey => other (List.eq_of_mem_replicate inKey)
  · rw [String.length_ofList, List.length_replicate]
    decide

/-- A list that was cut shows its note as one more item, a long key is kept, and
a mapping that is no `dict` is published with its secrets. -/
theorem evidence_beyond_limits :
    (∃ items, sanitizeEvidenceValue asciiHost (.list (List.replicate 25 .none)) none 0 512 =
      .list items ∧ maxEvidenceListItems < items.length) ∧
    (∃ key, sanitizeEvidenceValue asciiHost (.dict [(key, .none)]) none 0 512 =
      .dict [(key, .null)] ∧ maxEvidenceStringChars < key.length) ∧
    sanitizeEvidenceValue asciiHost (.mapping [("password", .str "a")]) none 0 512 ≠
      sanitizeEvidenceValue asciiHost (.mapping [("password", .str "b")]) none 0 512 := by
  refine ⟨⟨_, rfl, by decide⟩, ?_, ?_⟩
  · exact long_key.imp fun key h => ⟨@sanitize_key _ asciiHost 512 3 key h.1, h.2⟩
  · intro same
    unfold sanitizeEvidenceValue maxEvidenceDepth at same
    rw [Nat.sub_zero, sanitize_mapping, sanitize_mapping, Json.str.injEq] at same
    revert same
    decide +kernel

end Dingdongditch.Evidence
