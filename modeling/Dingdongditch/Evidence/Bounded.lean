import Dingdongditch.Contract.Value
import Dingdongditch.Text.Url

/-!
# Bounded evidence

The form in which evidence is published: values under sensitive keys are
redacted, and depth and size are bounded.  What is published under a key comes
from what the evidence has there (`lookup_published`).
-/

namespace Dingdongditch

open Text

/-- `_SENSITIVE_KEY_PARTS` -/
def sensitiveKeyParts : List String :=
  ["secret", "password", "token", "authorization", "credential", "cookie", "session", "api_key",
    "apikey", "otp", "totp", "private"]

/-- `_sensitive_key` -/
def sensitiveKey (codec : HostCodec) (key : String) : Bool :=
  sensitiveKeyParts.any fun part => contains part.toList (codec.lower key.toList)

mutual

/-- `redact` without registered literals -/
def redact (codec : HostCodec) : PyVal → PyVal
  | .none => .none
  | .bool b => .bool b
  | .int n => .int n
  | .str s => .str s
  | .list items => .list (redactItems codec items)
  | .dict entries => .dict (redactEntries codec entries)

def redactItems (codec : HostCodec) : List PyVal → List PyVal
  | [] => []
  | item :: items => redact codec item :: redactItems codec items

def redactEntries (codec : HostCodec) : PyDict → PyDict
  | [] => []
  | (key, value) :: entries =>
      (key, if sensitiveKey codec key then .str "<redacted>" else redact codec value) ::
        redactEntries codec entries

end

def maxEvidenceMappingItems : Nat := 24

def maxEvidenceListItems : Nat := 24

def maxEvidenceDepth : Nat := 5

/-- A list in the published form, with a note on what was cut off. -/
def boundedItems (items : List PyVal) (publish : PyVal → PyVal) : List PyVal :=
  (items.take maxEvidenceListItems).map publish ++
    if maxEvidenceListItems < items.length then
      [.str ("<truncated:list_items:" ++ toString (items.length - maxEvidenceListItems) ++ ">")]
    else []

/-- A mapping in the published form, with a note on what was cut off. -/
def boundedEntries (entries : PyDict) (publish : String → PyVal → PyVal) : PyDict :=
  let result := (entries.take maxEvidenceMappingItems).map fun entry =>
    (entry.1, publish entry.1 entry.2)
  if maxEvidenceMappingItems < entries.length then
    PyDict.set result "_truncated_mapping_items"
      (.int (entries.length - maxEvidenceMappingItems : Nat))
  else result

/-- `sanitize_evidence_value` below a key, with so many levels left; `safeString`
is `_safe_string` with its limit. -/
def sanitizeValue (codec : HostCodec) (safeString : Option String → String → String) :
    Nat → Option String → PyVal → PyVal
  | 0, key, _ =>
      if key.any (sensitiveKey codec) then .str "<redacted>" else .str "<truncated:depth>"
  | room + 1, key, value =>
      if key.any (sensitiveKey codec) then .str "<redacted>"
      else
        match value with
        | .str s => .str (safeString key s)
        | .dict entries => .dict (boundedEntries (redactEntries codec entries)
            fun key value => sanitizeValue codec safeString room (some key) value)
        | .list items => .list (boundedItems items (sanitizeValue codec safeString room none))
        | value => value

/-- `sanitize_evidence_value` -/
def sanitizeEvidenceValue (codec : HostCodec) (safeString : Option String → String → String)
    (value : PyVal) : PyVal :=
  sanitizeValue codec safeString maxEvidenceDepth none value

/-! ## What is published under a key -/

variable {codec : HostCodec} {safeString : Option String → String → String}

theorem redact_eq_dict {value : PyVal} {entries : PyDict}
    (eq : redact codec value = .dict entries) :
    ∃ d, value = .dict d ∧ entries = redactEntries codec d := by
  cases value with
  | dict d =>
      unfold redact at eq
      exact ⟨d, rfl, (PyVal.dict.inj eq).symm⟩
  | list items =>
      unfold redact at eq
      cases eq
  | _ => cases eq

theorem redact_eq_list {value : PyVal} {items : List PyVal}
    (eq : redact codec value = .list items) : ∃ l, value = .list l := by
  cases value with
  | list l => exact ⟨l, rfl⟩
  | dict d =>
      unfold redact at eq
      cases eq
  | _ => cases eq

theorem lookup_redactEntries (d : PyDict) (key : String) :
    (redactEntries codec d).lookup key = (d.lookup key).map fun value =>
      if sensitiveKey codec key then .str "<redacted>" else redact codec value := by
  induction d with
  | nil =>
      unfold redactEntries
      rfl
  | cons entry d ih =>
      rcases entry with ⟨k, v⟩
      unfold redactEntries
      rw [List.lookup_cons, List.lookup_cons, ih]
      cases same : key == k with
      | true =>
          obtain rfl := eq_of_beq same
          rfl
      | false => rfl

theorem lookup_of_lookup_take {d : PyDict} {n : Nat} {key : String} {value : PyVal}
    (found : (d.take n).lookup key = some value) : d.lookup key = some value := by
  induction d generalizing n with
  | nil =>
      rw [List.take_nil] at found
      exact found
  | cons entry d ih =>
      rcases entry with ⟨k, v⟩
      cases n with
      | zero => cases found
      | succ n =>
          rw [List.take_succ_cons, List.lookup_cons] at found
          rw [List.lookup_cons]
          cases same : key == k with
          | true =>
              rw [same] at found
              exact found
          | false =>
              rw [same] at found
              exact ih found

theorem lookup_boundedEntries {d : PyDict} {publish : String → PyVal → PyVal} {key : String}
    {value : PyVal} (apart : key ≠ "_truncated_mapping_items")
    (found : (boundedEntries d publish).lookup key = some value) :
    ∃ v, d.lookup key = some v ∧ value = publish key v := by
  have cut : ((d.take maxEvidenceMappingItems).map fun entry =>
      (entry.1, publish entry.1 entry.2)).lookup key = some value := by
    unfold boundedEntries at found
    split at found
    · have isAssign : ∀ (d : PyDict) v, PyDict.set d "_truncated_mapping_items" v =
          assign d "_truncated_mapping_items" v := fun _ _ => rfl
      rw [isAssign, lookup_assign, if_neg apart] at found
      exact found
    · exact found
  rw [lookup_map_value] at cut
  obtain ⟨v, inCut, rfl⟩ := Option.map_eq_some_iff.mp cut
  exact ⟨v, lookup_of_lookup_take inCut, rfl⟩

/-- What is published under a key comes from the value the evidence has there. -/
theorem lookup_published {d : PyDict} {key : String} {value : PyVal} {room : Nat}
    (apart : key ≠ "_truncated_mapping_items")
    (found : (boundedEntries (redactEntries codec d) fun key value =>
      sanitizeValue codec safeString room (some key) value).lookup key = some value) :
    value = .str "<redacted>" ∨ ∃ v, d.lookup key = some v ∧
      value = sanitizeValue codec safeString room (some key) (redact codec v) := by
  obtain ⟨w, inRedacted, rfl⟩ := lookup_boundedEntries apart found
  rw [lookup_redactEntries] at inRedacted
  obtain ⟨v, inDict, rfl⟩ := Option.map_eq_some_iff.mp inRedacted
  by_cases sensitive : sensitiveKey codec key = true
  · left
    cases room <;> simp [sanitizeValue, sensitive]
  · right
    refine ⟨v, inDict, ?_⟩
    rw [if_neg sensitive]

theorem sanitizeValue_eq_dict {room : Nat} {key : Option String} {value : PyVal} {d : PyDict}
    (eq : sanitizeValue codec safeString room key value = .dict d) :
    ∃ rest entries, room = rest + 1 ∧ value = .dict entries ∧
      d = boundedEntries (redactEntries codec entries) fun key value =>
        sanitizeValue codec safeString rest (some key) value := by
  cases room with
  | zero =>
      unfold sanitizeValue at eq
      split at eq <;> cases eq
  | succ rest =>
      unfold sanitizeValue at eq
      split at eq
      · cases eq
      · cases value with
        | dict entries => exact ⟨rest, entries, rfl, rfl, (PyVal.dict.inj eq).symm⟩
        | _ => cases eq

theorem sanitizeValue_eq_list {room : Nat} {key : Option String} {value : PyVal}
    {items : List PyVal} (eq : sanitizeValue codec safeString room key value = .list items) :
    ∃ l, value = .list l := by
  cases room with
  | zero =>
      unfold sanitizeValue at eq
      split at eq <;> cases eq
  | succ rest =>
      unfold sanitizeValue at eq
      split at eq
      · cases eq
      · cases value with
        | list l => exact ⟨l, rfl⟩
        | _ => cases eq

/-! ## Small evidence is published as it is -/

theorem length_redactEntries (d : PyDict) : (redactEntries codec d).length = d.length := by
  induction d with
  | nil =>
      unfold redactEntries
      rfl
  | cons entry d ih =>
      unfold redactEntries
      rw [List.length_cons, List.length_cons, ih]

theorem redactItems_eq_map (items : List PyVal) :
    redactItems codec items = items.map (redact codec) := by
  induction items with
  | nil =>
      unfold redactItems
      rfl
  | cons item items ih =>
      unfold redactItems
      rw [ih]
      rfl

/-- The value that is published under a key of a mapping that is not cut. -/
theorem get_boundedEntries {d : PyDict} {publish : String → PyVal → PyVal} {key : String}
    {value : PyVal} (short : d.length ≤ maxEvidenceMappingItems)
    (plain : sensitiveKey codec key = false) (found : d.lookup key = some value) :
    PyDict.get (boundedEntries (redactEntries codec d) publish) key =
      publish key (redact codec value) := by
  have uncut : ¬ maxEvidenceMappingItems < (redactEntries codec d).length := by
    rw [length_redactEntries]
    omega
  unfold boundedEntries
  dsimp only
  rw [if_neg uncut, List.take_of_length_le (by omega), PyDict.get, lookup_map_value,
    lookup_redactEntries, found, plain]
  rfl

theorem boundedItems_of_short {items : List PyVal} {publish : PyVal → PyVal}
    (short : items.length ≤ maxEvidenceListItems) : boundedItems items publish = items.map publish := by
  unfold boundedItems
  rw [if_neg (by omega), List.take_of_length_le short, List.append_nil]

end Dingdongditch
