import Dingdongditch.Evidence.Bounded
import Dingdongditch.Text.Json
import Dingdongditch.Text.Pattern

/-!
# Sanitized evidence

`sanitize_evidence_value` on any value that evidence can hold.  A value is a
Python value up to what the sanitizer looks at: a mapping that is not a `dict`,
and any other object, is published as its `repr`.  A mapping is given by its
items in order, a key as its `str`.

Values that differ only under sensitive keys are `Alike`, and are published as
the same value (`noninterference`); what is published is `Bounded`.
-/

namespace Dingdongditch.Evidence

open Text

inductive Value (F : Type)
  | none
  | bool (b : Bool)
  | int (n : Int)
  | float (x : F)
  | str (s : String)
  | list (items : List (Value F))
  | tuple (items : List (Value F))
  | dict (entries : List (String × Value F))
  /-- A `Mapping` that is no `dict`. -/
  | mapping (entries : List (String × Value F))
  /-- Any other object, as its `repr`. -/
  | other (repr : String)

/-- What the sanitizer asks the interpreter. -/
structure Host (F : Type) extends HostCodec where
  /-- `\w` -/
  isWord : Char → Bool
  /-- `repr` of a mapping that is no `dict` -/
  reprMapping : List (String × Value F) → String

variable {F : Type} (host : Host F)

/-! ## Redaction -/

mutual

/-- `redact` without registered literals -/
def redact : Value F → Value F
  | .list items => .list (redactItems items)
  | .tuple items => .tuple (redactItems items)
  | .dict entries => .dict (redactEntries entries)
  | .mapping entries => .dict (redactEntries entries)
  | .none => .none
  | .bool b => .bool b
  | .int n => .int n
  | .float x => .float x
  | .str s => .str s
  | .other repr => .other repr

def redactItems : List (Value F) → List (Value F)
  | [] => []
  | item :: items => redact item :: redactItems items

def redactEntries : List (String × Value F) → List (String × Value F)
  | [] => []
  | (key, value) :: entries =>
      (key, if sensitiveKey host.toHostCodec key then .str "<redacted>" else redact value) ::
        redactEntries entries

end

/-! ## Strings -/

def maxEvidenceStringChars : Nat := 512

/-- `_LOCAL_PATH.search(value)` -/
def localPath (value : List Char) : Bool :=
  (match value with
    | drive :: ':' :: slash :: _ => matchesAlpha drive && (slash = '\\' || slash = '/')
    | _ => false) ||
  ["/home/", "/users/", "/private/", "/var/"].any fun root => (afterWord root.toList value).isSome

/-- `_TOKENISH.search(value)` -/
def tokenish (value : List Char) : Bool :=
  value.tails.any startsBearer ||
    searchAtWord host.isWord (fun text => startsToken "eyj".toList text || startsToken "sk-".toList text)
      Option.none value

/-- A URL without its query and fragment. -/
def stripUrl (value : List Char) : List Char :=
  match urlsplit host.toHostCodec value with
  | some parsed => { parsed with query := [], fragment := [] : SplitResult }.geturl
  | Option.none => (breakAt ['#'] (breakAt ['?'] value).1).1

/-- `url`, or a name that ends in `_url` -/
def isUrlKey (key : String) : Bool :=
  let lowered := host.lower key.toList
  lowered = "url".toList || "_url".toList.isSuffixOf lowered

def cutString (limit : Nat) (value : String) : String :=
  if value.length ≤ limit then value
  else String.ofList (value.toList.take limit) ++ "…<truncated:" ++
    toString (value.length - limit) ++ ">"

/-- `_safe_string` -/
def safeString (key : Option String) (limit : Nat) (value : String) : String :=
  let value := if key.any (isUrlKey host) then String.ofList (stripUrl host value.toList) else value
  if key.any (sensitiveKey host.toHostCodec) || localPath value.toList || tokenish host value.toList then
    "<redacted>"
  else cutString limit value

/-! ## Sanitizing -/

/-- The first items of a list, and a note on how many are cut off. -/
def publishItems (items : List (Value F)) (publish : Value F → Json F) : List (Json F) :=
  let result := (items.take maxEvidenceListItems).map publish
  if result.length < items.length then
    result ++ [.str ("<truncated:list_items:" ++ toString (items.length - result.length) ++ ">")]
  else result

/-- The first items of a mapping, and a note on how many are cut off.  Of two keys
with one `str` the later one decides. -/
def publishEntries (entries : List (String × Value F)) (publish : String → Value F → Json F) :
    List (String × Json F) :=
  let items := entries.take maxEvidenceMappingItems
  let result := items.foldl (fun result entry => assign result entry.1 (publish entry.1 entry.2)) []
  if items.length < entries.length then
    assign result "_truncated_mapping_items" (.int (entries.length - items.length : Nat))
  else result

/-- `sanitize_evidence_value`, with so many levels left to the depth limit -/
def sanitize (limit : Nat) : Nat → Option String → Value F → Json F
  | 0, key, _ =>
      .str (if key.any (sensitiveKey host.toHostCodec) then "<redacted>" else "<truncated:depth>")
  | room + 1, key, value =>
      if key.any (sensitiveKey host.toHostCodec) then .str "<redacted>"
      else
        match value with
        | .str s => .str (safeString host key limit s)
        | .none => .null
        | .bool b => .bool b
        | .int n => .int n
        | .float x => .float x
        | .dict entries => .dict (publishEntries (redactEntries host entries)
            fun key value => sanitize limit room (some key) value)
        | .list items => .list (publishItems items (sanitize limit room Option.none))
        | .tuple items => .list (publishItems items (sanitize limit room Option.none))
        | .mapping entries => .str (safeString host key limit (host.reprMapping entries))
        | .other repr => .str (safeString host key limit repr)

/-- `sanitize_evidence_value` -/
def sanitizeEvidenceValue (value : Value F) (key : Option String) (depth limit : Nat) : Json F :=
  sanitize host limit (maxEvidenceDepth - depth) key value

end Dingdongditch.Evidence
