import Dingdongditch.Text.Dict

/-!
# Dynamic values and exceptions

Evidence dictionaries are built at run time and read with `dict.get`, so the
model keeps them dynamic: `PyVal` is a JSON-like value and a `PyDict` is an
insertion-ordered dictionary.  Reading a key of a value that is not a
dictionary raises, as `AttributeError` does in the source.
-/

namespace Dingdongditch

/-- The exception classes that some modelled `except` clause tells apart. -/
inductive ExceptionType
  | browserConfigError
  | valueError
  | attributeError
  | assertionError
  | playwrightTimeoutError
  | playwrightError
  | authenticationError
  | identityError
  | statefulSessionError
  | twoPhaseCommitError
  | runtimeError
  | other
  deriving DecidableEq, Repr

def ExceptionType.name : ExceptionType → String
  | .browserConfigError => "BrowserConfigError"
  | .valueError => "ValueError"
  | .attributeError => "AttributeError"
  | .assertionError => "AssertionError"
  | .playwrightTimeoutError => "TimeoutError"
  | .playwrightError => "Error"
  | .authenticationError => "AuthenticationError"
  | .identityError => "IdentityError"
  | .statefulSessionError => "StatefulSessionError"
  | .twoPhaseCommitError => "TwoPhaseCommitError"
  | .runtimeError => "RuntimeError"
  | .other => "Exception"

/-- A raised exception: its class, its text, and the failure kind (or reason)
that the typed exceptions carry. -/
structure PyException where
  type : ExceptionType
  message : String := ""
  failureKind : Option String := none
  deriving DecidableEq, Repr

namespace PyException

def valueError (message : String) : PyException := ⟨.valueError, message, none⟩

def attributeError (message : String) : PyException := ⟨.attributeError, message, none⟩

/-- `f"{type(exc).__name__}: {exc}"` -/
def describe (e : PyException) : String := e.type.name ++ ": " ++ e.message

end PyException

/-- The values evidence dictionaries hold. -/
inductive PyVal
  | none
  | bool (b : Bool)
  | int (n : Int)
  | str (s : String)
  | list (items : List PyVal)
  | dict (entries : List (String × PyVal))
  deriving Repr, BEq, Inhabited

/-- An insertion-ordered dictionary with string keys. -/
abbrev PyDict := List (String × PyVal)

namespace PyDict

/-- `d.get(key)` -/
def get (d : PyDict) (key : String) : PyVal := (d.lookup key).getD .none

/-- `d[key] = value`: an existing key keeps its place. -/
def set (d : PyDict) (key : String) (value : PyVal) : PyDict :=
  if d.any (·.1 == key) then d.map fun entry => if entry.1 == key then (key, value) else entry
  else d ++ [(key, value)]

/-- `d.update(entries)` -/
def update (d : PyDict) (entries : List (String × PyVal)) : PyDict :=
  entries.foldl (fun acc entry => acc.set entry.1 entry.2) d

/-- Reading back a dictionary after one assignment. -/
theorem get_set (d : PyDict) (key other : String) (value : PyVal) :
    (d.set key value).get other = if other = key then value else d.get other := by
  have isAssign : d.set key value = Text.assign d key value := rfl
  rw [isAssign, get, Text.lookup_assign]
  split <;> rfl

@[simp] theorem get_set_self (d : PyDict) (key : String) (value : PyVal) :
    (d.set key value).get key = value := by
  rw [get_set, if_pos rfl]

@[simp] theorem get_set_ne {key other : String} (ne : other ≠ key) (d : PyDict) (value : PyVal) :
    (d.set key value).get other = d.get other := by
  rw [get_set, if_neg ne]

theorem get_update_of_not_mem {entries : List (String × PyVal)} {key : String}
    (fresh : ∀ entry ∈ entries, key ≠ entry.1) (d : PyDict) :
    (d.update entries).get key = d.get key := by
  unfold update
  induction entries generalizing d with
  | nil => rfl
  | cons entry entries ih =>
      rw [List.foldl_cons, ih fun e mem => fresh e (List.mem_cons_of_mem _ mem)]
      exact get_set_ne (fresh entry List.mem_cons_self) d entry.2

end PyDict

namespace PyVal

/-- Python truth testing. -/
def truthy : PyVal → Bool
  | .none => false
  | .bool b => b
  | .int n => n ≠ 0
  | .str s => s ≠ ""
  | .list items => !items.isEmpty
  | .dict entries => !entries.isEmpty

/-- `value is True` -/
def isTrue : PyVal → Bool
  | .bool true => true
  | _ => false

def isNone : PyVal → Bool
  | .none => true
  | _ => false

/-- `value == text` for a string `text`. -/
def isStr (text : String) : PyVal → Bool
  | .str s => s = text
  | _ => false

/-- `value or default` -/
def orElse (value default : PyVal) : PyVal := if value.truthy then value else default

/-- `value.get(key)`, where the value is only expected to be a dictionary. -/
def get (value : PyVal) (key : String) : Except PyException PyVal :=
  match value with
  | .dict entries => .ok (PyDict.get entries key)
  | .none => .error (.attributeError "'NoneType' object has no attribute 'get'")
  | .bool _ => .error (.attributeError "'bool' object has no attribute 'get'")
  | .int _ => .error (.attributeError "'int' object has no attribute 'get'")
  | .str _ => .error (.attributeError "'str' object has no attribute 'get'")
  | .list _ => .error (.attributeError "'list' object has no attribute 'get'")

/-- The items a `for` loop over the value visits. -/
def iterate : PyVal → Except PyException (List PyVal)
  | .list items => .ok items
  | .dict entries => .ok (entries.map fun entry => .str entry.1)
  | .str s => .ok (s.toList.map fun c => .str (String.ofList [c]))
  | .none => .error ⟨.other, "'NoneType' object is not iterable", Option.none⟩
  | .bool _ => .error ⟨.other, "'bool' object is not iterable", Option.none⟩
  | .int _ => .error ⟨.other, "'int' object is not iterable", Option.none⟩

end PyVal

end Dingdongditch
