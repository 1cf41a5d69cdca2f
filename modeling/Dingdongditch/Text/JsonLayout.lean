import Dingdongditch.Text.JsonText

/-!
# JSON text in a layout

`json.dumps` puts blanks between the parts of a document: a `Layout` says which.
`loads_render` reads a value back from its text in any layout, so that the text
determines the value (`render_inj`).
-/

namespace Dingdongditch.Text.Json

variable {F : Type}

/-! ## Printing -/

/-- What stands before an item or a closing bracket at a depth, and after the colon
of a key. -/
structure Layout where
  pad : Nat → List Char
  gap : List Char
  pad_blank : ∀ depth, ∀ c ∈ pad depth, isBlank c = true
  gap_blank : ∀ c ∈ gap, isBlank c = true

namespace Layout

/-- `separators=(",", ":")` -/
def compact : Layout where
  pad _ := []
  gap := []
  pad_blank _ _ mem := absurd mem List.not_mem_nil
  gap_blank _ mem := absurd mem List.not_mem_nil

/-- `indent=2` -/
def indented : Layout where
  pad depth := '\n' :: List.replicate (2 * depth) ' '
  gap := [' ']
  pad_blank depth c mem := by
    rcases List.mem_cons.mp mem with rfl | mem
    · rfl
    · rw [List.eq_of_mem_replicate mem]
      rfl
  gap_blank c mem := by
    rw [List.mem_singleton.mp mem]
    rfl

end Layout

mutual

/-- `json.dumps(value, ensure_ascii=False)` in a layout. -/
def render [Floating F] (layout : Layout) (depth : Nat) : Json F → List Char
  | .null => "null".toList
  | .bool true => "true".toList
  | .bool false => "false".toList
  | .int n => (toString n).toList
  | .float x => Floating.repr x
  | .str s => quoteText s
  | .list [] => "[]".toList
  | .list (item :: items) =>
      '[' :: (layout.pad (depth + 1) ++
        (render layout (depth + 1) item ++ renderItems layout depth items))
  | .dict [] => "{}".toList
  | .dict ((key, value) :: entries) =>
      '\x7b' :: (layout.pad (depth + 1) ++ (quoteText key ++ ':' :: (layout.gap ++
        (render layout (depth + 1) value ++ renderEntries layout depth entries))))

def renderItems [Floating F] (layout : Layout) (depth : Nat) : List (Json F) → List Char
  | [] => layout.pad depth ++ [']']
  | item :: items =>
      ',' :: (layout.pad (depth + 1) ++
        (render layout (depth + 1) item ++ renderItems layout depth items))

def renderEntries [Floating F] (layout : Layout) (depth : Nat) :
    List (String × Json F) → List Char
  | [] => layout.pad depth ++ ['\x7d']
  | (key, value) :: entries =>
      ',' :: (layout.pad (depth + 1) ++ (quoteText key ++ ':' :: (layout.gap ++
        (render layout (depth + 1) value ++ renderEntries layout depth entries))))

end

/-! ## A printed value is read back -/

section Reading

variable [Floating F] [ReadsFloat F]

theorem not_isWordChar_of_isBlank {c : Char} (blank : isBlank c = true) : isWordChar c = false := by
  simp only [isBlank, Bool.or_eq_true, decide_eq_true_eq] at blank
  rcases blank with ((rfl | rfl) | rfl) | rfl
  all_goals rfl

/-- Blanks leave a state as it is that skips each of them. -/
theorem feed_blanks {blanks : List Char} {state : Reading F} (blank : ∀ c ∈ blanks, isBlank c = true)
    (skips : ∀ c, isBlank c = true → step state c = some state) (rest : List Char) :
    feed (blanks ++ rest) state = feed rest state := by
  induction blanks with
  | nil => rfl
  | cons c blanks ih =>
      rw [List.cons_append, feed_cons, skips c (blank c List.mem_cons_self), Option.bind_some]
      exact ih fun d mem => blank d (List.mem_cons_of_mem _ mem)

theorem skips_value {stack : List (Frame F)} (c : Char) (blank : isBlank c = true) :
    step (stack, .value) c = some (stack, .value) := by
  simp [Json.step, blank]

theorem skips_first {stack : List (Frame F)} (c : Char) (blank : isBlank c = true) :
    step (stack, .first) c = some (stack, .first) := by
  simp [Json.step, blank]

theorem skips_firstKey {stack : List (Frame F)} (c : Char) (blank : isBlank c = true) :
    step (stack, .firstKey) c = some (stack, .firstKey) := by
  simp [Json.step, blank]

theorem skips_nextKey {stack : List (Frame F)} {entries : List (String × Json F)} (c : Char)
    (blank : isBlank c = true) : step (stack, .nextKey entries) c = some (stack, .nextKey entries) := by
  simp [Json.step, blank]

theorem skips_after {stack : List (Frame F)} {v : Json F} (c : Char) (blank : isBlank c = true) :
    step (stack, .after v) c = some (stack, .after v) := by
  simp [Json.step, stepAfter, blank]

/-- Blanks before what closes a value. -/
theorem Ready.feed_blanks {stack : List (Frame F)} {v : Json F} {state : Reading F}
    (ready : Ready stack v state) {blanks : List Char} (blank : ∀ c ∈ blanks, isBlank c = true)
    {closer : Char} (outside : isWordChar closer = false) (rest : List Char) :
    feed (blanks ++ closer :: rest) state = (stepAfter stack v closer).bind (feed rest) := by
  cases blanks with
  | nil => rw [List.nil_append, feed_cons, ready.step outside]
  | cons c blanks =>
      have first : isBlank c = true := blank c List.mem_cons_self
      have more : ∀ d ∈ blanks, isBlank d = true := fun d mem => blank d (List.mem_cons_of_mem _ mem)
      have skipped : stepAfter stack v c = some (stack, .after v) := by
        simp [stepAfter, first]
      rw [List.cons_append, feed_cons, ready.step (not_isWordChar_of_isBlank first), skipped,
        Option.bind_some, Json.feed_blanks more skips_after, feed_cons]
      rfl

theorem feed_colon (key : String) (entries : List (String × Json F)) (layout : Layout)
    (rest : List Char) (stack : List (Frame F)) :
    feed (key.toList.flatMap escapeText ++ '"' :: ':' :: (layout.gap ++ rest))
        (stack, .string (some entries) [] .plain) =
      feed rest (.dict entries key :: stack, .value) := by
  rw [feed_quoteText]
  simp only [closeString, String.ofList_toList]
  change feed (layout.gap ++ rest) (.dict entries key :: stack, .value) = _
  exact feed_blanks layout.gap_blank skips_value rest

theorem render_head (layout : Layout) (depth : Nat) (v : Json F) :
    ∃ c text, render layout depth v = c :: text ∧ isBlank c = false ∧ c ≠ ']' := by
  obtain ⟨c, text, isCons, blank, closer, -⟩ := dumpsText_head v
  cases v with
  | list items =>
      cases items with
      | nil => exact ⟨_, _, rfl, by decide, by decide⟩
      | cons => exact ⟨_, _, rfl, by decide, by decide⟩
  | dict entries =>
      cases entries with
      | nil => exact ⟨_, _, rfl, by decide, by decide⟩
      | cons => exact ⟨_, _, rfl, by decide, by decide⟩
  | bool b =>
      cases b
      all_goals exact ⟨c, text, isCons, blank, closer⟩
  | _ => exact ⟨c, text, isCons, blank, closer⟩

theorem feed_render_first (layout : Layout) (depth : Nat) (v : Json F) (rest : List Char)
    (stack : List (Frame F)) :
    feed (render layout depth v ++ rest) (stack, .first) =
      feed (render layout depth v ++ rest) (.list [] :: stack, .value) := by
  obtain ⟨c, text, isCons, blank, closer⟩ := render_head layout depth v
  rw [isCons, List.cons_append, feed_cons, feed_cons]
  simp only [Json.step, blank, closer, Bool.false_eq_true, if_false]

mutual

/-- A printed value is read as one value on top of any stack. -/
theorem feed_render (layout : Layout) (depth : Nat) : (v : Json F) → (stack : List (Frame F)) →
    ∃ state, feed (render layout depth v) (stack, .value) = some state ∧ Ready stack v state
  | .null, stack => feed_dumpsText .null stack
  | .bool true, stack => feed_dumpsText (.bool true) stack
  | .bool false, stack => feed_dumpsText (.bool false) stack
  | .int n, stack => feed_dumpsText (.int n) stack
  | .float x, stack => feed_dumpsText (.float x) stack
  | .str s, stack => feed_dumpsText (.str s) stack
  | .list [], stack => feed_dumpsText (.list []) stack
  | .list (item :: items), stack => by
      obtain ⟨state, first, ready⟩ := feed_render layout (depth + 1) item (.list [] :: stack)
      refine ⟨(stack, .after (.list (item :: items))), ?_, .inl rfl⟩
      change feed (layout.pad (depth + 1) ++ _) (stack, .first) = _
      rw [feed_blanks (layout.pad_blank _) skips_first, feed_render_first, feed_append, first]
      exact feed_renderItems layout depth items item [] stack state ready
  | .dict [], stack => feed_dumpsText (.dict []) stack
  | .dict ((key, value) :: entries), stack => by
      obtain ⟨state, first, ready⟩ := feed_render layout (depth + 1) value (.dict [] key :: stack)
      refine ⟨(stack, .after (.dict ((key, value) :: entries))), ?_, .inl rfl⟩
      change feed (layout.pad (depth + 1) ++ _) (stack, .firstKey) = _
      rw [feed_blanks (layout.pad_blank _) skips_firstKey, quoteText, List.cons_append,
        List.append_assoc]
      change feed _ (stack, .string (some []) [] .plain) = _
      rw [List.singleton_append, feed_colon, feed_append, first]
      exact feed_renderEntries layout depth entries key value [] stack state ready

theorem feed_renderItems (layout : Layout) (depth : Nat) : (items : List (Json F)) → (v : Json F) →
    (before : List (Json F)) → (stack : List (Frame F)) → (state : Reading F) →
    Ready (.list before :: stack) v state →
    feed (renderItems layout depth items) state = some (stack, .after (.list (before ++ v :: items)))
  | [], v, before, stack, state, ready => by
      rw [renderItems, ready.feed_blanks (layout.pad_blank _) (by decide)]
      rfl
  | item :: items, v, before, stack, state, ready => by
      obtain ⟨next, first, ready'⟩ :=
        feed_render layout (depth + 1) item (.list (before ++ [v]) :: stack)
      rw [renderItems, feed_cons, ready.step (by decide)]
      change feed (layout.pad (depth + 1) ++ _) (.list (before ++ [v]) :: stack, .value) = _
      rw [feed_blanks (layout.pad_blank _) skips_value, feed_append, first]
      have rest := feed_renderItems layout depth items item (before ++ [v]) stack next ready'
      rw [List.append_assoc] at rest
      exact rest

theorem feed_renderEntries (layout : Layout) (depth : Nat) :
    (entries : List (String × Json F)) → (key : String) → (v : Json F) →
    (before : List (String × Json F)) → (stack : List (Frame F)) → (state : Reading F) →
    Ready (.dict before key :: stack) v state →
    feed (renderEntries layout depth entries) state =
      some (stack, .after (.dict (before ++ (key, v) :: entries)))
  | [], key, v, before, stack, state, ready => by
      rw [renderEntries, ready.feed_blanks (layout.pad_blank _) (by decide)]
      rfl
  | (nextKey, value) :: entries, key, v, before, stack, state, ready => by
      obtain ⟨next, first, ready'⟩ :=
        feed_render layout (depth + 1) value (.dict (before ++ [(key, v)]) nextKey :: stack)
      rw [renderEntries, feed_cons, ready.step (by decide)]
      change feed (layout.pad (depth + 1) ++ _) (stack, .nextKey (before ++ [(key, v)])) = _
      rw [feed_blanks (layout.pad_blank _) skips_nextKey, quoteText, List.cons_append,
        List.append_assoc]
      change feed _ (stack, .string (some (before ++ [(key, v)])) [] .plain) = _
      rw [List.singleton_append, feed_colon, feed_append, first]
      have rest := feed_renderEntries layout depth entries nextKey value (before ++ [(key, v)]) stack
        next ready'
      rw [List.append_assoc] at rest
      exact rest

end

theorem loads_render (layout : Layout) (v : Json F) : loads (render layout 0 v) = some v := by
  obtain ⟨state, fed, ready⟩ := feed_render layout 0 v []
  rw [loads, fed]
  exact ready.finish

theorem render_inj {layout : Layout} {v w : Json F} (same : render layout 0 v = render layout 0 w) :
    v = w := by
  have read := loads_render layout v
  rw [same, loads_render] at read
  exact (Option.some.inj read).symm

end Reading

end Dingdongditch.Text.Json
