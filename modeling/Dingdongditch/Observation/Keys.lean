import Dingdongditch.Observation.Observer

/-!
# Keys of an observation

The dictionaries of an observation hold each of their keys once, as those of its
capture do: what is derived from a capture repeats no key, and what is cut from it
keeps the rest as it is (`sealedValues_distinct`).
-/

namespace Dingdongditch.Observation

open Text

variable {F : Type}

/-! ## The keys of a capture -/

theorem distinct_of_lookup {entries : List (String × Json F)} {key : String} {v : Json F}
    (distinct : Json.DistinctEntries entries) (found : entries.lookup key = some v) : v.Distinct :=
  Json.distinctEntries_iff.mp distinct (key, v) (mem_of_lookup found)

theorem mem_of_mapM {α β : Type} {f : α → Option β} {items : List α} {results : List β} {b : β}
    (read : items.mapM f = some results) (mem : b ∈ results) : ∃ a ∈ items, f a = some b := by
  induction items generalizing results with
  | nil =>
      cases read
      cases mem
  | cons a items ih =>
      rw [List.mapM_cons] at read
      obtain ⟨first, isFirst, read⟩ := Option.bind_eq_some_iff.mp read
      obtain ⟨rest, isRest, read⟩ := Option.bind_eq_some_iff.mp read
      cases read
      rcases List.mem_cons.mp mem with rfl | mem
      · exact ⟨a, List.mem_cons_self, isFirst⟩
      · obtain ⟨a', there, same⟩ := ih isRest mem
        exact ⟨a', List.mem_cons_of_mem _ there, same⟩

theorem eq_dict_of_asDict {v : Json F} {entries : List (String × Json F)}
    (read : asDict v = some entries) : v = .dict entries := by
  unfold asDict at read
  split at read
  · cases read
    rfl
  · cases read

theorem eq_list_of_asList {v : Json F} {items : List (Json F)} (read : asList v = some items) :
    v = .list items := by
  unfold asList at read
  split at read
  · cases read
    rfl
  · cases read

theorem CapturedElement.entries_of_ofJson {v : Json F} {e : CapturedElement F}
    (read : CapturedElement.ofJson v = some e) : v = .dict e.entries := by
  unfold CapturedElement.ofJson at read
  obtain ⟨entries, isDict, read⟩ := Option.bind_eq_some_iff.mp read
  simp only [Option.bind_eq_bind, Option.bind_eq_some_iff, Option.pure_def, Option.some.injEq] at read
  obtain ⟨_, -, _, -, _, -, _, -, _, -, _, -, _, -, _, -, _, -, _, -, rfl⟩ := read
  exact eq_dict_of_asDict isDict

theorem CapturedRegion.entries_of_ofJson {v : Json F} {r : CapturedRegion F}
    (read : CapturedRegion.ofJson v = some r) : v = .dict r.entries := by
  unfold CapturedRegion.ofJson at read
  obtain ⟨entries, isDict, read⟩ := Option.bind_eq_some_iff.mp read
  simp only [Option.bind_eq_bind, Option.bind_eq_some_iff, Option.pure_def, Option.some.injEq] at read
  obtain ⟨_, -, _, -, _, -, rfl⟩ := read
  exact eq_dict_of_asDict isDict

/-- The parts of a capture hold each of their keys once. -/
structure CaptureDistinct (c : Capture F) : Prop where
  viewport : (Json.dict c.viewport).Distinct
  viewportWidth : c.viewportWidth.Distinct
  document : (Json.dict c.document).Distinct
  focus : c.focus.Distinct
  regions : ∀ r ∈ c.regions, (Json.dict r.entries).Distinct
  elements : ∀ e ∈ c.elements, (Json.dict e.entries).Distinct
  overlays : ∀ v ∈ c.overlays, v.Distinct
  textBlocks : ∀ v ∈ c.textBlocks, v.Distinct
  scrollables : c.scrollables.Distinct
  textLimitReached : c.textLimitReached.Distinct

theorem captureDistinct {value : Json F} {c : Capture F} (read : Capture.ofJson value = some c)
    (distinct : value.Distinct) : CaptureDistinct c := by
  unfold Capture.ofJson at read
  obtain ⟨entries, isDict, read⟩ := Option.bind_eq_some_iff.mp read
  obtain ⟨_, -, read⟩ := Option.bind_eq_some_iff.mp read
  obtain ⟨_, -, read⟩ := Option.bind_eq_some_iff.mp read
  obtain ⟨viewport, viewportRead, read⟩ := Option.bind_eq_some_iff.mp read
  obtain ⟨width, widthAt, read⟩ := Option.bind_eq_some_iff.mp read
  obtain ⟨_, -, read⟩ := Option.bind_eq_some_iff.mp read
  obtain ⟨document, documentRead, read⟩ := Option.bind_eq_some_iff.mp read
  obtain ⟨_, -, read⟩ := Option.bind_eq_some_iff.mp read
  obtain ⟨_, -, read⟩ := Option.bind_eq_some_iff.mp read
  obtain ⟨focus, focusAt, read⟩ := Option.bind_eq_some_iff.mp read
  obtain ⟨regionValues, regionsAt, read⟩ := Option.bind_eq_some_iff.mp read
  obtain ⟨regions, regionsRead, read⟩ := Option.bind_eq_some_iff.mp read
  obtain ⟨elementValues, elementsAt, read⟩ := Option.bind_eq_some_iff.mp read
  obtain ⟨elements, elementsRead, read⟩ := Option.bind_eq_some_iff.mp read
  obtain ⟨overlays, overlaysAt, read⟩ := Option.bind_eq_some_iff.mp read
  obtain ⟨blocks, blocksAt, read⟩ := Option.bind_eq_some_iff.mp read
  obtain ⟨scrollables, scrollablesAt, read⟩ := Option.bind_eq_some_iff.mp read
  obtain ⟨_, -, read⟩ := Option.bind_eq_some_iff.mp read
  obtain ⟨_, -, read⟩ := Option.bind_eq_some_iff.mp read
  obtain ⟨limited, limitedAt, read⟩ := Option.bind_eq_some_iff.mp read
  obtain ⟨_, -, read⟩ := Option.bind_eq_some_iff.mp read
  cases read
  rw [eq_dict_of_asDict isDict] at distinct
  have whole : Json.DistinctEntries entries := distinct.2
  have dictAt {key : String} {inner : List (String × Json F)}
      (found : (entries.lookup key).bind asDict = some inner) : (Json.dict inner).Distinct := by
    obtain ⟨v, at_, isInner⟩ := Option.bind_eq_some_iff.mp found
    rw [← eq_dict_of_asDict isInner]
    exact distinct_of_lookup whole at_
  have listAt {key : String} {items : List (Json F)}
      (found : (entries.lookup key).bind asList = some items) : ∀ v ∈ items, v.Distinct := by
    obtain ⟨v, at_, isList⟩ := Option.bind_eq_some_iff.mp found
    have items_ := distinct_of_lookup whole at_
    rw [eq_list_of_asList isList] at items_
    exact Json.distinctItems_iff.mp items_
  constructor
  · exact dictAt viewportRead
  · exact distinct_of_lookup (dictAt viewportRead).2 widthAt
  · exact dictAt documentRead
  · exact distinct_of_lookup whole focusAt
  · intro r mem
    obtain ⟨v, there, isRegion⟩ := mem_of_mapM regionsRead mem
    rw [← CapturedRegion.entries_of_ofJson isRegion]
    exact listAt regionsAt v there
  · intro e mem
    obtain ⟨v, there, isElement⟩ := mem_of_mapM elementsRead mem
    rw [← CapturedElement.entries_of_ofJson isElement]
    exact listAt elementsAt v there
  · exact listAt overlaysAt
  · exact listAt blocksAt
  · exact distinct_of_lookup whole scrollablesAt
  · exact distinct_of_lookup whole limitedAt

/-! ## The keys of what is derived -/

theorem distinct_assign {entries : List (String × Json F)} {key : String} {v : Json F}
    (distinct : (Json.dict entries).Distinct) (value : v.Distinct) :
    (Json.dict (assign entries key v)).Distinct := by
  refine ⟨nodup_keys_assign key v distinct.1, ?_⟩
  apply Json.distinctEntries_iff.mpr
  rintro ⟨other, w⟩ mem
  rcases mem_assign mem with known | ⟨-, rfl⟩
  · exact Json.distinctEntries_iff.mp distinct.2 (other, w) known
  · exact value

theorem optionalText_distinct (text : Option String) : (optionalText (F := F) text).Distinct := by
  cases text
  all_goals trivial

theorem Number.distinct (n : Number F) : n.toJson.Distinct := by
  cases n
  all_goals trivial

theorem strings_distinct (texts : List String) : (Json.list (F := F) (texts.map .str)).Distinct := by
  apply Json.distinctItems_iff.mpr
  intro v mem
  obtain ⟨text, -, rfl⟩ := List.mem_map.mp mem
  trivial

/-- A dictionary of distinct names whose values are distinct. -/
theorem dict_distinct {entries : List (String × Json F)} (names : (entries.map (·.1)).Nodup)
    (values : ∀ entry ∈ entries, entry.2.Distinct) : (Json.dict entries).Distinct :=
  ⟨names, Json.distinctEntries_iff.mpr values⟩

section Derived

variable {math : Arithmetic F} {options : PageObservationOptions F}

theorem LocatorValue.distinct (value : LocatorValue) : (value.toJson (F := F)).Distinct := by
  cases value with
  | text => trivial
  | roleName => exact dict_distinct (by simp) (by simp [Json.Distinct])
  | withinRegion _ _ regionName =>
      exact dict_distinct (by simp) (by simp [Json.Distinct, optionalText_distinct regionName])

theorem LocatorCandidate.distinct (elementId : String) (index : Nat) (candidate : LocatorCandidate) :
    (candidate.toJson math elementId index).Distinct := by
  have ambiguity : (if candidate.unique then .null
      else .str (toString candidate.matchCount ++ " matching elements") : Json F).Distinct := by
    split
    all_goals trivial
  apply dict_distinct
  · simp
  · simpa [Json.Distinct, candidate.locatorValue.distinct] using ambiguity

theorem withCandidates_distinct {lower : List Char → List Char} {elements : List (CapturedElement F)}
    {regions : List (CapturedRegion F)} {e : CapturedElement F}
    (distinct : (Json.dict e.entries).Distinct) :
    (withCandidates lower elements regions e math).Distinct := by
  apply distinct_assign distinct
  apply Json.distinctItems_iff.mpr
  intro v mem
  obtain ⟨⟨candidate, index⟩, -, rfl⟩ := List.mem_map.mp mem
  exact candidate.distinct e.elementId index

theorem relationships_distinct {elements : List (CapturedElement F)} :
    ∀ v ∈ relationships math options elements, v.Distinct := by
  intro v mem
  obtain ⟨⟨a, position⟩, -, mem⟩ := List.mem_flatMap.mp mem
  obtain ⟨n, -, rfl⟩ := List.mem_map.mp mem
  apply dict_distinct
  · simp
  · have types := strings_distinct (F := F) (relationshipTypes math a.bounds n.element.bounds n
      (overlapPercentage math a.bounds n.element.bounds))
    simpa [Json.Distinct, Number.distinct] using types

/-- What holds of every item of the sections. -/
structure Sections.All (p : Json F → Prop) (s : Sections F) : Prop where
  visibleText : ∀ v ∈ s.visibleText, p v
  relationships : ∀ v ∈ s.relationships, p v
  elements : ∀ v ∈ s.elements, p v

theorem Sections.All.drop {p : Json F → Prop} {s : Sections F} (all : s.All p) : s.drop.All p := by
  have shorter {items : List (Json F)} (holds : ∀ v ∈ items, p v) : ∀ v ∈ items.dropLast, p v :=
    fun v mem => holds v (List.mem_of_mem_dropLast mem)
  unfold Sections.drop
  split
  · exact ⟨shorter all.visibleText, all.relationships, all.elements⟩
  split
  · exact ⟨all.visibleText, shorter all.relationships, all.elements⟩
  · exact ⟨all.visibleText, all.relationships, shorter all.elements⟩

theorem Sections.All.cut {p : Json F → Prop} {size : Sections F → Nat} {limit : Int} (rounds : Nat)
    {s : Sections F} (all : s.All p) : (Sections.cut size limit rounds s).All p := by
  induction rounds generalizing s with
  | zero =>
      unfold Sections.cut
      split
      · exact ⟨all.visibleText, all.relationships, all.elements⟩
      · exact all
  | succ rounds ih =>
      unfold Sections.cut
      split
      · exact ih all.drop
      · exact all

end Derived

section Values

variable {backend : Backend} {host : ObserverHost F} {options : PageObservationOptions F} {capture : Capture F}
  {moment : Moment} {profile : String}

theorem scrollContext_distinct (distinct : CaptureDistinct capture) :
    (scrollContext host capture).Distinct := by
  unfold scrollContext
  simp only [List.foldl_cons, List.foldl_nil]
  refine distinct_assign (distinct_assign (distinct_assign (distinct_assign (distinct_assign
    distinct.document distinct.viewportWidth) (Number.distinct _)) trivial) trivial)
    distinct.scrollables

theorem diagnostics_distinct (distinct : CaptureDistinct capture) (truncated : Bool) :
    (diagnostics options capture moment truncated).Distinct := by
  have sources := strings_distinct (F := F) EVIDENCE_SOURCES
  have states := strings_distinct (F := F) OBSERVATION_STATES
  apply dict_distinct
  · simp
  · intro entry mem
    simp only [List.mem_cons, List.not_mem_nil, or_false] at mem
    rcases mem with rfl | rfl | rfl | rfl | rfl | rfl
    · trivial
    · exact dict_distinct (by simp) (by simp [Json.Distinct])
    · exact dict_distinct (by simp) (by simp [Json.Distinct, distinct.textLimitReached])
    · exact dict_distinct (by simp) (by simp [Json.Distinct])
    · exact sources
    · exact dict_distinct (by simp) (by simpa [Json.Distinct] using states)

theorem observationValues_distinct (distinct : CaptureDistinct capture) {s : Sections F}
    (sections_ : s.All Json.Distinct) (field : ObservationField) :
    (observationValues host backend options capture moment profile s field).Distinct := by
  cases field with
  | viewport => exact distinct.viewport
  | document => exact distinct.document
  | focus => exact distinct.focus
  | overlays => exact Json.distinctItems_iff.mpr distinct.overlays
  | regions =>
      apply Json.distinctItems_iff.mpr
      intro v mem
      obtain ⟨r, there, rfl⟩ := List.mem_map.mp mem
      exact distinct.regions r there
  | visibleText => exact Json.distinctItems_iff.mpr sections_.visibleText
  | interactiveElements => exact Json.distinctItems_iff.mpr sections_.elements
  | spatialRelationships => exact Json.distinctItems_iff.mpr sections_.relationships
  | scrollContext => exact scrollContext_distinct distinct
  | freshness =>
      exact dict_distinct (by simp) (by simp [Json.Distinct, optionalText_distinct])
  | diagnostics => exact diagnostics_distinct distinct s.truncated
  | provenance => exact strings_distinct ["web_untrusted"]
  | _ => trivial

variable [Floating F]

theorem fittedSections_distinct (distinct : CaptureDistinct capture) :
    (fittedSections host backend options capture moment profile).All Json.Distinct := by
  apply Sections.All.cut
  refine ⟨distinct.textBlocks, relationships_distinct, ?_⟩
  intro v mem
  obtain ⟨e, there, rfl⟩ := List.mem_map.mp mem
  exact withCandidates_distinct (distinct.elements e there)

/-- The published record holds each of its keys once. -/
theorem sealedValues_distinct (distinct : CaptureDistinct capture) (field : ObservationField) :
    (sealedValues host backend options capture moment profile field).Distinct := by
  unfold sealedValues
  dsimp only
  split
  · trivial
  · exact observationValues_distinct distinct (fittedSections_distinct distinct) field

end Values

end Dingdongditch.Observation
