import Dingdongditch.Text.Json

/-!
# Dataclasses with JSON fields

A dataclass lists its fields, each with its default if it has one.  An instance is
given by the values of its fields; `construct` makes one from keyword arguments,
and makes an instance again from what `asdict` says of it (`construct_values`).
-/

namespace Dingdongditch.Text

variable {F : Type}

structure DataClass (F : Type) where
  name : String
  fields : List (String × Option (Json F))
  distinct : (fields.map (·.1)).Nodup

/-- An instance, by the values of its fields in order. -/
structure Instance (cls : DataClass F) where
  values : List (String × Json F)
  named : values.map (·.1) = cls.fields.map (·.1)

namespace DataClass

/-- The value of one field, given or by default. -/
def argument (given : List (String × Json F)) (field : String × Option (Json F)) :
    Option (String × Json F) :=
  ((given.lookup field.1).or field.2).map fun value => (field.1, value)

theorem names_of_mapM {given : List (String × Json F)} {fields : List (String × Option (Json F))}
    {values : List (String × Json F)} (made : fields.mapM (argument given) = some values) :
    values.map (·.1) = fields.map (·.1) := by
  induction fields generalizing values with
  | nil =>
      cases made
      rfl
  | cons field fields ih =>
      rw [List.mapM_cons] at made
      obtain ⟨first, isFirst, made⟩ := Option.bind_eq_some_iff.mp made
      obtain ⟨rest, isRest, made⟩ := Option.bind_eq_some_iff.mp made
      cases made
      obtain ⟨value, -, isPair⟩ := Option.map_eq_some_iff.mp isFirst
      rw [List.map_cons, List.map_cons, ih isRest, ← isPair]

/-- `cls(**value)`; `none` where it raises. -/
def construct (cls : DataClass F) (value : Json F) : Option (Instance cls) :=
  match value with
  | .dict given =>
      if given.all fun entry => cls.fields.any (·.1 == entry.1) then
        match made : cls.fields.mapM (argument given) with
        | some values => some ⟨values, names_of_mapM made⟩
        | none => none
      else none
  | _ => none

end DataClass

/-- `asdict` -/
def Instance.toJson {cls : DataClass F} (item : Instance cls) : Json F := .dict item.values

theorem mapM_argument {fields : List (String × Option (Json F))} {values : List (String × Json F)}
    (before : List (String × Json F))
    (named : values.map (·.1) = fields.map (·.1)) (distinct : ((before ++ values).map (·.1)).Nodup) :
    fields.mapM (DataClass.argument (before ++ values)) = some values := by
  induction fields generalizing before values with
  | nil =>
      obtain rfl := List.map_eq_nil_iff.mp named
      rfl
  | cons field fields ih =>
      cases values with
      | nil => cases named
      | cons entry values =>
          obtain ⟨sameName, sameNames⟩ : entry.1 = field.1 ∧ _ := List.cons.inj named
          have fresh : before.lookup entry.1 = none := by
            rw [List.lookup_eq_none_iff]
            intro other mem
            rw [List.map_append, List.nodup_append] at distinct
            have ne := distinct.2.2 _ (List.mem_map_of_mem (f := (·.1)) mem) entry.1 (by simp)
            simpa using fun eq => ne eq.symm
          have found : (before ++ entry :: values).lookup field.1 = some entry.2 := by
            rw [← sameName, List.lookup_append, fresh, Option.none_or]
            exact List.lookup_cons_self
          have first : DataClass.argument (before ++ entry :: values) field = some entry := by
            rw [DataClass.argument, found, ← sameName]
            rfl
          have split : before ++ entry :: values = (before ++ [entry]) ++ values := by simp
          rw [List.mapM_cons, first, split, ih _ sameNames (split ▸ distinct)]
          rfl

/-- An instance is made again from its dictionary. -/
theorem DataClass.construct_toJson {cls : DataClass F} (item : Instance cls) :
    cls.construct item.toJson = some item := by
  have known : item.values.all fun entry => cls.fields.any (·.1 == entry.1) := by
    rw [List.all_eq_true]
    intro entry mem
    have there : entry.1 ∈ cls.fields.map (·.1) := item.named ▸ List.mem_map_of_mem (f := (·.1)) mem
    obtain ⟨field, isField, same⟩ := List.mem_map.mp there
    exact List.any_eq_true.mpr ⟨field, isField, beq_iff_eq.mpr same⟩
  have made : cls.fields.mapM (argument item.values) = some item.values :=
    mapM_argument [] item.named (item.named ▸ cls.distinct)
  unfold construct Instance.toJson
  dsimp only
  rw [if_pos known]
  split
  · next values isMade =>
      rw [made] at isMade
      cases isMade
      rfl
  · next unmade =>
      rw [made] at unmade
      cases unmade

end Dingdongditch.Text
