import Dingdongditch.Interaction.Scripted
import Dingdongditch.Runtime.RunOwnership

/-!
# What the owners of runs share

However the owners of runs interleave and wherever they stop, a generation that can be
seen is complete, belongs to the run that made it, and keeps what is published in it
(`generations_reliable`); a run that has ended leaves nothing else (`nothing_left`).

A `Holding` is how far a run has come.  It carries the files that the run put into its
directory, so that an answer of the file system that does not agree with them leads to
`absurd`; no run ever holds that.
-/

namespace Dingdongditch.RunOwnership

open Interaction Store Text

variable {F : Type}

/-! ## Complete generations -/

/-- What is published in a generation. -/
def published : List String := ["owner.json", "manifest.json", ".lease", "completion.json"]

/-- The completion of a run, with one of the outcomes. -/
def IsCompletion (generationId : String) (content : Content F) : Prop :=
  ∃ outcome ∈ outcomes, ∃ now detail,
    content = .document (completionDocument generationId outcome now detail)

structure Complete (generationId : String) (contents : Contents F) : Prop where
  owner : ∃ host pid now, contents.lookup "owner.json" =
    some (.document (ownerDocument generationId host pid now))
  manifest : ∃ now, contents.lookup "manifest.json" =
    some (.document (manifestDocument generationId now))
  lease : contents.lookup ".lease" = some (.bytes [0])
  completion : ∀ content, contents.lookup "completion.json" = some content →
    IsCompletion generationId content

/-- What is published stays as it was. -/
def ContentsKept (contents contents' : Contents F) : Prop :=
  ∀ path ∈ published, ∀ content, contents.lookup path = some content →
    contents'.lookup path = some content

namespace Root

/-- The generations that are there stay, with what is published in them. -/
def Keeps (root root' : Root F) : Prop :=
  ∀ generationId contents, IsGenerationId generationId →
    root.generations.lookup generationId = some contents →
    ∃ contents', root'.generations.lookup generationId = some contents' ∧ ContentsKept contents contents'

structure Sound (root : Root F) : Prop where
  complete : ∀ generationId contents, IsGenerationId generationId →
    root.generations.lookup generationId = some contents → Complete generationId contents
  leased : ∀ generationId ∈ root.leased, IsGenerationId generationId ∧ root.generations.Has generationId
  current : ∀ generationId, root.current = some generationId →
    IsGenerationId generationId ∧ root.generations.Has generationId

variable {root root' root'' : Root F} {name generationId : String} {contents : Contents F}

theorem Keeps.refl (root : Root F) : root.Keeps root :=
  fun _ contents _ found => ⟨contents, found, fun _ _ _ there => there⟩

theorem Keeps.trans (first : root.Keeps root') (second : root'.Keeps root'') : root.Keeps root'' := by
  intro generationId contents isId found
  obtain ⟨contents', found', kept⟩ := first generationId contents isId found
  obtain ⟨contents'', found'', kept'⟩ := second generationId contents' isId found'
  exact ⟨contents'', found'', fun path mem content there =>
    kept' path mem content (kept path mem content there)⟩

theorem has_iff : root.generations.Has name ↔ ∃ contents, root.generations.lookup name = some contents :=
  Option.isSome_iff_exists

theorem Keeps.has (keeps : root.Keeps root') (isId : IsGenerationId generationId)
    (has : root.generations.Has generationId) : root'.generations.Has generationId := by
  obtain ⟨contents, found⟩ := has_iff.mp has
  obtain ⟨contents', found', -⟩ := keeps generationId contents isId found
  exact has_iff.mpr ⟨contents', found'⟩

theorem lookup_put {other : String} : (root.put name contents).generations.lookup other =
    if other = name then some contents else root.generations.lookup other :=
  Directory.lookup_write

theorem ensure_of_has (has : root.generations.Has name) :
    root.apply (.ensure name) = (.ok (), root) := Prod.ext rfl (if_pos has)

theorem exists_of_has (has : root.generations.Has name) :
    root.apply (.exists name) = (.ok true, root) := Prod.ext (congrArg Except.ok (decide_eq_true has)) rfl

theorem inside_of_lookup {α : Type} {f : Contents F → Except Failure α × Contents F}
    (found : root.generations.lookup name = some contents) :
    root.inside name f = ((f contents).1, root.put name (f contents).2) := by
  unfold inside
  rw [found]

theorem rmdir_of_lookup (found : root.generations.lookup name = some []) :
    root.rmdir name = (.ok (), { root with generations := root.generations.remove name }) := by
  unfold rmdir
  rw [found]

/-- A move to a place where no generation is, or none at all. -/
theorem replace_of_lookup {source destination : String} (sound : root.Sound)
    (isId : IsGenerationId destination) (found : root.generations.lookup source = some contents) :
    (∃ e, root.replace source destination = (.error e, root)) ∨
      ¬ root.generations.Has destination ∧ root.replace source destination = (.ok (), { root with
        generations := (root.generations.remove source).write destination contents }) := by
  unfold replace
  rw [found]
  dsimp only
  split
  · next empty =>
      refine .inr ⟨?_, rfl⟩
      intro has
      obtain ⟨there, isThere⟩ := has_iff.mp has
      rw [isThere] at empty
      obtain ⟨host, pid, now, owner⟩ := (sound.complete _ _ isId isThere).owner
      have none : there = [] := empty
      rw [none] at owner
      cases owner
  · exact .inl ⟨_, rfl⟩

theorem lock_of_not_mem (has : root.generations.Has generationId) (free : generationId ∉ root.leased) :
    root.lock generationId = (.ok (), { root with leased := generationId :: root.leased }) := by
  unfold lock
  rw [if_neg (not_not.mpr has), if_neg free]

end Root

/-! ## The protocol -/

inductive Holding (F : Type)
  | idle
  /-- A directory of its own, with these files. -/
  | building (name : String) (contents : Contents F)
  /-- A generation that it made, whether its lease was taken, and its completion. -/
  | owning (generationId : String) (leased : Bool) (completion : Option (Content F))
  | absurd

namespace Holding

/-- The directory that nobody else changes. -/
def place : Holding F → Option String
  | building name _ => some name
  | owning generationId _ _ => some generationId
  | idle => none
  | absurd => none

/-- A listing of these files. -/
def lists (contents : Contents F) (items : List String) : Bool := contents.map Prod.fst = items

theorem lists_iff {contents : Contents F} {items : List String} :
    lists contents items = true ↔ contents.map Prod.fst = items := decide_eq_true_iff

def moved : Holding F → (method : Method F) → Except Failure method.Reply → Holding F
  | idle, .mkdir name, .ok _ => building name []
  | idle, .mkdir _, .error _ => idle
  | building name contents, .ensure _, .ok _ => building name contents
  | building name contents, .write _ path content, .ok _ => building name (contents.write path content)
  | building _ _, .replace _ destination, .ok _ => owning destination false none
  | building name contents, .replace _ _, .error _ => building name contents
  | building name contents, .exists _, .ok true => building name contents
  | building name contents, .iterdir _, .ok items =>
      if lists contents items then building name contents else absurd
  | building name contents, .unlink _ path, .ok _ => building name (contents.remove path)
  | building _ _, .rmdir _, .ok _ => idle
  | owning generationId leased completion, .ensure _, .ok _ => owning generationId leased completion
  | owning generationId leased completion, .write _ path content, .ok _ =>
      owning generationId leased (if path = "completion.json" then some content else completion)
  | owning generationId _ completion, .lock _, .ok _ => owning generationId true completion
  | owning generationId leased completion, .unlock _, .ok _ => owning generationId leased completion
  | owning generationId leased completion, .replaceCurrent _, .ok _ =>
      owning generationId leased completion
  | _, _, _ => absurd

/-- The operations that a run may do. -/
def Allows : Holding F → Method F → Prop
  | absurd, _ => True
  | idle, .mkdir name => ¬ IsGenerationId name
  | building name _, .ensure other => other = name
  | building name _, .write other path _ => other = name ∧ path ≠ "completion.json"
  | building name contents, .replace source destination => source = name ∧
      IsGenerationId destination ∧ Complete destination contents ∧
      contents.lookup "completion.json" = none
  | building name _, .exists other => other = name
  | building name _, .iterdir other => other = name
  | building name _, .unlink other _ => other = name
  | building name contents, .rmdir other => other = name ∧ contents = []
  | owning generationId _ _, .ensure other => other = generationId
  | owning generationId _ completion, .write other path content => other = generationId ∧
      (path = lockFile "completion.json" ∨
        path = "completion.json" ∧ completion = none ∧ IsCompletion generationId content)
  | owning generationId leased _, .lock other => other = generationId ∧ leased = false
  | owning generationId _ _, .unlock other => other = generationId
  | owning generationId _ _, .replaceCurrent other => other = generationId
  | _, _ => False

/-- What a run holds is there. -/
def Agrees (root : Root F) : Holding F → Prop
  | idle => True
  | building name contents => ¬ IsGenerationId name ∧ root.generations.lookup name = some contents
  | owning generationId leased completion => IsGenerationId generationId ∧
      (∃ contents, root.generations.lookup generationId = some contents ∧
        contents.lookup "completion.json" = completion) ∧
      (leased = false → generationId ∉ root.leased)
  | absurd => False

/-- A run that ends has nothing that is being built. -/
def Ended : Holding F → Prop
  | building _ _ => False
  | _ => True

end Holding

def protocol (F : Type) : Protocol (RunSig F) (Holding F) where
  start := .idle
  allowed
    | holding, ⟨.inl method, _⟩ => holding.Allows method
    | _, ⟨.inr _, _⟩ => True
  move
    | holding, ⟨.inl method, answer⟩ => holding.moved method answer
    | holding, ⟨.inr _, _⟩ => holding

/-! ## One operation -/

/-- A generation that is made. -/
def creates : Event (fileSystem F).calls → Option String
  | ⟨.replace _ destination, .ok _⟩ => some destination
  | _ => none

/-- A generation whose completion is published. -/
def completes : Event (fileSystem F).calls → Option String
  | ⟨.write name path _, .ok _⟩ => if path = "completion.json" then some name else none
  | _ => none

/-- A lease that is refused. -/
def refuses : Event (fileSystem F).calls → Option String
  | ⟨.lock generationId, .error _⟩ => some generationId
  | _ => none

/-- What an operation of a run changes, and what it leaves to the other runs. -/
structure Turn (root : Root F) (holding : Holding F) (e : Event (fileSystem F).calls) (root' : Root F)
    (holding' : Holding F) : Prop where
  agrees : holding'.Agrees root'
  frame : ∀ name, root.generations.Has name → holding.place ≠ some name →
    root'.generations.lookup name = root.generations.lookup name ∧
      (name ∈ root'.leased → name ∈ root.leased)
  place : ∀ name, holding'.place = some name → holding.place = some name ∨ ¬ root.generations.Has name
  staged : ∀ name, root'.generations.Has name → IsGenerationId name ∨ holding'.place = some name ∨
    root.generations.Has name ∧ holding.place ≠ some name
  sound : root'.Sound
  keeps : root.Keeps root'
  created : ∀ generationId, creates e = some generationId → IsGenerationId generationId ∧
    ¬ root.generations.Has generationId ∧ root'.generations.Has generationId
  appeared : ∀ generationId, IsGenerationId generationId → root'.generations.Has generationId →
    root.generations.Has generationId ∨ creates e = some generationId
  completed : ∀ generationId, completes e = some generationId → IsGenerationId generationId ∧
    (∀ contents, root.generations.lookup generationId = some contents →
      contents.lookup "completion.json" = none) ∧
    ∃ contents, root'.generations.lookup generationId = some contents ∧
      contents.Has "completion.json"

section Turn

variable {root root' : Root F} {holding holding' : Holding F} {e : Event (fileSystem F).calls}
  {name generationId : String} {contents contents' : Contents F}

/-- An operation that changes nothing of the directories. -/
theorem Turn.quiet (sound : root'.Sound) (agrees : holding'.Agrees root')
    (same : root'.generations = root.generations)
    (leased : ∀ name, holding.place ≠ some name → name ∈ root'.leased → name ∈ root.leased)
    (place : holding'.place = holding.place) (uncreating : creates e = none)
    (uncompleting : completes e = none) : Turn root holding e root' holding' where
  agrees := agrees
  frame name _ other := ⟨by rw [same], leased name other⟩
  place name held := .inl (place ▸ held)
  staged name has := by
    rw [same] at has
    by_cases held : holding.place = some name
    · exact .inr (.inl (place.trans held))
    · exact .inr (.inr ⟨has, held⟩)
  sound := sound
  keeps generationId contents _ found :=
    ⟨contents, by rw [same]; exact found, fun _ _ _ there => there⟩
  created generationId isId := by
    rw [uncreating] at isId
    cases isId
  appeared generationId _ has := .inl (same ▸ has)
  completed generationId isId := by
    rw [uncompleting] at isId
    cases isId

/-- The directories after a change of one that is no generation. -/
theorem Root.Sound.put (sound : root.Sound) (staged : ¬ IsGenerationId name) :
    (root.put name contents).Sound where
  complete generationId there isId found := by
    rw [Root.lookup_put, if_neg (by rintro rfl; exact staged isId)] at found
    exact sound.complete generationId there isId found
  leased generationId mem := ⟨(sound.leased generationId mem).1,
    Directory.has_write.mpr (.inr (sound.leased generationId mem).2)⟩
  current generationId named := ⟨(sound.current generationId named).1,
    Directory.has_write.mpr (.inr (sound.current generationId named).2)⟩

/-- An operation on the files that are being built. -/
theorem Turn.put (sound : root.Sound) (staged : ¬ IsGenerationId name)
    (own : holding.place = some name ∨ ¬ root.generations.Has name)
    (alone : ∀ other, holding.place = some other → other = name) (uncreating : creates e = none)
    (uncompleting : completes e = none) :
    Turn root holding e (root.put name contents) (.building name contents) where
  agrees := ⟨staged, by rw [Root.lookup_put, if_pos rfl]⟩
  frame other has apart := by
    refine ⟨?_, id⟩
    rw [Root.lookup_put, if_neg]
    rintro rfl
    rcases own with own | absent
    · exact apart own
    · exact absent has
  place other held := by
    obtain rfl : name = other := Option.some.inj held
    exact own
  staged other has := by
    rcases Directory.has_write.mp has with rfl | has
    · exact .inr (.inl rfl)
    · by_cases held : holding.place = some other
      · exact .inr (.inl (by rw [alone other held]; rfl))
      · exact .inr (.inr ⟨has, held⟩)
  sound := sound.put staged
  keeps generationId there isId found := by
    refine ⟨there, ?_, fun _ _ _ kept => kept⟩
    rw [Root.lookup_put, if_neg (by rintro rfl; exact staged isId)]
    exact found
  created generationId isId := by
    rw [uncreating] at isId
    cases isId
  appeared generationId isId has := by
    rcases Directory.has_write.mp has with rfl | has
    · exact absurd isId staged
    · exact .inl has
  completed generationId isId := by
    rw [uncompleting] at isId
    cases isId

/-- The removal of a directory that was being built. -/
theorem Turn.removed (sound : root.Sound) (staged : ¬ IsGenerationId name)
    (uncreating : creates e = none) (uncompleting : completes e = none) :
    Turn root (.building name contents) e { root with generations := root.generations.remove name }
      .idle where
  agrees := trivial
  frame other _ apart := by
    refine ⟨?_, id⟩
    rw [Directory.lookup_remove, if_neg]
    rintro rfl
    exact apart rfl
  place _ held := by cases held
  staged other has := by
    obtain ⟨apart, has⟩ := Directory.has_remove.mp has
    refine .inr (.inr ⟨has, ?_⟩)
    intro same
    exact apart (Option.some.inj same).symm
  sound := by
    constructor
    · intro generationId there isId found
      rw [Directory.lookup_remove, if_neg (by rintro rfl; exact staged isId)] at found
      exact sound.complete generationId there isId found
    · intro generationId mem
      obtain ⟨isId, has⟩ := sound.leased generationId mem
      exact ⟨isId, Directory.has_remove.mpr ⟨by rintro rfl; exact staged isId, has⟩⟩
    · intro generationId named
      obtain ⟨isId, has⟩ := sound.current generationId named
      exact ⟨isId, Directory.has_remove.mpr ⟨by rintro rfl; exact staged isId, has⟩⟩
  keeps generationId there isId found := by
    refine ⟨there, ?_, fun _ _ _ kept => kept⟩
    rw [Directory.lookup_remove, if_neg (by rintro rfl; exact staged isId)]
    exact found
  created generationId isId := by
    rw [uncreating] at isId
    cases isId
  appeared generationId _ has := .inl (Directory.has_remove.mp has).2
  completed generationId isId := by
    rw [uncompleting] at isId
    cases isId

/-- The move of a complete directory to its place. -/
theorem Turn.replaced {destination : String} (sound : root.Sound) (staged : ¬ IsGenerationId name)
    (isId : IsGenerationId destination) (absent : ¬ root.generations.Has destination)
    (complete : Complete destination contents) (open_ : contents.lookup "completion.json" = none)
    (creation : creates e = some destination) (uncompleting : completes e = none) :
    Turn root (.building name contents) e
      { root with generations := (root.generations.remove name).write destination contents }
      (.owning destination false none) := by
  have found : ∀ other, ((root.generations.remove name).write destination contents).lookup other =
      if other = destination then some contents
      else if other = name then none else root.generations.lookup other := by
    intro other
    rw [Directory.lookup_write, Directory.lookup_remove]
  have has : ∀ other, IsGenerationId other → root.generations.Has other →
      ((root.generations.remove name).write destination contents).Has other := by
    intro other isId there
    refine Directory.has_write.mpr (.inr (Directory.has_remove.mpr ⟨?_, there⟩))
    rintro rfl
    exact staged isId
  constructor
  · refine ⟨isId, ⟨contents, by rw [found, if_pos rfl], open_⟩, ?_⟩
    intro _ mem
    exact absent (sound.leased _ mem).2
  · intro other there apart
    refine ⟨?_, id⟩
    rw [found, if_neg, if_neg]
    · rintro rfl
      exact apart rfl
    · rintro rfl
      exact absent there
  · intro other held
    obtain rfl : destination = other := Option.some.inj held
    exact .inr absent
  · intro other there
    rcases Directory.has_write.mp there with rfl | there
    · exact .inl isId
    · obtain ⟨apart, there⟩ := Directory.has_remove.mp there
      refine .inr (.inr ⟨there, ?_⟩)
      intro same
      exact apart (Option.some.inj same).symm
  · constructor
    · intro other there isOther isThere
      rw [found] at isThere
      split at isThere
      · next same =>
          rw [same, ← Option.some.inj isThere]
          exact complete
      · split at isThere
        · cases isThere
        · exact sound.complete other there isOther isThere
    · intro other mem
      obtain ⟨isOther, there⟩ := sound.leased other mem
      exact ⟨isOther, has other isOther there⟩
    · intro other named
      obtain ⟨isOther, there⟩ := sound.current other named
      exact ⟨isOther, has other isOther there⟩
  · intro other there isOther isThere
    refine ⟨there, ?_, fun _ _ _ kept => kept⟩
    rw [found, if_neg, if_neg]
    · exact isThere
    · rintro rfl
      exact staged isOther
    · rintro rfl
      exact absent (Root.has_iff.mpr ⟨there, isThere⟩)
  · intro other isOther
    rw [creation] at isOther
    obtain rfl := Option.some.inj isOther
    exact ⟨isId, absent, Directory.has_write.mpr (.inl rfl)⟩
  · intro other _ there
    rcases Directory.has_write.mp there with rfl | there
    · exact .inr creation
    · exact .inl (Directory.has_remove.mp there).2
  · intro other isOther
    rw [uncompleting] at isOther
    cases isOther

/-- A publication into a generation by its owner: of its completion, or of a lock file. -/
theorem Turn.wrote {leased : Bool} {completion : Option (Content F)} {path : String} {content : Content F}
    (sound : root.Sound) (agrees : (Holding.owning generationId leased completion).Agrees root)
    (found : root.generations.lookup generationId = some contents)
    (allowed : path = lockFile "completion.json" ∨
      path = "completion.json" ∧ completion = none ∧ IsCompletion generationId content) :
    Turn root (.owning generationId leased completion) ⟨.write generationId path content, .ok ()⟩
      (root.put generationId (contents.write path content))
      (.owning generationId leased (if path = "completion.json" then some content else completion)) := by
  obtain ⟨isId, ⟨there, isThere, completed⟩, free⟩ := agrees
  rw [found] at isThere
  obtain rfl := Option.some.inj isThere
  have unpublished : path ≠ "completion.json" → path ∉ published := by
    intro other
    rcases allowed with rfl | ⟨same, -⟩
    · decide
    · exact absurd same other
  have kept : ContentsKept contents (contents.write path content) := by
    intro other mem old isOld
    rw [Directory.lookup_write, if_neg]
    · exact isOld
    · rintro rfl
      by_cases same : other = "completion.json"
      · rcases allowed with isLock | ⟨-, none, -⟩
        · rw [same] at isLock
          exact absurd isLock (by decide)
        · rw [same, completed, none] at isOld
          cases isOld
      · exact unpublished same mem
  have complete : Complete generationId (contents.write path content) := by
    have old := sound.complete _ _ isId found
    obtain ⟨host, pid, now, owner⟩ := old.owner
    obtain ⟨time, manifest⟩ := old.manifest
    refine ⟨⟨host, pid, now, kept _ (by decide) _ owner⟩, ⟨time, kept _ (by decide) _ manifest⟩,
      kept _ (by decide) _ old.lease, ?_⟩
    intro new isNew
    rw [Directory.lookup_write] at isNew
    split at isNew
    · next same =>
        rcases allowed with isLock | ⟨-, -, isCompletion⟩
        · rw [isLock] at same
          exact absurd same (by decide)
        · rw [← Option.some.inj isNew]
          exact isCompletion
    · exact old.completion new isNew
  have has : root.generations.Has generationId := Root.has_iff.mpr ⟨contents, found⟩
  constructor
  · refine ⟨isId, ⟨contents.write path content, by rw [Root.lookup_put, if_pos rfl], ?_⟩, free⟩
    rw [Directory.lookup_write, ← completed]
    by_cases same : path = "completion.json"
    · rw [if_pos same.symm, if_pos same]
    · rw [if_neg (Ne.symm same), if_neg same]
  · intro other _ apart
    refine ⟨?_, id⟩
    rw [Root.lookup_put, if_neg]
    rintro rfl
    exact apart rfl
  · exact fun other held => .inl held
  · intro other there
    rcases Directory.has_write.mp there with rfl | there
    · exact .inl isId
    · by_cases same : other = generationId
      · exact .inl (same ▸ isId)
      · refine .inr (.inr ⟨there, ?_⟩)
        intro held
        exact same (Option.some.inj held).symm
  · constructor
    · intro other others isOther isThere
      rw [Root.lookup_put] at isThere
      split at isThere
      · next same =>
          rw [same, ← Option.some.inj isThere]
          exact complete
      · exact sound.complete other others isOther isThere
    · intro other mem
      obtain ⟨isOther, there⟩ := sound.leased other mem
      exact ⟨isOther, Directory.has_write.mpr (.inr there)⟩
    · intro other named
      obtain ⟨isOther, there⟩ := sound.current other named
      exact ⟨isOther, Directory.has_write.mpr (.inr there)⟩
  · intro other others isOther isThere
    rw [Root.lookup_put]
    split
    · next same =>
        subst same
        rw [found] at isThere
        obtain rfl := Option.some.inj isThere
        exact ⟨_, rfl, kept⟩
    · exact ⟨others, isThere, fun _ _ _ there => there⟩
  · intro other isOther
    cases isOther
  · intro other _ there
    rcases Directory.has_write.mp there with rfl | there
    · exact .inl has
    · exact .inl there
  · intro other isOther
    unfold completes at isOther
    dsimp only at isOther
    split at isOther
    · next same =>
        obtain rfl := Option.some.inj isOther
        refine ⟨isId, ?_, contents.write path content, by rw [Root.lookup_put, if_pos rfl], ?_⟩
        · intro others isThere
          rw [found] at isThere
          obtain rfl := Option.some.inj isThere
          rcases allowed with isLock | ⟨-, none, -⟩
          · rw [isLock] at same
            exact absurd same (by decide)
          · rw [completed, none]
        · rw [same]
          exact Directory.has_write.mpr (.inl rfl)
    · cases isOther

/-- The lease of a new generation is free, and is taken. -/
theorem Turn.locked {completion : Option (Content F)} (sound : root.Sound)
    (agrees : (Holding.owning generationId false completion).Agrees root)
    (uncreating : creates e = none) (uncompleting : completes e = none) :
    Turn root (.owning generationId false completion) e
      { root with leased := generationId :: root.leased } (.owning generationId true completion) := by
  obtain ⟨isId, there, -⟩ := agrees
  have has : root.generations.Has generationId := Root.has_iff.mpr ⟨there.choose, there.choose_spec.1⟩
  have agrees' : (Holding.owning generationId true completion).Agrees
      { root with leased := generationId :: root.leased } := ⟨isId, there, nofun⟩
  refine Turn.quiet ?_ agrees' rfl ?_ rfl uncreating uncompleting
  · refine ⟨sound.complete, ?_, sound.current⟩
    intro other mem
    rcases List.mem_cons.mp mem with rfl | mem
    · exact ⟨isId, has⟩
    · exact sound.leased other mem
  · intro other apart mem
    rcases List.mem_cons.mp mem with rfl | mem
    · exact absurd rfl apart
    · exact mem

end Turn

/-- An operation that the protocol allows, on a root that agrees with what the run
holds, is such a turn. -/
theorem turn (step : (fileSystem F).Step) {holding : Holding F} (sound : step.before.Sound)
    (agrees : holding.Agrees step.before) (allowed : holding.Allows step.method) :
    Turn step.before holding step.event step.after (holding.moved step.method step.outcome) := by
  rcases step with ⟨method, before, trace, outcome, after, run⟩
  have does : before.apply method = (outcome, after) := (Prog.runs_done.mp run).2.symm
  dsimp only at sound agrees allowed ⊢
  unfold Component.Step.event
  cases holding with
  | idle =>
      cases method with
      | mkdir name =>
          unfold Root.apply at does
          dsimp only at does
          split at does
          · cases does
            exact Turn.quiet sound trivial rfl (fun _ _ mem => mem) rfl rfl rfl
          · next absent =>
              cases does
              exact Turn.put sound allowed (.inr absent) nofun rfl rfl
      | _ => exact allowed.elim
  | building name contents =>
      obtain ⟨staged, found⟩ := agrees
      have has : before.generations.Has name := Root.has_iff.mpr ⟨contents, found⟩
      have alone : ∀ other, (Holding.building name contents).place = some other → other = name :=
        fun other held => (Option.some.inj held).symm
      cases method with
      | ensure other =>
          obtain rfl := allowed
          cases (Root.ensure_of_has has).symm.trans does
          exact Turn.quiet sound ⟨staged, found⟩ rfl (fun _ _ mem => mem) rfl rfl rfl
      | write other path content =>
          obtain ⟨rfl, open_⟩ := allowed
          have wrote := Root.inside_of_lookup (f := fun contents =>
            ((.ok () : Except Failure Unit), contents.write path content)) found
          cases wrote.symm.trans does
          exact Turn.put sound staged (.inl rfl) alone rfl (if_neg open_)
      | replace source destination =>
          obtain ⟨rfl, isId, complete, open_⟩ := allowed
          rcases Root.replace_of_lookup sound isId found with ⟨failure, same⟩ | ⟨absent, moved⟩
          · cases same.symm.trans does
            exact Turn.quiet sound ⟨staged, found⟩ rfl (fun _ _ mem => mem) rfl rfl rfl
          · cases moved.symm.trans does
            exact Turn.replaced sound staged isId absent complete open_ rfl rfl
      | «exists» other =>
          obtain rfl := allowed
          cases (Root.exists_of_has has).symm.trans does
          exact Turn.quiet sound ⟨staged, found⟩ rfl (fun _ _ mem => mem) rfl rfl rfl
      | iterdir other =>
          obtain rfl := allowed
          have listed := Root.inside_of_lookup (f := fun contents =>
            ((.ok (contents.map Prod.fst) : Except Failure (List String)), contents)) found
          cases listed.symm.trans does
          have same : Holding.lists contents (contents.map Prod.fst) = true := decide_eq_true rfl
          have stays : (Holding.building other contents).moved (.iterdir other)
              (.ok (contents.map Prod.fst)) = .building other contents := if_pos same
          have turns : ∀ holding' e, holding' = .building other contents → creates e = none →
              completes e = none → Turn before (.building other contents) e (before.put other contents)
                holding' := by
            rintro _ e rfl uncreating uncompleting
            exact Turn.put sound staged (.inl rfl) alone uncreating uncompleting
          exact turns _ _ stays rfl rfl
      | unlink other path =>
          obtain rfl := allowed
          have removed := Root.inside_of_lookup (f := fun contents =>
            ((.ok () : Except Failure Unit), contents.remove path)) found
          cases removed.symm.trans does
          exact Turn.put sound staged (.inl rfl) alone rfl rfl
      | rmdir other =>
          obtain ⟨rfl, rfl⟩ := allowed
          cases (Root.rmdir_of_lookup found).symm.trans does
          exact Turn.removed sound staged rfl rfl
      | _ => exact allowed.elim
  | owning generationId leased completion =>
      obtain ⟨isId, ⟨contents, found, completed⟩, free⟩ := agrees
      have has : before.generations.Has generationId := Root.has_iff.mpr ⟨contents, found⟩
      have agrees : (Holding.owning generationId leased completion).Agrees before :=
        ⟨isId, ⟨contents, found, completed⟩, free⟩
      cases method with
      | ensure other =>
          obtain rfl := allowed
          cases (Root.ensure_of_has has).symm.trans does
          exact Turn.quiet sound agrees rfl (fun _ _ mem => mem) rfl rfl rfl
      | write other path content =>
          obtain ⟨rfl, allowed⟩ := allowed
          have wrote := Root.inside_of_lookup (f := fun contents =>
            ((.ok () : Except Failure Unit), contents.write path content)) found
          cases wrote.symm.trans does
          exact Turn.wrote sound agrees found allowed
      | lock other =>
          obtain ⟨rfl, rfl⟩ := allowed
          cases (Root.lock_of_not_mem has (free rfl)).symm.trans does
          exact Turn.locked sound agrees rfl rfl
      | unlock other =>
          obtain rfl := allowed
          cases does
          have fewer : ∀ name, name ∈ before.leased.erase other → name ∈ before.leased :=
            fun _ mem => List.mem_of_mem_erase mem
          refine Turn.quiet ⟨sound.complete, fun name mem => sound.leased name (fewer name mem),
            sound.current⟩ ⟨isId, ⟨contents, found, completed⟩, ?_⟩ rfl (fun name _ mem => fewer name mem)
            rfl rfl rfl
          exact fun unleased mem => free unleased (fewer _ mem)
      | replaceCurrent other =>
          obtain rfl := allowed
          cases does
          refine Turn.quiet ⟨sound.complete, sound.leased, ?_⟩ agrees rfl (fun _ _ mem => mem) rfl rfl rfl
          intro name named
          obtain rfl := Option.some.inj named
          exact ⟨isId, has⟩
      | _ => exact allowed.elim
  | absurd => exact agrees.elim

/-! ## Every interleaving -/

/-- The generations that the operations made. -/
def madeBy (past : List (fileSystem F).Step) : List String := past.filterMap fun step => creates step.event

/-- The generations whose completion the operations published. -/
def completedBy (past : List (fileSystem F).Step) : List String :=
  past.filterMap fun step => completes step.event

/-- What the operations so far have to do with the generations. -/
structure Recorded (past : List (fileSystem F).Step) (root : Root F) : Prop where
  madeOnce : (madeBy past).Nodup
  made : ∀ generationId ∈ madeBy past, IsGenerationId generationId ∧ root.generations.Has generationId
  allMade : ∀ generationId, IsGenerationId generationId → root.generations.Has generationId →
    generationId ∈ madeBy past
  completedOnce : (completedBy past).Nodup
  completed : ∀ generationId ∈ completedBy past, IsGenerationId generationId ∧
    ∃ contents, root.generations.lookup generationId = some contents ∧ contents.Has "completion.json"
  kept : ∀ step ∈ past, step.after.Keeps root
  leased : ∀ step ∈ past, refuses step.event = none

/-- What the generations and the operations so far have to do with what the runs
hold. -/
structure Safe (past : List (fileSystem F).Step) (root : Root F) (holdings : List (Holding F)) : Prop where
  agrees : ∀ holding ∈ holdings, holding.Agrees root
  apart : (holdings.filterMap Holding.place).Nodup
  staged : ∀ name, root.generations.Has name →
    IsGenerationId name ∨ name ∈ holdings.filterMap Holding.place
  sound : root.Sound
  recorded : Recorded past root

section Safe

variable {past : List (fileSystem F).Step} {step : (fileSystem F).Step} {root : Root F}
  {holding holding' : Holding F} {others holdings holdings' : List (Holding F)}

theorem nodup_snoc {ids : List String} {new : Option String} (once : ids.Nodup)
    (apart : ∀ id, new = some id → id ∉ ids) : (ids ++ new.toList).Nodup := by
  cases new with
  | none => simpa using once
  | some id =>
      refine List.nodup_append.mpr ⟨once, List.nodup_singleton _, ?_⟩
      intro a mem b isNew same
      obtain rfl := List.mem_singleton.mp isNew
      exact apart _ rfl (same ▸ mem)

theorem madeBy_append : madeBy (past ++ [step]) = madeBy past ++ (creates step.event).toList := by
  unfold madeBy
  rw [List.filterMap_append, filterMap_cons_toList, List.filterMap_nil, List.append_nil]

theorem completedBy_append :
    completedBy (past ++ [step]) = completedBy past ++ (completes step.event).toList := by
  unfold completedBy
  rw [List.filterMap_append, filterMap_cons_toList, List.filterMap_nil, List.append_nil]

theorem Recorded.turn (recorded : Recorded past step.before)
    (turn : Turn step.before holding step.event step.after holding') (leased : refuses step.event = none) :
    Recorded (past ++ [step]) step.after := by
  constructor
  · rw [madeBy_append]
    apply nodup_snoc recorded.madeOnce
    intro id isNew mem
    exact (turn.created id isNew).2.1 (recorded.made id mem).2
  · intro id mem
    rw [madeBy_append] at mem
    rcases List.mem_append.mp mem with old | new
    · obtain ⟨isId, has⟩ := recorded.made id old
      exact ⟨isId, turn.keeps.has isId has⟩
    · obtain ⟨isId, -, has⟩ := turn.created id (Option.mem_toList.mp new)
      exact ⟨isId, has⟩
  · intro id isId has
    rw [madeBy_append]
    rcases turn.appeared id isId has with old | new
    · exact List.mem_append_left _ (recorded.allMade id isId old)
    · exact List.mem_append_right _ (Option.mem_toList.mpr new)
  · rw [completedBy_append]
    apply nodup_snoc recorded.completedOnce
    intro id isNew mem
    obtain ⟨-, contents, found, has⟩ := recorded.completed id mem
    unfold Directory.Has at has
    rw [(turn.completed id isNew).2.1 contents found] at has
    cases has
  · intro id mem
    rw [completedBy_append] at mem
    rcases List.mem_append.mp mem with old | new
    · obtain ⟨isId, contents, found, has⟩ := recorded.completed id old
      obtain ⟨contents', found', kept⟩ := turn.keeps id contents isId found
      obtain ⟨content, isContent⟩ := Option.isSome_iff_exists.mp has
      exact ⟨isId, contents', found', Directory.has_of_lookup (kept _ (by decide) content isContent)⟩
    · obtain ⟨isId, -, there⟩ := turn.completed id (Option.mem_toList.mp new)
      exact ⟨isId, there⟩
  · intro other mem
    rcases List.mem_append.mp mem with old | new
    · exact (recorded.kept other old).trans turn.keeps
    · obtain rfl := List.mem_singleton.mp new
      exact .refl _
  · intro other mem
    rcases List.mem_append.mp mem with old | new
    · exact recorded.leased other old
    · obtain rfl := List.mem_singleton.mp new
      exact leased

theorem Holding.Agrees.frame {root' : Root F} (agrees : holding.Agrees root)
    (same : ∀ name, holding.place = some name →
      root'.generations.lookup name = root.generations.lookup name ∧
        (name ∈ root'.leased → name ∈ root.leased)) : holding.Agrees root' := by
  cases holding with
  | idle => trivial
  | building name contents =>
      refine ⟨agrees.1, ?_⟩
      rw [(same name rfl).1]
      exact agrees.2
  | owning generationId leased completion =>
      obtain ⟨isId, ⟨contents, found, completed⟩, free⟩ := agrees
      obtain ⟨sameFiles, sameLease⟩ := same generationId rfl
      refine ⟨isId, ⟨contents, ?_, completed⟩, fun unleased mem => free unleased (sameLease mem)⟩
      rw [sameFiles]
      exact found
  | absurd => exact agrees

theorem Holding.Agrees.has {name : String} (agrees : holding.Agrees root)
    (held : holding.place = some name) : root.generations.Has name := by
  cases holding with
  | idle => cases held
  | building other contents =>
      obtain rfl := Option.some.inj held
      exact Root.has_iff.mpr ⟨contents, agrees.2⟩
  | owning generationId leased completion =>
      obtain rfl := Option.some.inj held
      obtain ⟨-, ⟨contents, found, -⟩, -⟩ := agrees
      exact Root.has_iff.mpr ⟨contents, found⟩
  | absurd => cases held

theorem places_cons : (holding :: others).filterMap Holding.place =
    holding.place.toList ++ others.filterMap Holding.place :=
  filterMap_cons_toList _ _ _

/-- One run makes a turn, and the others hold what they held. -/
theorem Safe.turn (safe : Safe past step.before (holding :: others))
    (turn : Turn step.before holding step.event step.after holding') (leased : refuses step.event = none) :
    Safe (past ++ [step]) step.after (holding' :: others) := by
  have apart := safe.apart
  rw [places_cons] at apart
  obtain ⟨-, othersApart, disjoint⟩ := List.nodup_append.mp apart
  have elsewhere : ∀ other ∈ others, ∀ name, other.place = some name →
      step.before.generations.Has name ∧ holding.place ≠ some name := by
    intro other mem name held
    refine ⟨(safe.agrees other (List.mem_cons_of_mem _ mem)).has held, ?_⟩
    intro same
    exact disjoint name (by rw [same]; exact List.mem_singleton_self _) name
      (List.mem_filterMap.mpr ⟨other, mem, held⟩) rfl
  constructor
  · intro other mem
    rcases List.mem_cons.mp mem with rfl | mem
    · exact turn.agrees
    · apply (safe.agrees other (List.mem_cons_of_mem _ mem)).frame
      intro name held
      obtain ⟨has, apart⟩ := elsewhere other mem name held
      exact turn.frame name has apart
  · rw [places_cons]
    refine List.nodup_append.mpr ⟨?_, othersApart, ?_⟩
    · cases holding'.place with
      | none => exact List.nodup_nil
      | some name => exact List.nodup_singleton name
    · intro name held other mem same
      subst same
      obtain ⟨other, isOther, held'⟩ := List.mem_filterMap.mp mem
      obtain ⟨has, apart⟩ := elsewhere other isOther name held'
      rcases turn.place name (Option.mem_toList.mp held) with own | absent
      · exact apart own
      · exact absent has
  · intro name has
    rw [places_cons]
    rcases turn.staged name has with isId | own | ⟨has, apart⟩
    · exact .inl isId
    · exact .inr (List.mem_append_left _ (Option.mem_toList.mpr own))
    · refine (safe.staged name has).imp_right ?_
      rw [places_cons]
      intro mem
      rcases List.mem_append.mp mem with own | other
      · exact absurd (Option.mem_toList.mp own) apart
      · exact List.mem_append_right _ other
  · exact turn.sound
  · exact safe.recorded.turn turn leased

theorem Safe.perm (safe : Safe past root holdings) (perm : holdings.Perm holdings') :
    Safe past root holdings' where
  agrees holding mem := safe.agrees holding (perm.mem_iff.mpr mem)
  apart := (perm.filterMap _).nodup_iff.mp safe.apart
  staged name has := (safe.staged name has).imp_right (perm.filterMap _).mem_iff.mp
  sound := safe.sound
  recorded := safe.recorded

/-- A run that holds no directory starts, or ends. -/
theorem Safe.idle (held : holding.place = none) (agrees : holding.Agrees root) :
    Safe past root (holding :: others) ↔ Safe past root others := by
  have places : (holding :: others).filterMap Holding.place = others.filterMap Holding.place :=
    List.filterMap_cons_none held
  constructor
  · intro safe
    refine ⟨fun other mem => safe.agrees other (List.mem_cons_of_mem _ mem), places ▸ safe.apart,
      places ▸ safe.staged, safe.sound, safe.recorded⟩
  · intro safe
    refine ⟨?_, places ▸ safe.apart, places ▸ safe.staged, safe.sound, safe.recorded⟩
    intro other mem
    rcases List.mem_cons.mp mem with rfl | mem
    · exact agrees
    · exact safe.agrees other mem

/-- A run that ends leaves no directory but a generation. -/
theorem Safe.ends (safe : Safe past root (holding :: others)) (ended : holding.Ended) :
    Safe past root others := by
  have apart := safe.apart
  rw [places_cons] at apart
  refine ⟨fun other mem => safe.agrees other (List.mem_cons_of_mem _ mem),
    (List.nodup_append.mp apart).2.1, ?_, safe.sound, safe.recorded⟩
  intro name has
  have held := safe.staged name has
  rw [places_cons] at held
  rcases held with isId | mem
  · exact .inl isId
  rcases List.mem_append.mp mem with own | other
  · cases holding with
    | idle => cases own
    | building => exact ended.elim
    | owning generationId leased completion =>
        obtain rfl := Option.some.inj (Option.mem_toList.mp own)
        exact .inl (safe.agrees _ List.mem_cons_self).1
    | absurd => cases own
  · exact .inr other

/-- A lease that is refused agrees with nothing that a run may hold. -/
theorem moved_of_refuses {method : Method F} {answer : Except Failure method.Reply} {generationId : String}
    (refused : refuses (⟨method, answer⟩ : Event (fileSystem F).calls) = some generationId) :
    holding.moved method answer = .absurd := by
  cases method with
  | lock other =>
      cases answer with
      | ok _ => cases refused
      | error e => cases holding <;> rfl
  | _ => cases refused

theorem safe_call (past : List (fileSystem F).Step) (step : (fileSystem F).Step)
    (before : List (Holding F)) (holding : Holding F) (after : List (Holding F))
    (allowed : (protocol F).allowed holding (Event.left step.event))
    (safe : Safe past step.before (before ++ holding :: after)) :
    Safe (past ++ [step]) step.after
      (before ++ (protocol F).move holding (Event.left step.event) :: after) := by
  have first := safe.perm List.perm_middle
  have turns := turn step first.sound (first.agrees holding List.mem_cons_self) allowed
  have leased : refuses step.event = none := by
    cases refused : refuses step.event with
    | none => rfl
    | some generationId =>
        have agrees := turns.agrees
        rw [moved_of_refuses refused] at agrees
        exact agrees.elim
  exact (first.turn turns leased).perm List.perm_middle.symm

end Safe

/-! ## The programs -/

section Programs

variable {α β : Type} {holding : Holding F} {lease : Lease}
  {P R : Holding F → Except Failure α → Lease → Prop} {Q : Holding F → Except Failure β → Lease → Prop}

theorem moved_absurd (method : Method F) (answer : Except Failure method.Reply) :
    Holding.absurd.moved method answer = .absurd := by
  cases method <;> rfl

theorem follows_absurd {p : Prog (RunSig F) α} {K : Holding F → α → Prop} (holds : ∀ a, K .absurd a) :
    p.Follows (protocol F) .absurd K := by
  induction p with
  | done a => exact holds a
  | call c next ih =>
      cases c with
      | inl method =>
          intro answer
          refine ⟨trivial, ?_⟩
          have stays : (protocol F).move .absurd ⟨.inl method, answer⟩ = .absurd :=
            moved_absurd method answer
          rw [stays]
          exact ih answer
      | inr c => exact fun answer => ⟨trivial, ih answer⟩
  | diverge => trivial

/-- The program keeps to the protocol, and ends as `P` says unless an answer
contradicts what the run holds. -/
def Proceeds (holding : Holding F) (lease : Lease) (m : RunAct F α)
    (P : Holding F → Except Failure α → Lease → Prop) : Prop :=
  Act.FollowsAt (protocol F) holding lease m fun holding r lease => holding = .absurd ∨ P holding r lease

theorem proceeds_absurd {m : RunAct F α} (absurd : holding = .absurd) :
    Proceeds holding lease m P := by
  subst absurd
  exact follows_absurd fun _ => .inl rfl

theorem proceeds_pure {a : α} (holds : P holding (.ok a) lease) :
    Proceeds holding lease (pure a) P := Act.followsAt_pure (.inr holds)

theorem proceeds_throw {e : Failure} (holds : P holding (.error e) lease) :
    Proceeds holding lease (throw e) P := Act.followsAt_throw (.inr holds)

theorem Proceeds.mono {m : RunAct F α} (proceeds : Proceeds holding lease m P)
    (weaker : ∀ holding r lease, P holding r lease → R holding r lease) :
    Proceeds holding lease m R :=
  Act.FollowsAt.mono proceeds fun k r s => Or.imp_right (weaker k r s)

theorem Proceeds.bind {m : RunAct F α} {f : α → RunAct F β} (first : Proceeds holding lease m P)
    (raised : ∀ holding e lease, P holding (.error e) lease → Q holding (.error e) lease)
    (second : ∀ holding a lease, P holding (.ok a) lease → Proceeds holding lease (f a) Q) :
    Proceeds holding lease (m >>= f) Q := by
  apply Act.FollowsAt.bind first
  · exact fun holding e lease => Or.imp_right (raised holding e lease)
  · rintro holding a lease (rfl | holds)
    · exact proceeds_absurd rfl
    · exact second holding a lease holds

theorem Proceeds.tryCatch {m : RunAct F α} {handler : Failure → RunAct F α}
    (body : Proceeds holding lease m P)
    (returned : ∀ holding a lease, P holding (.ok a) lease → R holding (.ok a) lease)
    (caught : ∀ holding e lease, P holding (.error e) lease → Proceeds holding lease (handler e) R) :
    Proceeds holding lease (tryCatch m handler) R := by
  apply Act.FollowsAt.tryCatch body
  · exact fun holding a lease => Or.imp_right (returned holding a lease)
  · rintro holding e lease (rfl | holds)
    · exact proceeds_absurd rfl
    · exact caught holding e lease holds

theorem Proceeds.andFinally {m : RunAct F α} {cleanup : RunAct F Unit}
    (body : Proceeds holding lease m P)
    (last : ∀ holding r lease, P holding r lease → Proceeds holding lease cleanup fun holding c lease =>
      R holding (c.bind fun _ => r) lease) :
    Proceeds holding lease (m.andFinally cleanup) R := by
  apply Act.FollowsAt.andFinally body
  rintro holding r lease (rfl | holds)
  · exact follows_absurd fun _ => .inl rfl
  · exact last holding r lease holds

theorem proceeds_file_bind {method : Method F} {f : method.Reply → RunAct F β}
    (allowed : holding.Allows method)
    (raised : ∀ e, holding.moved method (.error e) = .absurd ∨
      Q (holding.moved method (.error e)) (.error e) lease)
    (next : ∀ a, holding.moved method (.ok a) = .absurd ∨
      Proceeds (holding.moved method (.ok a)) lease (f a) Q) :
    Proceeds holding lease (file method >>= f) Q := by
  apply Act.followsAt_attempt_bind
  intro answer
  refine ⟨allowed, ?_, ?_⟩
  · rintro e rfl
    exact raised e
  · rintro a rfl
    rcases next a with absurd | proceeds
    · exact proceeds_absurd absurd
    · exact proceeds

theorem proceeds_file {method : Method F} {Q : Holding F → Except Failure method.Reply → Lease → Prop}
    (allowed : holding.Allows method)
    (ends : ∀ r, holding.moved method r = .absurd ∨ Q (holding.moved method r) r lease) :
    Proceeds holding lease (file method) Q := fun answer => ⟨allowed, ends answer⟩

theorem proceeds_attempt_bind {c : WorldCall F} {view : (WorldSig F).Answer c → Except Failure α}
    {f : α → RunAct F β} (raised : ∀ e, Q holding (.error e) lease)
    (next : ∀ a, Proceeds holding lease (f a) Q) :
    Proceeds holding lease (Act.attempt (S := RunSig F) (.inr c) view >>= f) Q := by
  apply Act.followsAt_attempt_bind
  exact fun answer => ⟨trivial, fun e _ => .inr (raised e), fun a _ => next a⟩

theorem proceeds_ask_bind {c : WorldCall F} {f : (WorldSig F).Answer c → RunAct F β}
    (next : ∀ a, Proceeds holding lease (f a) Q) :
    Proceeds holding lease (Act.ask (S := RunSig F) (.inr c) >>= f) Q :=
  Act.followsAt_ask_bind fun answer => ⟨trivial, next answer⟩

theorem proceeds_refuse_bind {bad : Bool} {e : Failure} {f : Unit → RunAct F β}
    (raised : Q holding (.error e) lease) (next : bad = false → Proceeds holding lease (f ()) Q) :
    Proceeds holding lease (refuse bad e >>= f) Q := by
  cases bad with
  | true => exact .inr raised
  | false => exact next rfl

/-- A publication among the files that are being built. -/
theorem publishJson_builds {name path : String} {fields : List (String × Json F)} {contents : Contents F}
    (open_ : path ≠ "completion.json") (unlocked : lockFile path ≠ "completion.json") :
    Proceeds (.building name contents) lease (publishJson name path fields) fun holding r lease' =>
      lease' = lease ∧ ∃ contents', holding = .building name contents' ∧
        (∀ other, other ≠ path → other ≠ lockFile path → contents'.lookup other = contents.lookup other) ∧
        (r = .ok () → contents'.lookup path = some (.document fields)) := by
  have locked : ∀ other, other ≠ path → other ≠ lockFile path →
      (contents.write (lockFile path) (.bytes [0])).lookup other = contents.lookup other := by
    intro other _ apart
    rw [Directory.lookup_write, if_neg apart]
  refine proceeds_attempt_bind (fun e => ⟨rfl, _, rfl, fun _ _ _ => rfl, nofun⟩) fun _ => ?_
  refine proceeds_file_bind rfl (fun _ => .inl rfl) fun _ => .inr ?_
  refine proceeds_file_bind rfl (fun _ => .inl rfl) fun _ => .inr ?_
  refine proceeds_file_bind ⟨rfl, unlocked⟩ (fun _ => .inl rfl) fun _ => .inr ?_
  refine proceeds_attempt_bind (fun e => ⟨rfl, _, rfl, locked, nofun⟩) fun _ => ?_
  refine proceeds_attempt_bind (fun e => ⟨rfl, _, rfl, locked, nofun⟩) fun _ => ?_
  refine proceeds_file ⟨rfl, open_⟩ ?_
  rintro (e | ⟨⟩)
  · exact .inl rfl
  · refine .inr ⟨rfl, _, rfl, ?_, fun _ => by rw [Directory.lookup_write, if_pos rfl]⟩
    intro other apart apart'
    rw [Directory.lookup_write, if_neg apart]
    exact locked other apart apart'

/-- The files of a generation that is built, and its move. -/
theorem build_proceeds {staging generationId : String} (isId : IsGenerationId generationId) :
    Proceeds (.building staging []) lease (build staging generationId) fun holding r lease' =>
      lease' = lease ∧ ((∃ contents : Contents F, holding = .building staging contents) ∧ r ≠ .ok () ∨
        holding = .owning generationId false none ∧ r = .ok ()) := by
  have stopped : ∀ (contents : Contents F) (e : Failure), lease = lease ∧
      ((∃ contents' : Contents F, Holding.building staging contents = .building staging contents') ∧
          (.error e : Except Failure Unit) ≠ .ok () ∨
        Holding.building staging contents = .owning generationId false none ∧
          (.error e : Except Failure Unit) = .ok ()) :=
    fun contents e => ⟨rfl, .inl ⟨⟨contents, rfl⟩, nofun⟩⟩
  refine proceeds_ask_bind fun pid => proceeds_ask_bind fun host => proceeds_ask_bind fun created => ?_
  refine (publishJson_builds (by decide) (by decide)).bind ?_ ?_
  · rintro _ e _ ⟨rfl, contents, rfl, -, -⟩
    exact stopped contents e
  rintro _ ⟨⟩ _ ⟨rfl, contents₁, rfl, others₁, owner₁⟩
  refine proceeds_ask_bind fun now => ?_
  refine (publishJson_builds (by decide) (by decide)).bind ?_ ?_
  · rintro _ e _ ⟨rfl, contents, rfl, -, -⟩
    exact stopped contents e
  rintro _ ⟨⟩ _ ⟨rfl, contents₂, rfl, others₂, manifest₂⟩
  refine proceeds_file_bind ⟨rfl, by decide⟩ (fun _ => .inl rfl) fun _ => .inr ?_
  refine proceeds_file_bind ⟨rfl, by decide⟩ (fun _ => .inl rfl) fun _ => .inr ?_
  refine proceeds_attempt_bind (fun e => stopped _ e) fun _ => ?_
  have last : ∀ other, other ≠ ".lease" → ((contents₂.write ".lease" (.bytes [])).write ".lease"
      (.bytes [0])).lookup other = contents₂.lookup other := by
    intro other apart
    rw [Directory.lookup_write, if_neg apart, Directory.lookup_write, if_neg apart]
  have open_ : ((contents₂.write ".lease" (.bytes [])).write ".lease" (.bytes [0])).lookup
      "completion.json" = none := by
    rw [last _ (by decide), others₂ _ (by decide) (by decide), others₁ _ (by decide) (by decide)]
    rfl
  have complete : Complete generationId ((contents₂.write ".lease" (.bytes [])).write ".lease"
      (.bytes [0])) := by
    refine ⟨⟨host, pid, created, ?_⟩, ⟨now, ?_⟩, ?_, ?_⟩
    · rw [last _ (by decide), others₂ _ (by decide) (by decide)]
      exact owner₁ rfl
    · rw [last _ (by decide)]
      exact manifest₂ rfl
    · rw [Directory.lookup_write, if_pos rfl]
    · intro content found
      rw [open_] at found
      cases found
  refine proceeds_file ⟨rfl, isId, complete, open_⟩ ?_
  rintro (e | ⟨⟩)
  · exact .inr (stopped _ e)
  · exact .inr ⟨rfl, .inr ⟨rfl, rfl⟩⟩

theorem remove_of_all_mem {items : List String} {contents : Contents F}
    (mem : ∀ entry ∈ contents, entry.1 ∈ items) (item : String) (later : List String)
    (split : items = item :: later) : ∀ entry ∈ contents.remove item, entry.1 ∈ later := by
  intro entry isEntry
  obtain ⟨there, apart⟩ := List.mem_filter.mp isEntry
  have listed := mem entry there
  rw [split] at listed
  rcases List.mem_cons.mp listed with same | mem
  · exact absurd same (by simpa using apart)
  · exact mem

theorem unlinkAll_proceeds {staging : String} (items : List String) (contents : Contents F)
    (mem : ∀ entry ∈ contents, entry.1 ∈ items) :
    Proceeds (.building staging contents) lease (unlinkAll staging items) fun holding r lease' =>
      holding = .building staging [] ∧ r = .ok () ∧ lease' = lease := by
  induction items generalizing contents with
  | nil =>
      obtain rfl : contents = [] := List.eq_nil_iff_forall_not_mem.mpr
        fun entry isEntry => List.not_mem_nil (mem entry isEntry)
      exact proceeds_pure ⟨rfl, rfl, rfl⟩
  | cons item later ih =>
      refine proceeds_file_bind rfl (fun _ => .inl rfl) fun _ => .inr ?_
      exact ih _ (remove_of_all_mem mem item later rfl)

/-- What was built is removed, with its files. -/
theorem clean_proceeds {staging : String} (contents : Contents F) :
    Proceeds (.building staging contents) lease (clean staging) fun holding r lease' =>
      holding = .idle ∧ r = .ok () ∧ lease' = lease := by
  refine proceeds_file_bind rfl (fun _ => .inl rfl) fun there => ?_
  cases there with
  | false => exact .inl rfl
  | true =>
      refine .inr ?_
      have emptied : Proceeds (.building staging contents) lease (unlinkFiles staging true)
          fun holding r lease' => holding = .building staging [] ∧ r = .ok () ∧ lease' = lease := by
        refine proceeds_file_bind rfl (fun _ => .inl rfl) fun (items : List String) => ?_
        by_cases listed : Holding.lists contents items = true
        · refine .inr ?_
          have stays : (Holding.building staging contents).moved (.iterdir staging) (.ok items) =
              .building staging contents := if_pos listed
          rw [stays]
          apply unlinkAll_proceeds
          intro entry mem
          rw [← Holding.lists_iff.mp listed]
          exact List.mem_map_of_mem mem
        · exact .inl (if_neg listed)
      refine emptied.bind ?_ ?_
      · rintro _ e _ ⟨-, failed, -⟩
        cases failed
      rintro _ ⟨⟩ _ ⟨rfl, -, rfl⟩
      refine proceeds_file_bind rfl (fun _ => .inl rfl) fun still => ?_
      cases still with
      | false => exact .inl rfl
      | true =>
          refine .inr (proceeds_file ⟨rfl, rfl⟩ ?_)
          rintro (e | ⟨⟩)
          · exact .inl rfl
          · exact .inr ⟨rfl, rfl, rfl⟩

/-- A run that owns a generation, whose completion is published when its lease says
so. -/
def Owns (generationId : String) (holding : Holding F) (lease : Lease) : Prop :=
  ∃ leased completion, holding = .owning generationId leased completion ∧
    (lease.finished = false → completion = none)

theorem Owns.ended {generationId : String} (owns : Owns generationId holding lease) : holding.Ended := by
  obtain ⟨leased, completion, rfl, -⟩ := owns
  trivial

theorem head_staging (generationId unique : String) :
    ¬ IsGenerationId (".building-" ++ generationId ++ "-" ++ unique) := by
  rintro ⟨-, all⟩
  rw [String.toList_append, String.toList_append, String.toList_append] at all
  have first := List.all_eq_true.mp all '.' (by simp)
  exact absurd first (by decide)

/-- A generation is acquired, or nothing is left of it. -/
theorem acquire_proceeds (generationId : Option String) :
    Proceeds .idle {} (acquireRunGeneration generationId) fun (holding : Holding F) r lease =>
      holding.Ended ∧ ∀ generationId, r = .ok generationId → Owns generationId holding lease := by
  have refused : ∀ (holding : Holding F) (e : Failure) (lease : Lease), holding.Ended →
      holding.Ended ∧ ∀ generationId, .error e = Except.ok generationId →
        Owns generationId holding lease := fun _ _ _ ended => ⟨ended, nofun⟩
  refine proceeds_attempt_bind (fun e => refused _ e _ trivial) fun _ => ?_
  have chosen : Proceeds (F := F) .idle {} (chooseId generationId) fun holding r lease =>
      holding = .idle ∧ lease = {} ∧ ∃ id, r = .ok id := by
    unfold chooseId
    cases generationId.filter (· ≠ "") with
    | some id => exact proceeds_pure ⟨rfl, rfl, id, rfl⟩
    | none => exact fun answer => ⟨trivial, .inr ⟨rfl, rfl, answer, rfl⟩⟩
  refine chosen.bind ?_ ?_
  · rintro _ e _ ⟨-, -, id, failed⟩
    cases failed
  rintro _ id _ ⟨rfl, rfl, -⟩
  refine proceeds_refuse_bind (refused _ _ _ trivial) fun good => ?_
  have isId : IsGenerationId id := by simpa using good
  refine proceeds_ask_bind fun (unique : String) => ?_
  refine proceeds_file_bind (head_staging id unique) (fun e => .inr (refused _ e _ trivial))
    fun _ => .inr ?_
  have built : Proceeds (F := F) (.building (".building-" ++ id ++ "-" ++ unique) []) {}
      (tryCatch (build (".building-" ++ id ++ "-" ++ unique) id) fun e => do
        clean (".building-" ++ id ++ "-" ++ unique)
        throw e) fun holding r lease =>
          lease = {} ∧ (holding = .idle ∧ r ≠ .ok () ∨ holding = .owning id false none ∧ r = .ok ()) := by
    refine (build_proceeds isId).tryCatch ?_ ?_
    · rintro _ ⟨⟩ _ ⟨rfl, ⟨-, failed⟩ | owns⟩
      · exact absurd rfl failed
      · exact ⟨rfl, .inr owns⟩
    · rintro _ e _ ⟨rfl, ⟨⟨contents, rfl⟩, -⟩ | ⟨-, failed⟩⟩
      · refine (clean_proceeds contents).bind ?_ ?_
        · rintro _ e' _ ⟨-, failed, -⟩
          cases failed
        · rintro _ ⟨⟩ _ ⟨rfl, -, rfl⟩
          exact proceeds_throw ⟨rfl, .inl ⟨rfl, nofun⟩⟩
      · cases failed
  refine built.bind ?_ ?_
  · rintro _ e _ ⟨rfl, ⟨rfl, -⟩ | ⟨-, failed⟩⟩
    · exact refused _ e _ trivial
    · cases failed
  rintro _ ⟨⟩ _ ⟨rfl, ⟨-, failed⟩ | ⟨rfl, -⟩⟩
  · exact absurd rfl failed
  refine proceeds_file_bind ⟨rfl, rfl⟩ (fun _ => .inl rfl) fun _ => .inr ?_
  refine Act.followsAt_set_bind ?_
  have published : Proceeds (.owning id true none) { held := true } (publishCurrent id)
      fun (holding : Holding F) _ lease => holding = .owning id true none ∧ lease = { held := true } := by
    refine proceeds_attempt_bind (fun e => ⟨rfl, rfl⟩) fun _ => ?_
    refine proceeds_attempt_bind (fun e => ⟨rfl, rfl⟩) fun _ => ?_
    refine proceeds_attempt_bind (fun e => ⟨rfl, rfl⟩) fun _ => ?_
    refine proceeds_file rfl ?_
    rintro (e | ⟨⟩)
    · exact .inl rfl
    · exact .inr ⟨rfl, rfl⟩
  refine Proceeds.bind published ?_ ?_
  · rintro _ e _ ⟨rfl, rfl⟩
    exact refused _ e _ trivial
  · rintro _ _ _ ⟨rfl, rfl⟩
    refine proceeds_pure ⟨trivial, ?_⟩
    rintro _ ⟨⟩
    exact ⟨true, none, rfl, fun _ => rfl⟩

/-- The completion of a generation is published while it has none. -/
theorem publishCompletion_proceeds {generationId : String} {leased : Bool}
    {fields : List (String × Json F)} (isCompletion : IsCompletion generationId (.document fields)) :
    Proceeds (.owning generationId leased none) lease
      (publishJson generationId "completion.json" fields) fun holding r lease' =>
        lease' = lease ∧ ∃ completion, holding = .owning generationId leased completion ∧
          (r ≠ .ok () → completion = none) := by
  have stopped : ∀ (e : Failure), lease = lease ∧ ∃ completion,
      Holding.owning generationId leased (none : Option (Content F)) =
        .owning generationId leased completion ∧
      ((.error e : Except Failure Unit) ≠ .ok () → completion = none) :=
    fun e => ⟨rfl, none, rfl, fun _ => rfl⟩
  refine proceeds_attempt_bind stopped fun _ => ?_
  refine proceeds_file_bind rfl (fun _ => .inl rfl) fun _ => .inr ?_
  refine proceeds_file_bind rfl (fun _ => .inl rfl) fun _ => .inr ?_
  refine proceeds_file_bind ⟨rfl, .inl rfl⟩ (fun _ => .inl rfl) fun _ => .inr ?_
  have unlocked : (Holding.owning generationId leased (none : Option (Content F))).moved
      (.write generationId (lockFile "completion.json") (.bytes [0])) (.ok ()) =
        .owning generationId leased none :=
    congrArg (Holding.owning generationId leased) (if_neg (by decide))
  have rest : Proceeds (.owning generationId leased none) lease
      (do
        guard
        writeTemporary
        file (.write generationId "completion.json" (.document fields))) fun holding r lease' =>
        lease' = lease ∧ ∃ completion, holding = .owning generationId leased completion ∧
          (r ≠ .ok () → completion = none) := by
    refine proceeds_attempt_bind stopped fun _ => ?_
    refine proceeds_attempt_bind stopped fun _ => ?_
    refine proceeds_file ⟨rfl, .inr ⟨rfl, rfl, isCompletion⟩⟩ ?_
    rintro (e | ⟨⟩)
    · exact .inl rfl
    · exact .inr ⟨rfl, _, rfl, fun failed => absurd rfl failed⟩
  exact unlocked ▸ rest

theorem finish_proceeds {generationId outcome : String} {detail : List (String × Json F)}
    (owns : Owns generationId holding lease) :
    Proceeds holding lease (finish generationId outcome detail) fun holding _ lease =>
      Owns generationId holding lease := by
  refine proceeds_refuse_bind owns fun valid => ?_
  have isOutcome : outcome ∈ outcomes := by simpa using valid
  refine Act.followsAt_get_bind ?_
  refine proceeds_refuse_bind owns fun unfinished => ?_
  refine proceeds_ask_bind fun (now : F) => ?_
  obtain ⟨leased, completion, rfl, open_⟩ := owns
  obtain rfl := open_ unfinished
  refine (publishCompletion_proceeds ⟨outcome, isOutcome, now, detail, rfl⟩).bind ?_ ?_
  · rintro _ e _ ⟨rfl, completion, rfl, open_⟩
    exact ⟨leased, completion, rfl, fun _ => open_ nofun⟩
  · rintro _ ⟨⟩ lease ⟨rfl, completion, rfl, -⟩
    exact .inr ⟨leased, completion, rfl, fun finished => by cases finished⟩

theorem close_proceeds {generationId : String} (owns : Owns generationId holding lease) :
    Proceeds holding lease (close generationId) fun holding _ lease =>
      Owns generationId holding lease := by
  refine Act.followsAt_get_bind ?_
  dsimp only
  split
  · have ended : Proceeds holding lease (do
        finishStopped generationId lease
        file (.unlock generationId)) fun (holding : Holding F) _ lease =>
          Owns generationId holding lease := by
      have stopped : Proceeds holding lease (finishStopped generationId lease)
          fun (holding : Holding F) _ lease => Owns generationId holding lease := by
        unfold finishStopped
        split
        · exact proceeds_pure owns
        · exact finish_proceeds owns
      refine stopped.bind (fun _ _ _ owns => owns) ?_
      rintro _ _ lease ⟨leased, completion, rfl, open_⟩
      refine proceeds_file rfl ?_
      rintro (e | ⟨⟩)
      · exact .inl rfl
      · exact .inr ⟨leased, completion, rfl, open_⟩
    refine ended.andFinally ?_
    rintro _ r lease ⟨leased, completion, rfl, open_⟩
    exact .inr ⟨leased, completion, rfl, open_⟩
  · exact proceeds_pure owns

theorem useAll_proceeds {generationId : String} (uses : List (Use F))
    (owns : Owns generationId holding lease) :
    Proceeds holding lease (useAll generationId uses) fun holding _ lease =>
      Owns generationId holding lease := by
  induction uses generalizing holding lease with
  | nil => exact proceeds_pure owns
  | cons use later ih =>
      have used : Proceeds holding lease (use.act generationId) fun holding _ lease =>
          Owns generationId holding lease := by
        cases use with
        | finish outcome detail => exact finish_proceeds owns
        | close => exact close_proceeds owns
      have caught : Proceeds holding lease (tryCatch (use.act generationId) fun _ => pure ())
          fun holding _ lease => Owns generationId holding lease :=
        used.tryCatch (fun _ _ _ owns => owns) fun _ _ _ owns => proceeds_pure owns
      refine caught.bind (fun _ _ _ owns => owns) ?_
      exact fun _ _ _ owns => ih owns

/-- Every run keeps to the protocol. -/
theorem task_follows (task : Task F) :
    task.program.Follows (protocol F) .idle fun holding _ => holding.Ended := by
  have proceeds : Proceeds .idle {} task.act fun (holding : Holding F) _ _ => holding.Ended := by
    refine (acquire_proceeds task.generationId).bind (fun _ _ _ holds => holds.1) ?_
    rintro holding id lease ⟨-, owns⟩
    exact (useAll_proceeds task.uses (owns id rfl)).mono fun _ _ _ owns => owns.ended
  refine Prog.Follows.mono proceeds ?_
  rintro holding out (rfl | ended)
  · trivial
  · exact ended

end Programs

/-! ## What every owner sees -/

def IsRun (p : Prog (RunSig F) (Except Failure Unit × Lease)) : Prop := ∃ task : Task F, p = task.program

abbrev InFlight (F : Type) : Type :=
  Component.Client (fileSystem F) (WorldSig F) (Except Failure Unit × Lease)

/-- Runs side by side on a new root. -/
abbrev Owners (steps : List (fileSystem F).Step) (root : Root F) (inFlight : List (InFlight F)) : Prop :=
  Component.Interleaved IsRun {} [] steps root inFlight

def holdingOf (client : InFlight F) : Holding F :=
  Component.Interleaved.Client.holding (protocol F) client

theorem Safe.empty : Safe ([] : List (fileSystem F).Step) {} [] where
  agrees _ mem := absurd mem List.not_mem_nil
  apart := List.nodup_nil
  staged _ has := by cases has
  sound := ⟨(fun _ _ _ found => nomatch found), fun _ mem => absurd mem List.not_mem_nil, nofun⟩
  recorded := ⟨List.nodup_nil, fun _ mem => absurd mem List.not_mem_nil, fun _ _ has => (nomatch has),
    List.nodup_nil, fun _ mem => absurd mem List.not_mem_nil,
    fun _ mem => absurd mem List.not_mem_nil, fun _ mem => absurd mem List.not_mem_nil⟩

theorem owners_safe {steps : List (fileSystem F).Step} {root : Root F} {inFlight : List (InFlight F)}
    (owners : Owners steps root inFlight) : Safe steps root (inFlight.map holdingOf) := by
  have run := owners.history (protocol F) Holding.Ended (fun _ => True) Safe
    (fun _ _ _ => trivial) ?_ ?_ ?_ ?_ ?_ [] trivial (by simp) .empty
  · exact run
  · intro past root holdings safe
    have agrees : (Holding.idle : Holding F).Agrees root := trivial
    have starts : Safe past root (Holding.idle :: holdings) := (Safe.idle rfl agrees).mpr safe
    exact starts.perm (List.perm_append_singleton _ _).symm
  · exact fun past step before holding after _ allowed safe =>
      safe_call past step before holding after allowed safe
  · exact fun _ _ _ _ _ _ _ safe => safe
  · exact fun _ _ _ _ _ ended safe => (safe.perm List.perm_middle).ends ended
  · rintro _ ⟨task, rfl⟩
    exact task_follows task

/-- What the owner of a generation, and whoever reads it, may rely on. -/
structure Reliable (steps : List (fileSystem F).Step) (root : Root F) : Prop where
  /-- A generation that is there is complete. -/
  complete : ∀ generationId contents, IsGenerationId generationId →
    root.generations.lookup generationId = some contents → Complete generationId contents
  /-- A generation that is there was made, once, by one run. -/
  made : ∀ generationId, IsGenerationId generationId →
    (root.generations.Has generationId ↔ generationId ∈ madeBy steps)
  madeOnce : (madeBy steps).Nodup
  /-- Its completion is published once. -/
  completedOnce : (completedBy steps).Nodup
  /-- What is published in it never changes. -/
  kept : ∀ step ∈ steps, step.after.Keeps root
  /-- The lease of a new generation is never refused. -/
  leased : ∀ step ∈ steps, refuses step.event = none
  /-- `current` names a generation. -/
  current : ∀ generationId, root.current = some generationId →
    IsGenerationId generationId ∧ root.generations.Has generationId

/-- However runs interleave, and wherever they stop, the generations are reliable. -/
theorem generations_reliable {steps : List (fileSystem F).Step} {root : Root F}
    {inFlight : List (InFlight F)} (owners : Owners steps root inFlight) : Reliable steps root := by
  have safe := owners_safe owners
  have made : ∀ generationId, IsGenerationId generationId →
      (root.generations.Has generationId ↔ generationId ∈ madeBy steps) :=
    fun generationId isId => ⟨safe.recorded.allMade generationId isId,
      fun mem => (safe.recorded.made generationId mem).2⟩
  exact ⟨safe.sound.complete, made, safe.recorded.madeOnce, safe.recorded.completedOnce,
    safe.recorded.kept, safe.recorded.leased, safe.sound.current⟩

/-- Numbered identifiers, and a world where nothing fails. -/
def exampleWorld : Script (WorldSig (Fin 10)) Nat
  | n, .uuid => ("u" ++ toString n, n + 1)
  | n, .pid => ((7 : Int), n)
  | n, .hostname => ("host", n)
  | n, .time => ((Fin.last 9 : Fin 10), n)
  | n, .mkdirRoot => (.ok (), n)
  | n, .dumps _ => (.ok (), n)
  | n, .guard => (.ok (), n)
  | n, .writeTemporary => (.ok (), n)
  | n, .fsync => (.ok (), n)

/-- A run that completes twice, a run that asks for the same generation, and one that
closes without an outcome. -/
def threeRuns : List (Task (Fin 10)) := [
  { generationId := some "r", uses := [.finish "completed" [], .finish "failed" [], .close] },
  { generationId := some "r", uses := [.close] },
  { uses := [.close, .close] }]

theorem exists_threeRuns : ∃ (steps : List (fileSystem (Fin 10)).Step) (root : Root (Fin 10)),
    Owners steps root [] ∧ madeBy steps = ["r", "u2"] ∧ completedBy steps = ["r", "u2"] ∧
      root.generations.Has "r" := by
  have admitted : ∀ p ∈ threeRuns.map Task.program, IsRun p := by
    intro p mem
    obtain ⟨task, -, rfl⟩ := List.mem_map.mp mem
    exact ⟨task, rfl⟩
  obtain ⟨steps, root, owners, shown⟩ := Component.exists_interleaved (C := fileSystem (Fin 10))
    (fun n call => call.elim) exampleWorld admitted {} 0
    (fun steps root => decide (madeBy steps = ["r", "u2"] ∧ completedBy steps = ["r", "u2"] ∧
      root.generations.Has "r"))
    (by decide +kernel)
  exact ⟨steps, root, owners, of_decide_eq_true shown⟩

theorem generations_reliable_three : ∃ (steps : List (fileSystem (Fin 10)).Step) (root : Root (Fin 10)),
    Owners steps root [] ∧ madeBy steps = ["r", "u2"] ∧ Reliable steps root := by
  obtain ⟨steps, root, owners, made, -, -⟩ := exists_threeRuns
  exact ⟨steps, root, owners, made, generations_reliable owners⟩

end Dingdongditch.RunOwnership
