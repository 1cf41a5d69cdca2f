import Dingdongditch.Contract.DownloadNames
import Dingdongditch.Contract.DownloadStore
import Dingdongditch.Interaction.Calm
import Dingdongditch.Interaction.Scripted

/-!
# Atomicity of a commit

What the completed downloads hold after a commit, for every failure of the file system:
what was there before where the commit raises, and the artifact with its recorded size
and hash where it returns.
-/

namespace Dingdongditch.Download

open Interaction
open Act hiding throw pure

/-! ## Statements that leave the downloads as they are -/

/-- The removal of the copy fails: after its link was made, or in the `finally` block. -/
def IsFailedRemoval : Event StorageSig → Prop
  | ⟨.fails .unlinkCommit, failure⟩ => Option.isSome (α := OsError) failure = true
  | ⟨.fails .cleanUp, failure⟩ => Option.isSome (α := OsError) failure = true
  | _ => False

/-- A statement that leaves the downloads as they are and does not fail to remove the copy. -/
abbrev Steady {α : Type} (m : Commit α) : Prop := Calm IsFailedRemoval m

abbrev RemovalFails (t : Trace StorageSig) : Prop := Happens IsFailedRemoval t

variable {library : Library} {a : Attempt}

theorem steady_check (phase : String) : Steady (check a phase) := by
  apply calm_attempt
  intro answer
  exact id

theorem steady_checkDirectory (c : DirectoryCheck) : Steady (checkDirectory c) := by
  apply calm_attempt
  intro answer
  exact id

/-- A step that does not remove the copy. -/
theorem steady_step {s : FsStep} (kept : s ≠ .unlinkCommit ∧ s ≠ .cleanUp) : Steady (step s) := by
  apply calm_attempt
  intro answer
  cases s with
  | unlinkCommit => exact absurd rfl kept.1
  | cleanUp => exact absurd rfl kept.2
  | _ => exact id

theorem steady_secured {α : Type} (outcome : Except DownloadError α) : Steady (secured outcome) :=
  calm_ofExcept _

theorem steady_passOsError (e : CommitError) : Steady (passOsError e) := by
  cases e with
  | security e => exact calm_throw _
  | timeout phase => exact calm_pure _
  | os e => exact calm_pure _

theorem steady_swallow {m : Commit Unit} (steady : Steady m) : Steady (swallow m) :=
  Calm.tryCatch steady steady_passOsError

theorem steady_fstat (copy : Path) (handle : Handle) : Steady (fstat copy handle) := by
  apply Calm.bind (steady_step (by simp))
  intro _
  apply Calm.bind
  · apply calm_ask
    intro answer
    exact id
  · intro observed
    cases handle with
    | staged => exact calm_pure _
    | candidate => exact Calm.bind calm_get fun _ => calm_pure _

theorem steady_readChunks (copy : Path) (handle : Handle) : Steady (readChunks copy handle) := by
  cases handle with
  | staged =>
      apply Calm.bind
      · apply calm_ask
        intro answer
        exact id
      · intro chunks
        exact calm_pure _
  | candidate => exact Calm.bind calm_get fun _ => calm_pure _

theorem steady_hashLoop (handle : Handle) (chunks : List Bytes) :
    Steady (hashLoop a handle chunks) := by
  induction chunks with
  | nil => exact Calm.bind (steady_check _) fun _ => steady_step (by simp)
  | cons chunk rest ih =>
      exact Calm.bind (steady_check _) fun _ => Calm.bind (steady_step (by simp)) fun _ => ih

theorem steady_verifyHandle (copy : Path) (handle : Handle) (name : List Char) :
    Steady (verifyHandle library a copy handle name) := by
  apply Calm.bind (steady_fstat copy handle)
  intro before
  apply Calm.bind (steady_secured _)
  intro _
  apply Calm.bind (steady_step (by simp))
  intro _
  apply Calm.bind (steady_readChunks copy handle)
  intro chunks
  apply Calm.bind (steady_hashLoop handle chunks).mapError
  intro _
  apply Calm.bind (steady_fstat copy handle)
  intro after
  apply Calm.bind (steady_secured _)
  intro _
  apply Calm.bind (steady_secured _)
  intro _
  exact calm_pure _

theorem steady_examineStaged (directory : Path) (safeName : List Char) :
    Steady (examineStaged library a directory safeName) := by
  apply Calm.bind (steady_step (by simp))
  intro _
  apply Calm.bind (steady_checkDirectory _)
  intro _
  apply Calm.bind (steady_checkDirectory _)
  intro _
  apply Calm.bind (steady_check _)
  intro _
  apply Calm.bind (steady_verifyHandle _ _ _)
  intro staged
  apply Calm.bind (steady_checkDirectory _)
  intro _
  apply Calm.bind (steady_checkDirectory _)
  intro _
  apply Calm.bind calm_get
  intro tree
  apply Calm.bind (steady_secured _)
  intro final
  apply Calm.bind (steady_checkDirectory _)
  intro _
  apply Calm.bind (steady_check _)
  intro _
  exact calm_pure _

/-! ## The copy -/

/-- `tree` with the content of one file put in. -/
def Tree.put (tree : Tree) (path : Path) (content : Bytes) : Tree :=
  Function.update tree path (some (.file content))

theorem put_same {tree : Tree} {path : Path} {content : Bytes}
    (held : tree path = some (.file content)) : tree.put path content = tree := by
  unfold Tree.put
  rw [← held]
  exact Function.update_eq_self path tree

theorem put_put (tree : Tree) (path : Path) (first second : Bytes) :
    (tree.put path first).put path second = tree.put path second :=
  Function.update_idem _ _ _

theorem put_at (tree : Tree) (path : Path) (content : Bytes) :
    tree.put path content path = some (.file content) :=
  Function.update_self _ _ _

theorem appendFile_run {tree tree' : Tree} {copy : Path} {content view : Bytes}
    {t : Trace StorageSig} {r : Except CommitError Unit} (held : tree copy = some (.file content))
    (run : Runs (appendFile copy view) tree t r tree') :
    ¬ RemovalFails t ∧ r = .ok () ∧ tree' = tree.put copy (content ++ view) := by
  obtain ⟨rfl, rfl, rfl⟩ := runs_modifyGet.mp run
  refine ⟨not_happens_nil, rfl, ?_⟩
  simp [Tree.put, Tree.contentAt, held]

/-- Where the copy exists, `m` leaves everything else as it is and adds to the copy; when
it returns it has added `view`. -/
def Appends (copy : Path) (view : Bytes) (m : Commit Unit) : Prop :=
  ∀ content tree t r tree', tree copy = some (.file content) → Runs m tree t r tree' →
    ¬ RemovalFails t ∧ ∃ written, tree' = tree.put copy (content ++ written) ∧
      (r = .ok () → written = view)

variable {copy : Path} {view : Bytes}

theorem appends_nil {m : Commit Unit} (steady : Steady m) : Appends copy [] m := by
  intro content tree t r tree' held run
  obtain ⟨rfl, none⟩ := steady _ _ _ _ run
  refine ⟨none, [], ?_, fun _ => rfl⟩
  rw [List.append_nil, put_same held]

theorem appends_throw (e : CommitError) : Appends copy view (throw e) := by
  intro content tree t r tree' held run
  obtain ⟨rfl, rfl, rfl⟩ := runs_throw.mp run
  refine ⟨not_happens_nil, [], ?_, ?_⟩
  · rw [List.append_nil, put_same held]
  · intro returned
    cases returned

theorem appends_after {α : Type} {m : Commit α} {f : α → Commit Unit} (steady : Steady m)
    (next : ∀ x, Appends copy view (f x)) : Appends copy view (m >>= f) := by
  intro content tree t r tree' held run
  rcases steady.bind_inv run with ⟨e, rfl, rfl, none⟩ | ⟨x, -, rest, -, run, happens⟩
  · refine ⟨none, [], ?_, ?_⟩
    · rw [List.append_nil, put_same held]
    · intro returned
      cases returned
  · rw [RemovalFails, happens]
    exact next x _ _ _ _ _ held run

theorem appends_append {front : Bytes} {m : Commit Unit} {f : Unit → Commit Unit}
    (first : Appends copy front m) (second : Appends copy view (f ())) :
    Appends copy (front ++ view) (m >>= f) := by
  intro content tree t r tree' held run
  rcases run.bind_inv with ⟨e, rfl, raised⟩ | ⟨before, ⟨⟩, tree₁, rest, rfl, returned, next⟩
  · obtain ⟨none, written, same, -⟩ := first _ _ _ _ _ held raised
    refine ⟨none, written, same, ?_⟩
    intro returned
    cases returned
  · obtain ⟨early, front', rfl, isFront⟩ := first _ _ _ _ _ held returned
    obtain ⟨late, rest', rfl, isRest⟩ := second _ _ _ _ _ (put_at _ _ _) next
    refine ⟨?_, front' ++ rest', ?_, ?_⟩
    · rw [RemovalFails, happens_append]
      intro either
      exact either.elim early late
    · rw [put_put, List.append_assoc]
    · intro ended
      rw [isFront rfl, isRest ended]

theorem appends_appendFile : Appends copy view (appendFile copy view) := by
  intro content tree t r tree' held run
  obtain ⟨none, -, same⟩ := appendFile_run held run
  exact ⟨none, view, same, fun _ => rfl⟩

theorem appends_writeAll {fuel : Nat} (enough : view.length ≤ fuel) :
    Appends copy view (writeAll a copy fuel view) := by
  induction fuel generalizing view with
  | zero =>
      rw [List.length_eq_zero_iff.mp (Nat.le_zero.mp enough)]
      exact appends_nil (calm_pure _)
  | succ fuel ih =>
      unfold writeAll
      split
      · next empty =>
          rw [empty]
          exact appends_nil (calm_pure _)
      · next filled =>
          apply appends_after (steady_check _)
          intro _
          apply appends_after (steady_step (by simp))
          intro _
          apply appends_after (calm_ask (fun _ => id))
          intro answer
          simp only
          split
          · exact appends_throw _
          · next taken =>
              have shorter : (view.drop (min answer view.length)).length ≤ fuel := by
                rw [List.length_drop]
                omega
              have front : Appends copy (view.take (min answer view.length))
                  (appendFile copy (view.take (min answer view.length))) := appends_appendFile
              have both := appends_append (f := fun _ => writeAll a copy fuel _) front (ih shorter)
              rw [List.take_append_drop] at both
              exact both

theorem appends_copyLoop (chunks : List Bytes) :
    Appends copy chunks.flatten (copyLoop a copy chunks) := by
  induction chunks with
  | nil => exact appends_nil (Calm.bind (steady_check _) fun _ => steady_step (by simp))
  | cons chunk rest ih =>
      apply appends_after (steady_check _)
      intro _
      apply appends_after (steady_step (by simp))
      intro _
      exact appends_append (appends_writeAll (Nat.le_refl _)) ih

theorem createFile_run {tree tree' : Tree} {t : Trace StorageSig} {r : Except CommitError Unit}
    (free : tree copy = none) (run : Runs (createFile copy) tree t r tree') :
    ¬ RemovalFails t ∧ r = .ok () ∧ tree' = tree.put copy [] := by
  have run := run.get_bind_inv
  rw [free, Option.isSome_none, if_neg Bool.false_ne_true] at run
  obtain ⟨rfl, rfl, rfl⟩ := runs_set.mp run
  exact ⟨not_happens_nil, rfl, rfl⟩

/-- Of a copy that fails there is nothing, or a part. -/
theorem copyStaged_run {tree tree' : Tree} {t : Trace StorageSig} {r : Except CommitError Bytes}
    (free : tree copy = none) (run : Runs (copyStaged a copy) tree t r tree') :
    ¬ RemovalFails t ∧ ((∃ e, r = .error e) ∧ tree' = tree ∨
      ∃ content, tree' = tree.put copy content ∧ ∀ copied, r = .ok copied → content = copied) := by
  rcases (steady_step (by simp)).bind_inv run with
    ⟨e, raised, same, none⟩ | ⟨-, -, t, -, run, created⟩
  · exact ⟨none, .inl ⟨⟨e, raised⟩, same⟩⟩
  rw [RemovalFails, created]
  rcases run.bind_inv with ⟨e, -, raised⟩ | ⟨before, ⟨⟩, tree₁, t, rfl, returned, run⟩
  · cases (createFile_run free raised).2.1
  obtain ⟨early, -, rfl⟩ := createFile_run free returned
  rw [happens_append, or_iff_right early]
  -- from here on the copy exists
  have partial_ (e : CommitError) (raised : r = .error e) (content : Bytes)
      (same : tree' = tree.put copy content) : (∃ e, r = .error e) ∧ tree' = tree ∨
        ∃ content, tree' = tree.put copy content ∧ ∀ copied, r = .ok copied → content = copied := by
    right
    refine ⟨content, same, ?_⟩
    intro copied returned
    rw [raised] at returned
    cases returned
  rcases (steady_step (by simp)).bind_inv run with
    ⟨e, raised, same, none⟩ | ⟨-, -, t, -, run, sought⟩
  · exact ⟨none, partial_ e raised [] same⟩
  rw [sought]
  rcases (steady_readChunks _ _).bind_inv run with
    ⟨e, raised, same, none⟩ | ⟨chunks, -, t, -, run, read⟩
  · exact ⟨none, partial_ e raised [] same⟩
  rw [read]
  rcases run.bind_inv with ⟨e, raised, failed⟩ | ⟨before, ⟨⟩, tree₁, t, rfl, copied, run⟩
  · obtain ⟨none, written, same, -⟩ := appends_copyLoop chunks _ _ _ _ _ (put_at _ _ _) failed
    rw [put_put] at same
    exact ⟨none, partial_ e raised _ same⟩
  obtain ⟨copying, written, rfl, whole⟩ := appends_copyLoop chunks _ _ _ _ _ (put_at _ _ _) copied
  rw [put_put, whole rfl, List.nil_append] at run
  rw [happens_append, or_iff_right copying]
  rcases (steady_step (by simp)).bind_inv run with
    ⟨e, raised, same, none⟩ | ⟨-, -, t, -, run, synced⟩
  · exact ⟨none, partial_ e raised _ same⟩
  rw [synced]
  obtain ⟨rfl, rfl, rfl⟩ := runs_pure.mp run
  refine ⟨not_happens_nil, .inr ⟨_, rfl, ?_⟩⟩
  intro copied returned
  cases returned
  rfl

/-! ## The publication -/

/-- `tree` without one entry. -/
def Tree.drop (tree : Tree) (path : Path) : Tree := Function.update tree path none

theorem drop_put_put {tree : Tree} {destination : Path} (free : tree copy = none)
    (apart : copy ≠ destination) (first second : Bytes) :
    ((tree.put copy first).put destination second).drop copy = tree.put destination second := by
  have unchanged : Function.update tree copy none = tree := by
    rw [← free]
    exact Function.update_eq_self copy tree
  unfold Tree.drop Tree.put
  rw [Function.update_comm apart.symm, Function.update_idem, unchanged]

theorem drop_put {tree : Tree} (free : tree copy = none) (content : Bytes) :
    (tree.put copy content).drop copy = tree := by
  unfold Tree.drop Tree.put
  rw [Function.update_idem, ← free, Function.update_eq_self]

theorem unlinkFile_run {tree tree' : Tree} {t : Trace StorageSig} {r : Except CommitError Unit}
    {content : Bytes} (held : tree copy = some (.file content))
    (run : Runs (unlinkFile copy) tree t r tree') :
    ¬ RemovalFails t ∧ r = .ok () ∧ tree' = tree.drop copy := by
  have run := run.get_bind_inv
  rw [held] at run
  obtain ⟨rfl, rfl, rfl⟩ := runs_set.mp run
  exact ⟨not_happens_nil, rfl, rfl⟩

/-- A link is made to a name that is free, or not at all. -/
theorem linkFile_run {tree tree' : Tree} {destination : Path} {t : Trace StorageSig}
    {r : Except CommitError Unit} {content : Bytes} (held : tree copy = some (.file content))
    (run : Runs (linkFile copy destination) tree t r tree') :
    ¬ RemovalFails t ∧ ((∃ e, r = .error e) ∧ tree' = tree ∨
      r = .ok () ∧ tree destination = none ∧ tree' = tree.put destination content) := by
  have run := run.get_bind_inv
  split at run
  · obtain ⟨rfl, rfl, rfl⟩ := runs_throw.mp run
    exact ⟨not_happens_nil, .inl ⟨⟨_, rfl⟩, rfl⟩⟩
  · next free =>
      obtain ⟨rfl, rfl, rfl⟩ := runs_set.mp run
      refine ⟨not_happens_nil, .inr ⟨rfl, ?_, ?_⟩⟩
      · simpa using free
      · rw [held]
        rfl

theorem replaceFile_run {tree tree' : Tree} {destination : Path} {t : Trace StorageSig}
    {r : Except CommitError Unit} {content : Bytes} (held : tree copy = some (.file content))
    (run : Runs (replaceFile copy destination) tree t r tree') :
    ¬ RemovalFails t ∧ ((∃ e, r = .error e) ∧ tree' = tree ∨
      r = .ok () ∧ tree' = (tree.put destination content).drop copy) := by
  have run := run.get_bind_inv
  split at run
  · obtain ⟨rfl, rfl, rfl⟩ := runs_throw.mp run
    exact ⟨not_happens_nil, .inl ⟨⟨_, rfl⟩, rfl⟩⟩
  · obtain ⟨rfl, rfl, rfl⟩ := runs_set.mp run
    refine ⟨not_happens_nil, .inr ⟨rfl, ?_⟩⟩
    rw [held]
    rfl

/-- The step that removes the copy fails exactly when it raises. -/
theorem step_removal_run {s : FsStep} (removal : s = .unlinkCommit ∨ s = .cleanUp)
    {tree tree' : Tree} {t : Trace StorageSig} {r : Except CommitError Unit}
    (run : Runs (step s) tree t r tree') :
    tree' = tree ∧
      (r = .ok () ∧ ¬ RemovalFails t ∨ (∃ e, r = .error (.os e)) ∧ RemovalFails t) := by
  obtain ⟨failure, rfl, isView, rfl⟩ := runs_attempt.mp run
  refine ⟨rfl, ?_⟩
  rw [RemovalFails, happens_cons, or_iff_left not_happens_nil, isView]
  rcases removal with rfl | rfl
  · cases (failure : Option OsError) with
    | none => exact .inl ⟨rfl, Bool.false_ne_true⟩
    | some e => exact .inr ⟨⟨e, rfl⟩, rfl⟩
  · cases (failure : Option OsError) with
    | none => exact .inl ⟨rfl, Bool.false_ne_true⟩
    | some e => exact .inr ⟨⟨e, rfl⟩, rfl⟩

/-- What a publication leaves: nothing new; the artifact in place of the copy; or, when the
removal of the copy fails, the artifact beside the copy. -/
theorem publish_run {tree tree' : Tree} {destination : Path} {t : Trace StorageSig}
    {r : Except CommitError Unit} {content : Bytes} (apart : copy ≠ destination)
    (held : tree copy = some (.file content))
    (run : Runs (publish a copy destination) tree t r tree') :
    (¬ RemovalFails t ∧ (∃ e, r = .error e) ∧ tree' = tree) ∨
      (¬ RemovalFails t ∧ r = .ok () ∧
        (a.request.collisionPolicy = .replace ∨ tree destination = none) ∧
        tree' = (tree.put destination content).drop copy) ∨
      (RemovalFails t ∧ (∃ e, r = .error e) ∧ tree destination = none ∧
        tree' = tree.put destination content) := by
  have linking (run : Runs (do
      step .link
      linkFile copy destination
      step .unlinkCommit
      unlinkFile copy) tree t r tree') :
      (¬ RemovalFails t ∧ (∃ e, r = .error e) ∧ tree' = tree) ∨
        (¬ RemovalFails t ∧ r = .ok () ∧ tree destination = none ∧
          tree' = (tree.put destination content).drop copy) ∨
        (RemovalFails t ∧ (∃ e, r = .error e) ∧ tree destination = none ∧
          tree' = tree.put destination content) := by
    rcases (steady_step (by simp)).bind_inv run with
      ⟨e, raised, same, none⟩ | ⟨-, -, t, -, run, stepped⟩
    · exact .inl ⟨none, ⟨e, raised⟩, same⟩
    rw [RemovalFails, stepped]
    rcases run.bind_inv with ⟨e, raised, failed⟩ | ⟨before, ⟨⟩, tree₁, t, rfl, linked, run⟩
    · obtain ⟨none, ⟨-, same⟩ | ⟨returned, -⟩⟩ := linkFile_run held failed
      · exact .inl ⟨none, ⟨e, raised⟩, same⟩
      · cases returned
    obtain ⟨early, ⟨⟨_, raised⟩, -⟩ | ⟨-, free, rfl⟩⟩ := linkFile_run held linked
    · cases raised
    rw [happens_append, or_iff_right early]
    have still : (tree.put destination content) copy = some (.file content) := by
      unfold Tree.put
      rw [Function.update_of_ne apart, held]
    rcases run.bind_inv with ⟨e, raised, failed⟩ | ⟨before, ⟨⟩, tree₁, t, rfl, removed, run⟩
    · obtain ⟨same, ⟨returned, -⟩ | ⟨-, fails⟩⟩ := step_removal_run (.inl rfl) failed
      · cases returned
      · exact .inr (.inr ⟨fails, ⟨e, raised⟩, free, same⟩)
    obtain ⟨rfl, ⟨-, quiet⟩ | ⟨⟨_, raised⟩, -⟩⟩ := step_removal_run (.inl rfl) removed
    · obtain ⟨late, returned, same⟩ := unlinkFile_run still run
      rw [happens_append, or_iff_right quiet]
      exact .inr (.inl ⟨late, returned, free, same⟩)
    · cases raised
  unfold publish at run
  cases policy : a.request.collisionPolicy with
  | replace =>
      rw [policy] at run
      rcases (steady_checkDirectory _).bind_inv run with
        ⟨e, raised, same, none⟩ | ⟨-, -, t, -, run, checked⟩
      · exact .inl ⟨none, ⟨e, raised⟩, same⟩
      rw [RemovalFails, checked]
      rcases (steady_step (by simp)).bind_inv run with
        ⟨e, raised, same, none⟩ | ⟨-, -, t, -, run, stepped⟩
      · exact .inl ⟨none, ⟨e, raised⟩, same⟩
      rw [stepped]
      obtain ⟨none, ⟨raised, same⟩ | ⟨returned, same⟩⟩ := replaceFile_run held run
      · exact .inl ⟨none, raised, same⟩
      · exact .inr (.inl ⟨none, returned, .inl rfl, same⟩)
  | reject =>
      rw [policy] at run
      rcases linking run with unchanged | ⟨none, returned, free, same⟩ | failed
      · exact .inl unchanged
      · exact .inr (.inl ⟨none, returned, .inr free, same⟩)
      · exact .inr (.inr failed)
  | uniquify =>
      rw [policy] at run
      rcases linking run with unchanged | ⟨none, returned, free, same⟩ | failed
      · exact .inl unchanged
      · exact .inr (.inl ⟨none, returned, .inr free, same⟩)
      · exact .inr (.inr failed)

/-! ## The verified sizes and hashes -/

/-- A recorded hash is the one that was computed. -/
theorem verifyHandle_returns {handle : Handle} {name : List Char} {tree tree' : Tree}
    {t : Trace StorageSig} {verified : Verified}
    (run : Runs (verifyHandle library a copy handle name) tree t (.ok verified) tree') :
    (∃ first before, Runs (fstat copy handle) tree first (.ok before) tree ∧
      verified.size = before.identity.stSize) ∧
      ∀ sum, verified.checksum = some sum → sum = verified.internalChecksum := by
  obtain ⟨before, first, _, observed, run⟩ := (steady_fstat _ _).bind_ok_inv run
  obtain ⟨-, -, _, -, run⟩ := (steady_secured _).bind_ok_inv run
  obtain ⟨-, -, _, -, run⟩ := (steady_step (by simp)).bind_ok_inv run
  obtain ⟨chunks, -, _, -, run⟩ := (steady_readChunks _ _).bind_ok_inv run
  obtain ⟨-, -, _, -, run⟩ := (steady_hashLoop handle chunks).mapError.bind_ok_inv run
  obtain ⟨after, -, _, -, run⟩ := (steady_fstat _ _).bind_ok_inv run
  obtain ⟨-, -, _, -, run⟩ := (steady_secured _).bind_ok_inv run
  obtain ⟨-, -, _, -, run⟩ := (steady_secured _).bind_ok_inv run
  obtain ⟨rfl, returned, rfl⟩ := runs_pure.mp run
  cases returned
  refine ⟨⟨first, before, observed, rfl⟩, ?_⟩
  intro sum recorded
  cases policy : a.request.checksumPolicy with
  | sha256 =>
      rw [policy] at recorded
      exact (Option.some.inj recorded).symm
  | none =>
      rw [policy] at recorded
      cases recorded

/-- The size of the copy is the length of what it holds. -/
theorem fstat_candidate {tree tree' : Tree} {t : Trace StorageSig} {stat : Stat}
    (run : Runs (fstat copy .candidate) tree t (.ok stat) tree') :
    stat.identity.stSize = (tree.contentAt copy).length := by
  obtain ⟨-, -, _, -, run⟩ := (steady_step (by simp)).bind_ok_inv run
  obtain ⟨observed, rest, -, answered⟩ := run.ask_bind_inv
  obtain ⟨-, returned, -⟩ := runs_pure.mp answered.get_bind_inv
  cases returned
  rfl

theorem sameFile_eq_ok {staged candidate : Verified} (same : sameFile staged candidate = .ok ()) :
    candidate.size = staged.size ∧ candidate.internalChecksum = staged.internalChecksum := by
  unfold sameFile at same
  split at same
  · cases same
  · next differs => simpa [not_or] using differs

/-! ## The body of the transaction -/

/-- What the body leaves, where the copy did not exist. -/
inductive BodyOutcome (library : Library) (a : Attempt) (copy destination : Path)
    (staged : Verified) (tree : Tree) : Trace StorageSig → Except CommitError Unit → Tree → Prop
  | untouched {t : Trace StorageSig} {e : CommitError} (quiet : ¬ RemovalFails t) :
      BodyOutcome library a copy destination staged tree t (.error e) tree
  | abandoned {t : Trace StorageSig} {e : CommitError} (content : Bytes)
      (quiet : ¬ RemovalFails t) :
      BodyOutcome library a copy destination staged tree t (.error e) (tree.put copy content)
  | published {t : Trace StorageSig} (content : Bytes) (quiet : ¬ RemovalFails t)
      (size : content.length = staged.size)
      (hash : library.sha256 content = staged.internalChecksum)
      (allowed : a.request.collisionPolicy = .replace ∨ tree destination = none) :
      BodyOutcome library a copy destination staged tree t (.ok ()) (tree.put destination content)
  | stuck {t : Trace StorageSig} {e : CommitError} (content : Bytes) (fails : RemovalFails t)
      (free : tree destination = none) :
      BodyOutcome library a copy destination staged tree t (.error e)
        ((tree.put copy content).put destination content)

/-- The outcome depends on the trace by the failure of a removal only. -/
theorem BodyOutcome.transport {destination : Path} {staged : Verified} {tree tree' : Tree}
    {t u : Trace StorageSig} {r : Except CommitError Unit} (same : RemovalFails u ↔ RemovalFails t)
    (outcome : BodyOutcome library a copy destination staged tree t r tree') :
    BodyOutcome library a copy destination staged tree u r tree' := by
  cases outcome with
  | untouched quiet => exact .untouched (mt same.mp quiet)
  | abandoned content quiet => exact .abandoned content (mt same.mp quiet)
  | published content quiet size hash allowed =>
      exact .published content (mt same.mp quiet) size hash allowed
  | stuck content fails free => exact .stuck content (same.mpr fails) free

/-- The removal of a copy that is not what was staged. -/
theorem unlinkChanged_run {tree tree' : Tree} {content : Bytes} {t : Trace StorageSig}
    {r : Except CommitError Unit} (free : tree copy = none)
    (run : Runs (swallow do
      step .unlinkChanged
      unlinkFile copy) (tree.put copy content) t r tree') :
    ¬ RemovalFails t ∧ (tree' = tree ∨ tree' = tree.put copy content) := by
  have removal {tree' : Tree} {t : Trace StorageSig} {r : Except CommitError Unit}
      (run : Runs (do
        step .unlinkChanged
        unlinkFile copy) (tree.put copy content) t r tree') :
      ¬ RemovalFails t ∧ (tree' = tree ∨ tree' = tree.put copy content) := by
    rcases (steady_step (by simp)).bind_inv run with ⟨-, -, same, none⟩ | ⟨-, -, t, -, run, stepped⟩
    · exact ⟨none, .inr same⟩
    · obtain ⟨none, -, same⟩ := unlinkFile_run (put_at _ _ _) run
      rw [RemovalFails, stepped, same, drop_put free]
      exact ⟨none, .inl rfl⟩
  rcases runs_tryCatch.mp run with
    ⟨_, -, returned⟩ | ⟨first, e, tree₁, second, rfl, raised, handled⟩
  · exact removal returned
  · obtain ⟨early, same⟩ := removal raised
    obtain ⟨rfl, late⟩ := steady_passOsError e _ _ _ _ handled
    rw [RemovalFails, happens_append, or_iff_right early]
    exact ⟨late, same⟩

/-- The body ends with the removal of the staged file, whose failure is ignored. -/
theorem swallow_unlinkStaging_run {tree tree' : Tree} {t : Trace StorageSig}
    {r : Except CommitError Unit} (run : Runs (swallow (step .unlinkStaging)) tree t r tree') :
    r = .ok () := by
  rcases runs_tryCatch.mp run with ⟨_, returned, -⟩ | ⟨first, e, tree₁, second, -, raised, handled⟩
  · exact returned
  · obtain ⟨failure, -, isView, -⟩ := runs_attempt.mp raised
    cases (failure : Option OsError) with
    | none => cases isView
    | some e =>
        cases isView
        exact (runs_pure.mp handled).2.1

theorem publishStaged_run {tree tree' : Tree} {destination : Path} {safeName : List Char}
    {staged : Verified} {t : Trace StorageSig} {r : Except CommitError Unit}
    (free : tree copy = none) (apart : copy ≠ destination)
    (run : Runs (publishStaged library a copy destination safeName staged) tree t r tree') :
    BodyOutcome library a copy destination staged tree t r tree' := by
  rcases run.bind_inv with ⟨e, rfl, failed⟩ | ⟨before, copied, tree₁, t, rfl, returned, run⟩
  · obtain ⟨none, ⟨-, rfl⟩ | ⟨content, rfl, -⟩⟩ := copyStaged_run free failed
    · exact .untouched none
    · exact .abandoned content none
  obtain ⟨early, ⟨⟨_, raised⟩, -⟩ | ⟨content, rfl, whole⟩⟩ := copyStaged_run free returned
  · cases raised
  have isCopied := whole copied rfl
  subst isCopied
  clear whole returned
  apply BodyOutcome.transport (t := t) (by rw [RemovalFails, happens_append, or_iff_right early])
  rcases (steady_fstat _ _).bind_inv run with ⟨e, rfl, rfl, none⟩ | ⟨after, -, t, -, run, stat⟩
  · exact .abandoned content none
  apply BodyOutcome.transport stat
  split at run
  · rcases run.bind_inv with ⟨e, rfl, failed⟩ | ⟨before, ⟨⟩, tree₁, t, rfl, removed, run⟩
    · obtain ⟨none, rfl | rfl⟩ := unlinkChanged_run free failed
      · exact .untouched none
      · exact .abandoned content none
    · obtain ⟨rfl, rfl, rfl⟩ := runs_throw.mp run
      rw [List.append_nil]
      obtain ⟨none, rfl | rfl⟩ := unlinkChanged_run free removed
      · exact .untouched none
      · exact .abandoned content none
  next unchanged =>
  rcases (steady_step (by simp)).bind_inv run with ⟨e, rfl, rfl, none⟩ | ⟨-, -, t, -, run, opened⟩
  · exact .abandoned content none
  apply BodyOutcome.transport opened
  rcases (steady_verifyHandle _ _ _).bind_inv run with
    ⟨e, rfl, rfl, none⟩ | ⟨candidate, _, t, checked, run, verified⟩
  · exact .abandoned content none
  apply BodyOutcome.transport verified
  rcases Runs.ofExcept_bind_inv run with ⟨e, -, rfl, rfl, rfl⟩ | ⟨_, compared, run⟩
  · exact .abandoned content not_happens_nil
  rcases (steady_checkDirectory _).bind_inv run with ⟨e, rfl, rfl, none⟩ | ⟨-, -, t, -, run, stable⟩
  · exact .abandoned content none
  apply BodyOutcome.transport stable
  -- the copy has the size and the hash of what was staged
  have size : content.length = staged.size := by
    obtain ⟨⟨_, stat, observed, isSize⟩, -⟩ := verifyHandle_returns checked
    have same := sameFile_eq_ok (mapError_eq_ok.mp compared)
    rw [← same.1, isSize, fstat_candidate observed, Tree.contentAt, put_at]
  have hash : library.sha256 content = staged.internalChecksum := by
    simpa using (not_or.mp unchanged).2
  rcases run.bind_inv with ⟨e, rfl, failed⟩ | ⟨before, ⟨⟩, tree₁, t, rfl, done, run⟩
  · rcases publish_run apart (put_at _ _ _) failed with
      ⟨none, -, rfl⟩ | ⟨-, returned, -⟩ | ⟨fails, -, isFree, rfl⟩
    · exact .abandoned content none
    · cases returned
    · unfold Tree.put at isFree
      rw [Function.update_of_ne apart.symm] at isFree
      exact .stuck content fails isFree
  rcases publish_run apart (put_at _ _ _) done with
    ⟨-, ⟨_, raised⟩, -⟩ | ⟨none, -, allowed, rfl⟩ | ⟨-, ⟨_, raised⟩, -⟩
  · cases raised
  · rw [drop_put_put free apart] at run
    obtain ⟨rfl, quiet⟩ := steady_swallow (steady_step (by simp)) _ _ _ _ run
    obtain rfl := swallow_unlinkStaging_run run
    refine .published content ?_ size hash ?_
    · rw [RemovalFails, happens_append, or_iff_right none]
      exact quiet
    · unfold Tree.put at allowed
      rwa [Function.update_of_ne apart.symm] at allowed
  · cases raised

/-! ## The clean-up -/

theorem isFound_file (content : Bytes) : (Entry.file content).isFound = true := rfl

theorem cleanUp_absent {tree tree' : Tree} {t : Trace StorageSig} {r : Except CommitError Unit}
    (free : tree copy = none) (run : Runs (cleanUp copy) tree t r tree') :
    ¬ RemovalFails t ∧ r = .ok () ∧ tree' = tree := by
  have run := run.get_bind_inv
  rw [Tree.isFound, free, Option.any_none, if_neg Bool.false_ne_true] at run
  obtain ⟨rfl, rfl, rfl⟩ := runs_pure.mp run
  exact ⟨not_happens_nil, rfl, rfl⟩

/-- A copy that is there is removed, or its removal fails. -/
theorem cleanUp_present {tree tree' : Tree} {content : Bytes} {t : Trace StorageSig}
    {r : Except CommitError Unit} (held : tree copy = some (.file content))
    (run : Runs (cleanUp copy) tree t r tree') :
    r = .ok () ∧ (¬ RemovalFails t ∧ tree' = tree.drop copy ∨ RemovalFails t ∧ tree' = tree) := by
  have run := run.get_bind_inv
  rw [Tree.isFound, held, Option.any_some, if_pos (isFound_file content)] at run
  rcases runs_tryCatch.mp run with
    ⟨_, rfl, returned⟩ | ⟨first, e, tree₁, second, rfl, raised, handled⟩
  · rcases returned.bind_inv with ⟨e, eq, -⟩ | ⟨before, ⟨⟩, tree₁, rest, rfl, stepped, removed⟩
    · cases eq
    obtain ⟨rfl, ⟨-, quiet⟩ | ⟨⟨_, raised⟩, -⟩⟩ := step_removal_run (.inr rfl) stepped
    · obtain ⟨late, -, same⟩ := unlinkFile_run held removed
      refine ⟨rfl, .inl ⟨?_, same⟩⟩
      rw [RemovalFails, happens_append, or_iff_right quiet]
      exact late
    · cases raised
  · rcases raised.bind_inv with ⟨_, eq, failed⟩ | ⟨before, ⟨⟩, tree₂, rest, rfl, stepped, removed⟩
    · cases eq
      obtain ⟨rfl, ⟨returned, -⟩ | ⟨⟨_, isOs⟩, fails⟩⟩ := step_removal_run (.inr rfl) failed
      · cases returned
      · cases isOs
        obtain ⟨rfl, rfl, rfl⟩ := runs_pure.mp handled
        rw [List.append_nil]
        exact ⟨rfl, .inr ⟨fails, rfl⟩⟩
    · obtain ⟨rfl, -⟩ := step_removal_run (.inr rfl) stepped
      cases (unlinkFile_run held removed).2.1

/-- What a transaction leaves: what was there before; the artifact; or a file that the
removal of the copy has failed to take back. -/
inductive Outcome {α : Type} (library : Library) (a : Attempt) (destination : Path)
    (staged : Verified) (tree : Tree) : Trace StorageSig → Except CommitError α → Tree → Prop
  | restored {t : Trace StorageSig} {e : CommitError} (quiet : ¬ RemovalFails t) :
      Outcome library a destination staged tree t (.error e) tree
  | published {t : Trace StorageSig} {value : α} (content : Bytes) (quiet : ¬ RemovalFails t)
      (size : content.length = staged.size)
      (hash : library.sha256 content = staged.internalChecksum)
      (allowed : a.request.collisionPolicy = .replace ∨ tree destination = none) :
      Outcome library a destination staged tree t (.ok value) (tree.put destination content)
  | left {t : Trace StorageSig} {e : CommitError} {tree' : Tree} (path : Path) (content : Bytes)
      (fails : RemovalFails t) (free : tree path = none)
      (there : tree' path = some (.file content)) :
      Outcome library a destination staged tree t (.error e) tree'

theorem transaction_run {tree tree' : Tree} {destination : Path} {safeName : List Char}
    {staged : Verified} {t : Trace StorageSig} {r : Except CommitError Unit}
    (free : tree copy = none) (apart : copy ≠ destination)
    (run : Runs (Act.andFinally
      (Act.mapError CommitError.translate
        (publishStaged library a copy destination safeName staged))
      (cleanUp copy)) tree t r tree') :
    Outcome library a destination staged tree t r tree' := by
  obtain ⟨first, body, tree₁, second, c, rfl, translated, cleaned, result⟩ := runs_andFinally.mp run
  obtain ⟨inner, ran, rfl⟩ := runs_mapError.mp translated
  cases publishStaged_run free apart ran with
  | untouched quiet =>
      obtain ⟨late, rfl, rfl⟩ := cleanUp_absent free cleaned
      rw [result]
      apply Outcome.restored
      rw [RemovalFails, happens_append, or_iff_right quiet]
      exact late
  | abandoned content quiet =>
      obtain ⟨rfl, ⟨late, rfl⟩ | ⟨fails, rfl⟩⟩ := cleanUp_present (put_at _ _ _) cleaned
      · rw [result, drop_put free]
        apply Outcome.restored
        rw [RemovalFails, happens_append, or_iff_right quiet]
        exact late
      · rw [result]
        refine Outcome.left copy content ?_ free (put_at _ _ _)
        rw [RemovalFails, happens_append, or_iff_right quiet]
        exact fails
  | published content quiet size hash allowed =>
      have absent : (tree.put destination content) copy = none := by
        unfold Tree.put
        rw [Function.update_of_ne apart, free]
      obtain ⟨late, rfl, rfl⟩ := cleanUp_absent absent cleaned
      rw [result]
      refine Outcome.published content ?_ size hash allowed
      rw [RemovalFails, happens_append, or_iff_right quiet]
      exact late
  | stuck content fails isFree =>
      have held :
          ((tree.put copy content).put destination content) copy = some (.file content) := by
        unfold Tree.put
        rw [Function.update_of_ne apart, Function.update_self]
      have happens : RemovalFails (first ++ second) := by
        rw [RemovalFails, happens_append]
        exact .inl fails
      obtain ⟨rfl, ⟨-, rfl⟩ | ⟨-, rfl⟩⟩ := cleanUp_present held cleaned
      · rw [result, drop_put_put free apart]
        exact .left destination content happens isFree (put_at _ _ _)
      · rw [result]
        exact .left destination content happens isFree (put_at _ _ _)

/-! ## The commit -/

/-- A name that `uuid4` makes is new: nothing has it, and no request foresees it. -/
structure FreshUuid (library : Library) (a : Attempt) (tree : Tree) : Prop where
  unused : ∀ path, a.commitName ∈ path → tree path = none
  unforeseen : ∀ safeName changed,
    filename library.tables a.policy a.requestedName = .ok (safeName, changed) →
      a.commitName ≠ safeName ∧ ∀ index, a.commitName ≠ uniquified safeName index

/-- If the commit raises, the files and what they hold are as they were; if it returns,
the artifact is there with the size and the hash that it records; and a file that was
there is another one only under the policy `REPLACE`. -/
structure Atomic (library : Library) (a : Attempt) (tree : Tree)
    (r : Except CommitError DownloadArtifact) (tree' : Tree) : Prop where
  raised : ∀ e, r = .error e → tree'.files = tree.files
  returned : ∀ artifact, r = .ok artifact → ∃ content,
    tree' artifact.path = some (.file content) ∧ content.length = artifact.byteSize ∧
      ∀ sum, artifact.checksum = some sum → library.sha256 content = sum
  replaced : ∀ path, (tree.files path).isSome → tree'.files path ≠ tree.files path →
    a.request.collisionPolicy = .replace

theorem files_withDirectories (tree : Tree) (directory : Path) :
    (tree.withDirectories directory).files = tree.files := by
  funext path
  unfold Tree.files Tree.withDirectories
  split
  · next missing =>
      rw [missing.2]
      rfl
  · rfl

/-- A new name in a directory stays free when the directory is made. -/
theorem withDirectories_below {tree : Tree} {directory : Path} {name : List Char}
    (free : tree (directory ++ [name]) = none) :
    (tree.withDirectories directory) (directory ++ [name]) = none := by
  unfold Tree.withDirectories
  rw [if_neg]
  · exact free
  · intro both
    have shorter := (List.isPrefixOf_iff_prefix.mp both.1).length_le
    simp at shorter

theorem files_of_file {tree : Tree} {path : Path} {content : Bytes}
    (there : tree path = some (.file content)) : tree.files path = some (.file content) := by
  unfold Tree.files
  rw [there]
  rfl

theorem files_of_none {tree : Tree} {path : Path} (free : tree path = none) :
    tree.files path = none := by
  unfold Tree.files
  rw [free]
  rfl

theorem Outcome.transport {α : Type} {destination : Path} {staged : Verified} {tree tree' : Tree}
    {t u : Trace StorageSig} {r : Except CommitError α} (same : RemovalFails u ↔ RemovalFails t)
    (outcome : Outcome library a destination staged tree t r tree') :
    Outcome library a destination staged tree u r tree' := by
  cases outcome with
  | restored quiet => exact .restored (mt same.mp quiet)
  | published content quiet size hash allowed =>
      exact .published content (mt same.mp quiet) size hash allowed
  | left path content fails free there => exact .left path content (same.mpr fails) free there

/-- The value that a transaction returns may be any other. -/
theorem Outcome.map {α β : Type} {destination : Path} {staged : Verified} {tree tree' : Tree}
    {t : Trace StorageSig} {r : Except CommitError α} (f : α → β)
    (outcome : Outcome library a destination staged tree t r tree') :
    Outcome library a destination staged tree t (r.map f) tree' := by
  cases outcome with
  | restored quiet => exact .restored quiet
  | published content quiet size hash allowed => exact .published content quiet size hash allowed
  | left path content fails free there => exact .left path content fails free there

/-- What a transaction leaves when it raises does not depend on what it was to return. -/
theorem Outcome.raised {α β : Type} {destination : Path} {staged : Verified} {tree tree' : Tree}
    {t : Trace StorageSig} {e : CommitError}
    (outcome : Outcome (α := α) library a destination staged tree t (.error e) tree') :
    Outcome (α := β) library a destination staged tree t (.error e) tree' := by
  cases outcome with
  | restored quiet => exact .restored quiet
  | left path content fails free there => exact .left path content fails free there

theorem makeDirectories_run {directory : Path} {tree tree' : Tree} {t : Trace StorageSig}
    {r : Except CommitError Unit} (run : Runs (makeDirectories directory) tree t r tree') :
    ¬ RemovalFails t ∧ ((∃ e, r = .error e) ∧ tree' = tree ∨
      r = .ok () ∧ tree' = tree.withDirectories directory) := by
  rcases (steady_step (by simp)).bind_inv run with
    ⟨e, raised, same, none⟩ | ⟨-, -, t, -, run, stepped⟩
  · exact ⟨none, .inl ⟨⟨e, raised⟩, same⟩⟩
  rw [RemovalFails, stepped]
  rcases (steady_secured _).bind_inv run.get_bind_inv with
    ⟨e, raised, same, none⟩ | ⟨-, -, t, -, run, allowed⟩
  · exact ⟨none, .inl ⟨⟨e, raised⟩, same⟩⟩
  rw [allowed]
  obtain ⟨rfl, rfl, rfl⟩ := runs_set.mp run
  exact ⟨not_happens_nil, .inr ⟨rfl, rfl⟩⟩

/-- What the examination returns: a verified file, and a name that the policy selects. -/
theorem examineStaged_returns {directory : Path} {safeName final : List Char} {staged : Verified}
    {tree tree' : Tree} {t : Trace StorageSig}
    (run : Runs (examineStaged library a directory safeName) tree t (.ok (staged, final)) tree') :
    (∀ sum, staged.checksum = some sum → sum = staged.internalChecksum) ∧
      (final = safeName ∨ ∃ index, final = uniquified safeName index) := by
  obtain ⟨-, -, _, -, run⟩ := (steady_step (by simp)).bind_ok_inv run
  obtain ⟨-, -, _, -, run⟩ := (steady_checkDirectory _).bind_ok_inv run
  obtain ⟨-, -, _, -, run⟩ := (steady_checkDirectory _).bind_ok_inv run
  obtain ⟨-, -, _, -, run⟩ := (steady_check _).bind_ok_inv run
  obtain ⟨verified, _, _, checked, run⟩ := (steady_verifyHandle _ _ _).bind_ok_inv run
  obtain ⟨-, -, _, -, run⟩ := (steady_checkDirectory _).bind_ok_inv run
  obtain ⟨-, -, _, -, run⟩ := (steady_checkDirectory _).bind_ok_inv run
  obtain ⟨name, _, _, chosen, run⟩ := (steady_secured _).bind_ok_inv run.get_bind_inv
  obtain ⟨-, -, _, -, run⟩ := (steady_checkDirectory _).bind_ok_inv run
  obtain ⟨-, -, _, -, run⟩ := (steady_check _).bind_ok_inv run
  obtain ⟨-, returned, -⟩ := runs_pure.mp run
  cases returned
  refine ⟨(verifyHandle_returns checked).2, ?_⟩
  have selected := mapError_eq_ok.mp (runs_ofExcept.mp chosen).2.1.symm
  rcases select_inv selected with ⟨-, same⟩ | ⟨-, index, -, numbered⟩
  · exact .inl same
  · exact .inr ⟨index, numbered⟩

/-- What a commit leaves, up to the directories on the way to its destination. -/
inductive CommitOutcome (library : Library) (a : Attempt) (tree : Tree) :
    Trace StorageSig → Except CommitError DownloadArtifact → Tree → Prop
  | refused {t : Trace StorageSig} {e : CommitError} {tree' : Tree} (quiet : ¬ RemovalFails t)
      (same : tree'.files = tree.files) : CommitOutcome library a tree t (.error e) tree'
  | attempted {t : Trace StorageSig} {r : Except CommitError DownloadArtifact} {destination : Path}
      {staged : Verified} {tree₁ tree' : Tree} (same : tree₁.files = tree.files)
      (described : ∀ artifact, r = .ok artifact → artifact.path = destination ∧
        artifact.byteSize = staged.size ∧ artifact.checksum = staged.checksum)
      (recorded : ∀ sum, staged.checksum = some sum → sum = staged.internalChecksum)
      (outcome : Outcome library a destination staged tree₁ t r tree') :
      CommitOutcome library a tree t r tree'

theorem CommitOutcome.transport {tree tree' : Tree} {t u : Trace StorageSig}
    {r : Except CommitError DownloadArtifact} (same : RemovalFails u ↔ RemovalFails t)
    (outcome : CommitOutcome library a tree t r tree') :
    CommitOutcome library a tree u r tree' := by
  cases outcome with
  | refused quiet files => exact .refused (mt same.mp quiet) files
  | attempted files described recorded outcome =>
      exact .attempted files described recorded (outcome.transport same)

theorem commit_run {tree tree' : Tree} {t : Trace StorageSig}
    {r : Except CommitError DownloadArtifact} (fresh : FreshUuid library a tree)
    (run : Runs (commit library a) tree t r tree') : CommitOutcome library a tree t r tree' := by
  rcases (steady_check _).bind_inv run with ⟨e, rfl, rfl, none⟩ | ⟨-, -, t, -, run, inTime⟩
  · exact .refused none rfl
  apply CommitOutcome.transport inTime
  rcases Runs.ofExcept_bind_inv run with ⟨e, -, rfl, rfl, rfl⟩ | ⟨⟨safeName, changed⟩, named, run⟩
  · exact .refused not_happens_nil rfl
  rcases Runs.ofExcept_bind_inv run with ⟨e, -, rfl, rfl, rfl⟩ | ⟨directory, -, run⟩
  · exact .refused not_happens_nil rfl
  rcases run.bind_inv with ⟨e, rfl, failed⟩ | ⟨before, ⟨⟩, tree₁, t, rfl, made, run⟩
  · obtain ⟨none, ⟨-, rfl⟩ | ⟨returned, -⟩⟩ := makeDirectories_run failed
    · exact .refused none rfl
    · cases returned
  obtain ⟨early, ⟨⟨_, raised⟩, -⟩ | ⟨-, rfl⟩⟩ := makeDirectories_run made
  · cases raised
  apply CommitOutcome.transport (t := t) (by rw [RemovalFails, happens_append, or_iff_right early])
  have same := files_withDirectories tree directory
  rcases (steady_checkDirectory _).bind_inv run with
    ⟨e, rfl, rfl, none⟩ | ⟨-, -, t, -, run, contained⟩
  · exact .refused none same
  apply CommitOutcome.transport contained
  rcases (steady_examineStaged _ _).mapError.bind_inv run with
    ⟨e, rfl, rfl, none⟩ | ⟨⟨staged, final⟩, _, t, examined, run, examination⟩
  · exact .refused none same
  apply CommitOutcome.transport examination
  obtain ⟨inner, examined, isOk⟩ := runs_mapError.mp examined
  obtain ⟨recorded, chosen⟩ := examineStaged_returns ((mapError_eq_ok.mp isOk.symm) ▸ examined)
  have free : (tree.withDirectories directory) (directory ++ [a.commitName]) = none := by
    apply withDirectories_below
    apply fresh.unused
    simp
  have apart : directory ++ [a.commitName] ≠ directory ++ [final] := by
    intro equal
    have equal := List.singleton_inj.mp (List.append_cancel_left equal)
    obtain ⟨plain, numbered⟩ := fresh.unforeseen safeName changed (mapError_eq_ok.mp named)
    rcases chosen with rfl | ⟨index, rfl⟩
    · exact plain equal
    · exact numbered index equal
  rcases run.bind_inv with ⟨e, rfl, failed⟩ | ⟨before, ⟨⟩, tree₁, t, rfl, done, run⟩
  · refine .attempted same ?_ recorded (transaction_run free apart failed).raised
    intro artifact returned
    cases returned
  · obtain ⟨rfl, rfl, rfl⟩ := runs_pure.mp run
    rw [List.append_nil]
    refine .attempted same ?_ recorded ((transaction_run free apart done).map fun _ => _)
    intro artifact returned
    cases returned
    exact ⟨rfl, rfl, rfl⟩

/-- Where no file has changed, nothing is asked of the artifact. -/
theorem atomic_of_same {tree tree' : Tree} {e : CommitError} (same : tree'.files = tree.files) :
    Atomic library a tree (.error e) tree' := by
  refine ⟨fun _ _ => same, ?_, ?_⟩
  · intro artifact returned
    cases returned
  · intro path _ differs
    rw [same] at differs
    exact absurd rfl differs

theorem CommitOutcome.atomic {tree tree' : Tree} {t : Trace StorageSig}
    {r : Except CommitError DownloadArtifact} (outcome : CommitOutcome library a tree t r tree')
    (quiet : ¬ RemovalFails t) : Atomic library a tree r tree' := by
  cases outcome with
  | refused _ same => exact atomic_of_same same
  | @attempted _ destination staged tree₁ _ same described recorded outcome =>
      cases outcome with
      | restored => exact atomic_of_same same
      | left path content fails => exact absurd fails quiet
      | published content _ size hash allowed =>
          refine ⟨?_, ?_, ?_⟩
          · intro e raised
            cases raised
          · intro artifact returned
            obtain ⟨isPath, isSize, isChecksum⟩ := described artifact returned
            refine ⟨content, ?_, ?_, ?_⟩
            · rw [isPath, put_at]
            · rw [size, isSize]
            · intro sum asked
              rw [isChecksum] at asked
              rw [hash, recorded sum asked]
          · intro path existed differs
            have isDestination : path = destination := by
              by_contra elsewhere
              apply differs
              rw [← same]
              unfold Tree.files Tree.put
              rw [Function.update_of_ne elsewhere]
            rw [isDestination, ← same] at existed
            rcases allowed with replaces | free
            · exact replaces
            · rw [files_of_none free] at existed
              cases existed

theorem CommitOutcome.not_atomic {tree tree' : Tree} {t : Trace StorageSig}
    {r : Except CommitError DownloadArtifact} (outcome : CommitOutcome library a tree t r tree')
    (fails : RemovalFails t) : ¬ Atomic library a tree r tree' := by
  cases outcome with
  | refused quiet same => exact absurd fails quiet
  | attempted same described recorded outcome =>
      cases outcome with
      | restored quiet => exact absurd fails quiet
      | published content quiet => exact absurd fails quiet
      | left path content _ free there =>
          intro atomic
          have before := congrFun (atomic.raised _ rfl) path
          rw [files_of_file there, ← same, files_of_none free] at before
          cases before

/-- A commit is atomic exactly when no removal of the copy fails: neither the one after
the link nor the one of the clean-up. -/
theorem commit_atomic_iff {tree tree' : Tree} {t : Trace StorageSig}
    {r : Except CommitError DownloadArtifact} (fresh : FreshUuid library a tree)
    (run : Runs (commit library a) tree t r tree') :
    Atomic library a tree r tree' ↔ ¬ RemovalFails t := by
  have outcome := commit_run fresh run
  constructor
  · intro atomic fails
    exact outcome.not_atomic fails atomic
  · exact outcome.atomic

/-! ## A commit that is not atomic -/

/-- A library for ASCII text, whose digest of a content is its length. -/
def sampleLibrary : Library where
  tables := asciiTables
  lower s := s.map Char.toLower
  guessType _ := none
  sha256 content := toString content.length

/-- The download of a report. -/
def reportAttempt : Attempt where
  requestedName := "report.pdf".toList
  request := {}
  deadlineMs := 30000
  uuid := "0f3a".toList

/-- No download is completed yet. -/
def noDownloads : Tree := fun path => if path = [] then some .directory else none

/-- A disk on which one step fails. -/
def failingDisk (failing : Option FsStep) : Script StorageSig Unit := fun _ call =>
  match call with
  | .monotonic => ((0 : Int), ())
  | .fails s =>
      let failure : Option OsError :=
        if failing = some s then some ⟨.other, "[Errno 5] I/O error"⟩ else none
      (failure, ())
  | .stat _ => ((⟨true, ⟨1, 2, 5, 4, 5⟩⟩ : Stat), ())
  | .reads => (([[37, 80, 68, 70, 45]] : List Bytes), ())
  | .written view => (view.length, ())
  | .directory _ => ((none : Option CommitError), ())

theorem freshReport : FreshUuid sampleLibrary reportAttempt noDownloads where
  unused := by
    intro path named
    unfold noDownloads
    rw [if_neg]
    intro empty
    rw [empty] at named
    cases named
  unforeseen := by
    intro safeName changed resolved
    have isReport : filename sampleLibrary.tables reportAttempt.policy reportAttempt.requestedName =
        .ok ("report.pdf".toList, false) := by decide +kernel
    rw [isReport] at resolved
    cases resolved
    refine ⟨by decide, ?_⟩
    intro index same
    have first := congrArg List.head? same
    have stem : (splitSuffix "report.pdf".toList).1 = "report".toList := by decide +kernel
    unfold uniquified at first
    rw [stem] at first
    simp [Attempt.commitName] at first

def isOk {α : Type} (r : Except CommitError α) : Bool :=
  match r with
  | .ok _ => true
  | .error _ => false

/-- Without a failure the commit of the report returns, and is atomic. -/
theorem report_commits : ∃ t artifact tree',
    Runs (commit sampleLibrary reportAttempt) noDownloads t (.ok artifact) tree' ∧
      Atomic sampleLibrary reportAttempt noDownloads (.ok artifact) tree' := by
  have harmless (w : Unit) (call : StorageCall) :
      ¬ IsFailedRemoval ⟨call, (failingDisk none w call).1⟩ := by
    cases call with
    | fails s =>
        cases s with
        | unlinkCommit => exact Bool.false_ne_true
        | cleanUp => exact Bool.false_ne_true
        | _ => exact id
    | _ => exact id
  obtain ⟨t, r, tree', run, quiet, returned⟩ :=
    exists_answered_runs (Q := fun event => ¬ IsFailedRemoval event) (failingDisk none)
      (commit sampleLibrary reportAttempt) noDownloads () harmless (fun _ r _ => isOk r)
      (by decide +kernel)
  cases r with
  | error e => cases returned
  | ok artifact =>
      refine ⟨t, artifact, tree', run, (commit_atomic_iff freshReport run).mpr ?_⟩
      intro ⟨event, member, failed⟩
      exact quiet event member failed

/-- A step of the file system that failed. -/
def isFailure : Event StorageSig → Bool
  | ⟨.fails _, failure⟩ => Option.isSome (α := OsError) failure
  | _ => false

/-- One step fails, the removal of the copy after the artifact was linked: the commit
raises, and the artifact stays. -/
theorem report_left : ∃ t r tree',
    Runs (commit sampleLibrary reportAttempt) noDownloads t r tree' ∧
      (t.filter isFailure).length = 1 ∧
      ¬ Atomic sampleLibrary reportAttempt noDownloads r tree' := by
  obtain ⟨t, r, tree', run, holds⟩ := exists_runs (failingDisk (some .unlinkCommit))
    (commit sampleLibrary reportAttempt) noDownloads ()
    (fun t r tree' => (t.filter isFailure).length = 1 && !isOk r &&
      (tree'.files ["report.pdf".toList]).isSome) (by decide +kernel)
  simp only [Bool.and_eq_true, decide_eq_true_eq, Bool.not_eq_true'] at holds
  obtain ⟨⟨single, raised⟩, there⟩ := holds
  refine ⟨t, r, tree', run, single, ?_⟩
  intro atomic
  cases r with
  | ok artifact => cases raised
  | error e =>
      rw [atomic.raised e rfl] at there
      revert there
      decide

end Dingdongditch.Download
