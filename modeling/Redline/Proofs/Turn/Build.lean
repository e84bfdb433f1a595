import Redline.Proofs.Reply.Grammar
import Redline.Turn.Build

/-!
# From a reply to a turn

The files of a reply are checked twice. When the reply is understood, there has to be one, and their
paths have to be distinct and not blank; when the change set of its turn is made, there has to be a
change and no path may be given twice. The checks go through the files in different ways, and each
has errors of its own.

They accept the same files, except for blank paths, which only the first of them knows. So a reply
that has been understood never fails to become the turn of its kind, and what it proposes is what
the turn proposes.
-/

namespace Redline

open Redline.Text

/-! ## The two checks -/

theorem firstRepeated?_eq_none {seen xs : List String} (hnodup : xs.Nodup)
    (hseen : ∀ x ∈ xs, x ∉ seen) : firstRepeated? seen xs = none := by
  induction xs generalizing seen with
  | nil => rfl
  | cons x xs ih =>
    obtain ⟨hx, hxs⟩ := List.nodup_cons.mp hnodup
    obtain ⟨hfirst, hrest⟩ := List.forall_mem_cons.mp hseen
    rw [firstRepeated?, if_neg (mt List.contains_iff_mem.mp hfirst)]
    refine ih hxs fun y hy hmem ↦ ?_
    rcases List.mem_cons.mp hmem with rfl | hmem
    · exact hx hy
    · exact hrest y hy hmem

namespace ChangeSet

variable {changes : List FileChange}

theorem ofChanges_eq_ok (hne : changes ≠ []) (hnodup : (changes.map FileChange.path).Nodup) :
    ofChanges changes = .ok ⟨changes, hne, hnodup⟩ := by
  have hnone : firstRepeated? [] (changes.map FileChange.path) = none :=
    firstRepeated?_eq_none hnodup fun _ _ ↦ List.not_mem_nil
  rw [ofChanges, dif_neg hne]
  split
  next path hsome => exact absurd (hnone.symm.trans hsome) nofun
  next => rfl

theorem changes_of_ofChanges {cs : ChangeSet} (h : ofChanges changes = .ok cs) :
    cs.changes = changes := by
  rw [ofChanges] at h
  split at h
  · exact absurd h nofun
  · split at h
    · exact absurd h nofun
    · rw [← Except.ok.inj h]

theorem exists_ofChanges_iff : (∃ cs, ofChanges changes = .ok cs) ↔
    changes ≠ [] ∧ (changes.map FileChange.path).Nodup := by
  constructor
  · rintro ⟨cs, h⟩
    rw [← changes_of_ofChanges h]
    exact ⟨cs.nonempty, cs.nodup⟩
  · rintro ⟨hne, hnodup⟩
    exact ⟨_, ofChanges_eq_ok hne hnodup⟩

end ChangeSet

namespace Turn

variable {active : FileSnapshot} {snapshot : ContextSnapshot} {why : String} {changes : ChangeSet}
  {files : List ProposedFile}

theorem map_path_changeOf (snapshot : ContextSnapshot) (files : List ProposedFile) :
    (files.map (changeOf snapshot)).map FileChange.path = files.map ProposedFile.path := by
  rw [List.map_map]
  rfl

theorem paths_eq_of_changes (h : changes.changes = files.map (changeOf snapshot)) :
    changes.paths = files.map ProposedFile.path := by
  rw [ChangeSet.paths, h, map_path_changeOf]

/-- **Both checks accept the same files**, blank paths apart. -/
theorem checkChanges_iff_ofChanges (snapshot : ContextSnapshot) (files : List ProposedFile) :
    Reply.checkChanges files = .ok () ↔
      (∃ cs, ChangeSet.ofChanges (files.map (changeOf snapshot)) = .ok cs) ∧
        ∀ file ∈ files, isBlankText file.path = false := by
  rw [Reply.checkChanges_eq_ok, ChangeSet.exists_ofChanges_iff, map_path_changeOf, ne_eq,
    List.map_eq_nil_iff]
  constructor
  · exact fun h ↦ ⟨⟨h.nonempty, h.nodup⟩, h.not_blank⟩
  · rintro ⟨⟨hne, hnodup⟩, hblank⟩
    exact ⟨hne, hblank, hnodup⟩

end Turn

theorem Reply.validChanges_of_classify {value : Json} {why : String} {files : List ProposedFile}
    (h : classify value = .multiFileChange why files) : ValidChanges files := by
  have hdenotes := classify_eq_and_not_malformed.mp ⟨h, rfl⟩
  cases hdenotes with
  | multiFileChange htype hexplanation hitems hfiles hvalid => exact hvalid

/-- The files that a reply proposes, in order. One that names no file proposes the active one. -/
def Reply.proposed (active : FileSnapshot) : Reply → List ProposedFile
  | .replaceFile content | .explanationWithChanges _ content => [⟨active.path, content⟩]
  | .multiFileChange _ files => files
  | .explanation _ | .backendError _ | .malformed _ => []

/-- The content that a file has when a reply proposes another one for it. A reply that lists files
is meant for what its request carried, and any other one for what the active file holds now. -/
def Reply.original (active : FileSnapshot) (snapshot : ContextSnapshot) : Reply → String → String
  | .multiFileChange _ _ => fun path ↦ (snapshot.lookup? path).getD ""
  | _ => fun _ ↦ active.content

namespace Turn

variable {active : FileSnapshot} {snapshot : ContextSnapshot} {why : String} {changes : ChangeSet}
  {files : List ProposedFile} {reply : Reply}

/-! ## The turn of a reply -/

/-- The files of a reply make a change set, and the reply becomes a proposal of it. -/
theorem exists_ofReply_eq (h : Reply.ValidChanges files) (active : FileSnapshot)
    (snapshot : ContextSnapshot) (why : String) :
    ∃ changes, ChangeSet.ofChanges (files.map (changeOf snapshot)) = .ok changes ∧
      ofReply active snapshot (.multiFileChange why files) =
        (.multiFileChange why changes, newFileWarnings snapshot files) := by
  obtain ⟨⟨changes, hchanges⟩, -⟩ :=
    (checkChanges_iff_ofChanges snapshot files).mp (Reply.checkChanges_eq_ok.mpr h)
  refine ⟨changes, hchanges, ?_⟩
  simp only [ofReply, hchanges]

/-- The files of a reply are proposed as they are given, in order. -/
theorem ofReply_multiFileChange (h : Reply.ValidChanges files) (active : FileSnapshot)
    (snapshot : ContextSnapshot) (why : String) :
    ∃ changes : ChangeSet, changes.changes = files.map (changeOf snapshot) ∧
      (ofReply active snapshot (.multiFileChange why files)).1 = .multiFileChange why changes := by
  obtain ⟨changes, hchanges, hreply⟩ := exists_ofReply_eq h active snapshot why
  exact ⟨changes, ChangeSet.changes_of_ofChanges hchanges, congrArg Prod.fst hreply⟩

theorem paths_of_ofReply {value : Json}
    (h : (ofReply active snapshot (Reply.classify value)).1 = .multiFileChange why changes) :
    ∃ files, Reply.classify value = .multiFileChange why files ∧
      changes.paths = files.map ProposedFile.path := by
  cases hreply : Reply.classify value with
  | multiFileChange why' files =>
    have hvalid := Reply.validChanges_of_classify hreply
    obtain ⟨changes', hchanges, hturn⟩ := ofReply_multiFileChange hvalid active snapshot why'
    rw [hreply, hturn] at h
    obtain ⟨rfl, rfl⟩ := Turn.multiFileChange.inj h
    exact ⟨files, rfl, paths_eq_of_changes hchanges⟩
  | _ =>
    rw [hreply] at h
    exact absurd h nofun

/-! ## What the turn proposes -/

/-- A change proposes a file: its path and its content are those of the file, as they are given, and
its patch is the difference between the original content of that file and the proposed one. -/
structure Proposes (original : String → String) (change : FileChange) (file : ProposedFile) :
    Prop where
  path_eq : change.path = file.path
  /-- The content to be replaced is the original one. -/
  base_eq : change.base = original file.path
  proposed_eq : change.proposed = file.content
  /-- The patch leads from the one content to the other. -/
  patch_eq : change.patch = .between (original file.path) file.content

theorem forall₂_proposes_changeOf (active : FileSnapshot) (snapshot : ContextSnapshot)
    (why : String) (files : List ProposedFile) :
    List.Forall₂ (Proposes ((Reply.multiFileChange why files).original active snapshot))
      (files.map (changeOf snapshot)) files := by
  rw [List.forall₂_map_left_iff, List.forall₂_same]
  intro file _
  have hbase : (changeOf snapshot file).base =
      (Reply.multiFileChange why files).original active snapshot file.path := by
    rw [changeOf, Reply.original]
  exact ⟨rfl, hbase, rfl, by rw [FileChange.patch, hbase, changeOf]⟩

/-- What a turn has of the reply that it stems from. -/
structure Carries (active : FileSnapshot) (snapshot : ContextSnapshot) (reply : Reply)
    (turn : Turn) : Prop where
  /-- The turn has a change set if the reply proposes changes, and only then. -/
  isSome_changeSet? : turn.changeSet?.isSome = reply.proposesChanges
  /-- The turn is an error if the reply is malformed or reports one, and only then. -/
  isError_iff : turn.isError = true ↔
    (∃ message, reply = .backendError message) ∨ ∃ reason, reply = .malformed reason
  /-- The change set has one change for each proposed file, in order, and there is one. -/
  changes : ∀ changes, turn.changeSet? = some changes →
    changes.changes ≠ [] ∧
      List.Forall₂ (Proposes (reply.original active snapshot)) changes.changes
        (reply.proposed active)

theorem carries_explanation (active : FileSnapshot) (snapshot : ContextSnapshot) (text : String) :
    Carries active snapshot (.explanation text) (.explanation text) :=
  ⟨rfl, by simp [isError], nofun⟩

theorem carries_error (active : FileSnapshot) (snapshot : ContextSnapshot) (message : String)
    (herror : (∃ message, reply = .backendError message) ∨ ∃ reason, reply = .malformed reason) :
    Carries active snapshot reply (.error message) := by
  refine ⟨?_, iff_of_true rfl herror, nofun⟩
  obtain ⟨message, rfl⟩ | ⟨reason, rfl⟩ := herror <;> rfl

theorem carries_changes {turn : Turn} (hproposes : reply.proposesChanges = true)
    (hchanges : turn.changeSet? = some changes) (herror : turn.isError = false)
    (hfiles : List.Forall₂ (Proposes (reply.original active snapshot)) changes.changes
      (reply.proposed active)) :
    Carries active snapshot reply turn := by
  refine ⟨?_, iff_of_false ?_ ?_, fun changes' hchanges' ↦ ?_⟩
  · rw [hchanges, hproposes, Option.isSome_some]
  · rw [herror]
    exact Bool.false_ne_true
  · rintro (⟨message, rfl⟩ | ⟨reason, rfl⟩) <;> exact absurd hproposes Bool.false_ne_true
  · obtain rfl := Option.some.inj (hchanges.symm.trans hchanges')
    exact ⟨changes.nonempty, hfiles⟩

/-- **A reply becomes the turn of its kind**, for every JSON value, every active file and every
snapshot. The turn has a change set exactly if the reply proposes changes, and it is an error
exactly if the reply is malformed or reports an error. The files of a reply always make a change
set. A change set has one change for each proposed file, in the order of the reply, from the
original content to the one that is given; where the reply names no file, the file is the active
one. -/
theorem classified_reply_built (active : FileSnapshot) (snapshot : ContextSnapshot)
    (value : Json) :
    let reply := Reply.classify value
    Carries active snapshot reply (ofReply active snapshot reply).1 ∧
    ∀ why files, reply = .multiFileChange why files →
      ∃ changes, ChangeSet.ofChanges (files.map (changeOf snapshot)) = .ok changes ∧
        ofReply active snapshot reply =
          (.multiFileChange why changes, newFileWarnings snapshot files) := by
  intro reply
  refine ⟨?_, fun why files hreply ↦ ?_⟩
  · -- That the reply has been understood matters only where it lists files.
    cases hreply : reply with
    | explanation text => exact carries_explanation active snapshot text
    | replaceFile content =>
      exact carries_changes rfl rfl rfl (.cons ⟨rfl, rfl, rfl, rfl⟩ .nil)
    | explanationWithChanges why code =>
      exact carries_changes rfl rfl rfl (.cons ⟨rfl, rfl, rfl, rfl⟩ .nil)
    | multiFileChange why files =>
      have hvalid := Reply.validChanges_of_classify hreply
      obtain ⟨changes, hchanges, hturn⟩ := ofReply_multiFileChange hvalid active snapshot why
      rw [hturn]
      refine carries_changes rfl rfl rfl ?_
      rw [hchanges]
      exact forall₂_proposes_changeOf active snapshot why files
    | backendError message => exact carries_error active snapshot message (.inl ⟨message, rfl⟩)
    | malformed reason => exact carries_error active snapshot _ (.inr ⟨reason, rfl⟩)
  · rw [hreply]
    exact exists_ofReply_eq (Reply.validChanges_of_classify hreply) active snapshot why

end Turn

end Redline
