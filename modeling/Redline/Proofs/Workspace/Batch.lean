import Redline.Proofs.Workspace.Progress

/-!
# Batches

A batch that is written is written as a whole. When a write fails, the tree is restored, as long as
no path is or passes a link that leads nowhere: such a link would be removed in place of the file
that has been written along it.

The answer says that the tree is restored, except when the path of the write that failed leads to a
directory by then: an earlier file of the same batch has been written below it. Then that path is
reported as modified although it is not.
-/

namespace Redline

open FileTree Route

namespace Workspace

variable {before tree : FileTree} {w w' : Workspace} {edit : FileEdit} {edits : List FileEdit}
  {target : BatchTarget} {targets written : List BatchTarget} {r : Route}

/-! ## How a batch ends -/

/-- Writing files one after another comes to one whose path leads to a directory. -/
inductive Obstructed : Workspace → List FileEdit → Prop
  | here {w : Workspace} {edit : FileEdit} {edits : List FileEdit} :
    w.tree.isDirectory (w.route edit.path) = true → Obstructed w (edit :: edits)
  | later {w w' : Workspace} {edit : FileEdit} {edits : List FileEdit} :
    w.writeText edit.path edit.content = (.ok (), w') → Obstructed w' edits →
      Obstructed w (edit :: edits)

theorem obstructed_cons : Obstructed w (edit :: edits) ↔
    w.tree.isDirectory (w.route edit.path) = true ∨
      (w.writeText edit.path edit.content).1.isOk = true ∧
        Obstructed (w.writeText edit.path edit.content).2 edits := by
  constructor
  · intro h
    cases h with
    | here hdirectory => exact Or.inl hdirectory
    | later hok hrest =>
      rw [hok]
      exact Or.inr ⟨rfl, hrest⟩
  · rintro (hdirectory | ⟨hok, hrest⟩)
    · exact .here hdirectory
    · refine .later (Prod.ext ?_ rfl) hrest
      cases hresult : (w.writeText edit.path edit.content).1 with
      | ok => rfl
      | error e =>
        rw [hresult] at hok
        exact absurd hok Bool.false_ne_true

theorem obstructed_cons_of_ok (hwrite : w.writeText edit.path edit.content = (.ok (), w'))
    (hfree : ¬w.tree.isDirectory (w.route edit.path) = true) :
    Obstructed w (edit :: edits) ↔ Obstructed w' edits := by
  rw [obstructed_cons, hwrite]
  constructor
  · rintro (hthere | ⟨-, hrest⟩)
    · exact absurd hthere hfree
    · exact hrest
  · exact fun hrest ↦ Or.inr ⟨rfl, hrest⟩

instance decidableObstructed : (edits : List FileEdit) → (w : Workspace) →
    Decidable (Obstructed w edits)
  | [], _ => isFalse nofun
  | _ :: edits, _ =>
    have := decidableObstructed edits
    decidable_of_iff _ obstructed_cons.symm

/-- How the writing of prepared targets ends, where `obstructed` says whether it comes to a
directory. -/
inductive Ending (before : FileTree) (targets : List BatchTarget) (obstructed : Prop) :
    Except SurfaceError Unit × Workspace → Prop
  | written {w : Workspace} : Progress before targets w.tree → ¬obstructed →
    Ending before targets obstructed (.ok (), w)
  | rejected {w : Workspace} {m : String} : (∀ p, w.tree.node? p = before.node? p) →
    ¬obstructed → Ending before targets obstructed (.error (.batchRejected m), w)
  | reported {w : Workspace} {path m : String} : (∀ p, w.tree.node? p = before.node? p) →
    obstructed → Ending before targets obstructed (.error (.partialBatch [path] m), w)

theorem writeTargets_of_error {e : WorkspaceError}
    (h : w.writeText target.edit.path target.edit.content = (.error e, w')) :
    w.writeTargets written (target :: targets) =
      match (rollBack w'.tree (target :: written)).1 with
      | [] => (.error (.batchRejected e.message),
          { w' with tree := (rollBack w'.tree (target :: written)).2 })
      | failed => (.error (.partialBatch failed e.message),
          { w' with tree := (rollBack w'.tree (target :: written)).2 }) := by
  rw [writeTargets]
  simp only [h]
  split
  next tree hback => rw [hback]
  next failed tree hne hback =>
    rw [hback]
    cases failed with
    | nil => exact absurd rfl hne
    | cons path failed => rfl

theorem exists_writeTargets_error {e : WorkspaceError} (written targets : List BatchTarget)
    (h : w.writeText target.edit.path target.edit.content = (.error e, w')) :
    ∃ e, (w.writeTargets written (target :: targets)).1 = .error e := by
  rw [writeTargets_of_error h]
  split
  · exact ⟨_, rfl⟩
  · exact ⟨_, rfl⟩

/-- When a write fails, the batch ends with the tree restored. -/
theorem ending_of_error {e : WorkspaceError} (hwf : before.WellFormed)
    (h : Progress before written w.tree) (hrestorable : Restorable before written w.tree)
    (hready : ∀ t ∈ target :: written, t.Ready before)
    (hroute : target.route = w.route target.edit.path)
    (hmakes : w.tree.Makes (above target.route) tree)
    (hwrite : w.writeText target.edit.path target.edit.content = (.error e, { w with tree })) :
    Ending before ((target :: targets).reverse ++ written)
      (Obstructed w ((target :: targets).map (·.edit)))
      (w.writeTargets written (target :: targets)) := by
  have hclear := (hready target List.mem_cons_self).clear
  -- What has been written so far are files, and they stay files while directories are made.
  have hfree : ∀ t ∈ written, tree.isDirectory t.route = false := by
    refine fun t ht ↦ Bool.eq_false_iff.mpr fun hdirectory ↦ ?_
    obtain ⟨p, content, hfile, -⟩ := h.located_of_keeps hmakes.grown.keeps ht
    obtain ⟨q, hq⟩ := isDirectory_iff.mp hdirectory
    exact absurd (hfile.symm.trans hq) nofun
  obtain ⟨hpaths, hsame⟩ :=
    rollBack_failed hwf hready (hrestorable.makes hwf hclear hmakes) hfree
  rw [writeTargets_of_error hwrite, hpaths, List.map_cons]
  cases hdirectory : tree.isDirectory target.route with
  | true =>
    refine .reported hsame (.here ?_)
    rw [← hroute]
    exact hclear.isDirectory_above hwf h.grown hmakes hdirectory
  | false =>
    refine .rejected hsame fun hobstructed ↦ ?_
    rw [obstructed_cons, hwrite, ← hroute] at hobstructed
    rcases hobstructed with hthere | ⟨hok, -⟩
    · rw [hmakes.grown.keeps.isDirectory hthere] at hdirectory
      exact absurd hdirectory nofun
    · exact absurd hok nofun

/-- **A batch is written as a whole or not at all**, provided that the targets are backed up if it
comes to restoring them. -/
theorem writeTargets_ending (hwf : before.WellFormed) (h : Progress before written w.tree)
    (hroute : ∀ t ∈ targets, t.route = w.route t.edit.path)
    (hfails : ∀ e, (w.writeTargets written targets).1 = .error e →
      Restorable before written w.tree ∧ ∀ t ∈ targets ++ written, t.Ready before) :
    Ending before (targets.reverse ++ written) (Obstructed w (targets.map (·.edit)))
      (w.writeTargets written targets) := by
  induction targets generalizing w written with
  | nil => exact .written h nofun
  | cons target targets ih =>
    have hr := hroute target List.mem_cons_self
    rcases w.writeText_spec target.edit.path target.edit.content h.grown.wellFormed with
      ⟨e, tree, hmakes, hwrite⟩ | ⟨tree, place, hwrites, hwrite⟩
    · obtain ⟨e', he'⟩ := exists_writeTargets_error written targets hwrite
      obtain ⟨hrestorable, hready⟩ := hfails e' he'
      rw [← hr] at hmakes
      refine ending_of_error hwf h hrestorable (fun t ht ↦ hready t ?_) hr hmakes hwrite
      rcases List.mem_cons.mp ht with rfl | ht
      · exact List.mem_cons_self
      · exact List.mem_append_right _ ht
    · have hfree : ¬w.tree.isDirectory (w.route target.edit.path) = true := by
        intro hthere
        obtain ⟨q, hq⟩ := isDirectory_iff.mp (hwrites.makes.grown.keeps.isDirectory hthere)
        obtain rfl := Except.ok.inj (hwrites.locate.symm.trans hq)
        exact absurd hwrites.bare id
      rw [← hr] at hwrites
      have hprogress := h.write hwrites
      have hnext : w.writeTargets written (target :: targets) =
          writeTargets { w with tree := tree.set place.path (.file (.text target.edit.content)) }
            (target :: written) targets := by
        rw [writeTargets]
        simp only [hwrite]
      rw [hnext, List.map_cons, obstructed_cons_of_ok hwrite hfree, List.reverse_cons,
        List.append_assoc]
      refine ih hprogress (fun t ht ↦ hroute t (List.mem_cons_of_mem target ht)) fun e he ↦ ?_
      obtain ⟨hrestorable, hready⟩ := hfails e (hnext ▸ he)
      refine ⟨hrestorable.write hwf (hready target List.mem_cons_self).clear hwrites,
        fun t ht ↦ hready t ?_⟩
      rcases List.mem_append.mp ht with ht | ht
      · exact List.mem_cons_of_mem _ (List.mem_append_left _ ht)
      · rcases List.mem_cons.mp ht with rfl | ht
        · exact List.mem_cons_self
        · exact List.mem_cons_of_mem _ (List.mem_append_right _ ht)

/-! ## Preparing a batch -/

theorem backupOf_cases {backup : Backup} (h : w.backupOf r = .ok backup) :
    (∃ p content, w.tree.locate r = .ok (.file p (.text content) false) ∧
      backup = .present content) ∨
    w.tree.doesExist r = false ∧
      backup = .absent ((above r).takeWhile (!w.tree.doesExist ·)).reverse := by
  rw [backupOf] at h
  cases hexists : w.tree.doesExist r with
  | false =>
    rw [hexists, if_neg Bool.false_ne_true] at h
    exact Or.inr ⟨rfl, (Except.ok.inj h).symm⟩
  | true =>
    rw [hexists, if_pos rfl] at h
    cases hread : w.tree.readText r with
    | error fault =>
      rw [hread] at h
      exact absurd h nofun
    | ok content =>
      rw [hread] at h
      obtain ⟨p, hlocate⟩ := readText_iff.mp hread
      exact Or.inl ⟨p, content, hlocate, (Except.ok.inj h).symm⟩

theorem of_prepare (h : w.prepare edits = .ok targets) : targets.map (·.edit) = edits ∧
    ∀ t ∈ targets, w.resolveWrite t.edit.path = .ok t.route ∧
      w.backupOf t.route = .ok t.backup := by
  induction edits generalizing targets with
  | nil =>
    obtain rfl := Except.ok.inj h
    exact ⟨rfl, nofun⟩
  | cons edit edits ih =>
    rw [prepare] at h
    cases hresolve : w.resolveWrite edit.path with
    | error e =>
      rw [hresolve] at h
      exact absurd h nofun
    | ok r =>
      simp only [hresolve] at h
      cases hbackup : w.backupOf r with
      | error fault =>
        rw [hbackup] at h
        exact absurd h nofun
      | ok backup =>
        simp only [hbackup] at h
        cases hrest : w.prepare edits with
        | error m =>
          rw [hrest] at h
          exact absurd h nofun
        | ok rest =>
          rw [hrest] at h
          obtain rfl := Except.ok.inj h
          obtain ⟨hedits, hall⟩ := ih hrest
          exact ⟨by rw [List.map_cons, hedits],
            List.forall_mem_cons.mpr ⟨⟨hresolve, hbackup⟩, hall⟩⟩

theorem prepare_spec (h : w.prepare edits = .ok targets) :
    targets.map (·.edit) = edits ∧ ∀ t ∈ targets, t.route = w.route t.edit.path ∧
      ((∀ m ∈ trimmed t.route :: above t.route, ¬w.tree.Dangling m) → t.Ready w.tree) := by
  obtain ⟨hedits, hall⟩ := of_prepare h
  refine ⟨hedits, fun t ht ↦ ?_⟩
  obtain ⟨hresolve, hbackup⟩ := hall t ht
  obtain ⟨hroute, hadmits⟩ := of_resolveWrite hresolve
  exact ⟨hroute, fun hlinks ↦ ⟨⟨hadmits.not_up, hlinks⟩, backupOf_cases hbackup⟩⟩

/-! ## What a batch promises -/

/-- The tree `after` is that of the workspace with all edits written. -/
structure Applied (w : Workspace) (edits : List FileEdit) (after : FileTree) : Prop where
  /-- Every edited path reads back the content of the last edit of the file to which it leads. -/
  reads : ∀ edit ∈ edits, ∀ front last back, edits = front ++ last :: back →
    after.realPath (w.route last.path) = after.realPath (w.route edit.path) →
    (∀ later ∈ back, after.realPath (w.route later.path) ≠ after.realPath (w.route edit.path)) →
      after.readText (w.route edit.path) = .ok last.content
  /-- Nothing else has changed, except that directories above edited files have been made. -/
  unchanged : ∀ p, after.node? p = w.tree.node? p ∨
    (∃ edit ∈ edits, after.realPath (w.route edit.path) = .ok p) ∨
    (w.tree.node? p = none ∧ after.node? p = some .directory ∧
      ∃ edit ∈ edits, ∃ q, after.realPath (w.route edit.path) = .ok q ∧ p <+: q ∧ p ≠ q)

/-- What is promised of the answer to a batch and of the workspace after it. A batch that is written
is written as a whole; one that is rejected leaves the tree as it was; and of one that is written in
part, the answer names the edited paths that lead to something else than before, of which there are
some. -/
def Promised (w : Workspace) (edits : List FileEdit) : Except SurfaceError Unit × Workspace → Prop
  | (.ok (), w') => Applied w edits w'.tree
  | (.error (.batchRejected _), w') => ∀ p, w'.tree.node? p = w.tree.node? p
  | (.error (.partialBatch paths _), w') => (∃ p, w'.tree.node? p ≠ w.tree.node? p) ∧
    ∀ path, path ∈ paths ↔ (∃ edit ∈ edits, edit.path = path) ∧
      w'.tree.locate (w.route path) ≠ w.tree.locate (w.route path)
  | (.error _, _) => False

/-- What a written target leads to holds what was last written along a route that leads there. -/
theorem Progress.reads (h : Progress before written tree) (ht : target ∈ written)
    {later earlier : List BatchTarget} {last : BatchTarget}
    (hsplit : written = later ++ last :: earlier)
    (hsame : tree.realPath last.route = tree.realPath target.route)
    (hlater : ∀ u ∈ later, tree.realPath u.route ≠ tree.realPath target.route) :
    tree.readText target.route = .ok last.edit.content := by
  obtain ⟨p, hp⟩ := h.latest later last earlier hsplit (by rwa [hsame])
  obtain ⟨q, content, hq⟩ := h.located target ht
  rw [realPath_of_locate_file hp, realPath_of_locate_file hq] at hsame
  obtain rfl := Except.ok.inj hsame
  have hwf := h.grown.wellFormed
  have hnode : tree.node? p = some (.file (.text last.edit.content)) := hwf.locate_stands hp
  exact readText_iff.mpr ⟨p, (Keeps.refl tree).locate_eq_file hwf hq hnode⟩

theorem Progress.applied (h : Progress w.tree targets.reverse tree)
    (hroute : ∀ t ∈ targets, t.route = w.route t.edit.path) :
    Applied w (targets.map (·.edit)) tree := by
  constructor
  · intro edit hedit front last back hsplit hsame hlater
    obtain ⟨t, ht, rfl⟩ := List.mem_map.mp hedit
    obtain ⟨first, rest, rfl, rfl, hrest⟩ := List.map_eq_append_iff.mp hsplit
    obtain ⟨u, others, rfl, rfl, rfl⟩ := List.map_eq_cons_iff.mp hrest
    have hu : u ∈ first ++ u :: others := List.mem_append_right _ List.mem_cons_self
    rw [← hroute u hu, ← hroute t ht] at hsame
    rw [← hroute t ht] at hlater ⊢
    have hreverse : (first ++ u :: others).reverse = others.reverse ++ u :: first.reverse := by
      rw [List.reverse_append, List.reverse_cons, List.append_assoc, List.singleton_append]
    refine h.reads (List.mem_reverse.mpr ht) hreverse hsame fun v hv ↦ ?_
    have hv := List.mem_reverse.mp hv
    rw [hroute v (List.mem_append_right _ (List.mem_cons_of_mem u hv))]
    exact hlater v.edit (List.mem_map_of_mem hv)
  · intro p
    have hedit : ∀ t ∈ targets.reverse, t.edit ∈ targets.map (·.edit) ∧
        t.route = w.route t.edit.path := by
      intro t ht
      have ht := List.mem_reverse.mp ht
      exact ⟨List.mem_map_of_mem ht, hroute t ht⟩
    rcases h.unchanged p with hsame | ⟨t, ht, hp⟩ | ⟨hnone, hdirectory, t, ht, q, hq, hpq⟩
    · exact Or.inl hsame
    · obtain ⟨hmem, hr⟩ := hedit t ht
      rw [hr] at hp
      exact Or.inr (Or.inl ⟨t.edit, hmem, hp⟩)
    · obtain ⟨hmem, hr⟩ := hedit t ht
      rw [hr] at hq
      exact Or.inr (Or.inr ⟨hnone, hdirectory, t.edit, hmem, q, hq, hpq⟩)

/-- **A batch keeps its promise unless it is obstructed.** When a batch that fails on the way has no
path that is or passes a link that leads nowhere, the promise is broken exactly if there is a backup
of each file and writing them comes to a path that leads to a directory. -/
theorem promised_writeBatch_iff (hwf : w.tree.WellFormed)
    (hlinks : ∀ targets e, w.prepare edits = .ok targets → (w.writeBatch edits).1 = .error e →
      ∀ edit ∈ edits, ∀ m ∈ trimmed (w.route edit.path) :: above (w.route edit.path),
        ¬w.tree.Dangling m) :
    Promised w edits (w.writeBatch edits) ↔
      ¬((∃ targets, w.prepare edits = .ok targets) ∧ Obstructed w edits) := by
  cases hprepare : w.prepare edits with
  | error m =>
    have hanswer : w.writeBatch edits = (.error (.batchRejected m), w) := by
      rw [writeBatch, hprepare]
    rw [hanswer]
    refine iff_of_true (fun _ ↦ rfl) ?_
    rintro ⟨⟨targets, htargets⟩, -⟩
    exact absurd htargets nofun
  | ok targets =>
    obtain ⟨hedits, hall⟩ := prepare_spec hprepare
    have hanswer : w.writeBatch edits = w.writeTargets [] targets := by
      rw [writeBatch, hprepare]
    rw [hanswer] at hlinks ⊢
    -- From here on only how the batch ends matters, not how it was written.
    have hending := writeTargets_ending hwf (Progress.nil hwf) (fun t ht ↦ (hall t ht).1)
      fun e he ↦ by
        refine ⟨Touched.refl hwf, fun t ht ↦ ?_⟩
        rw [List.append_nil] at ht
        obtain ⟨hroute, hready⟩ := hall t ht
        refine hready fun m hm ↦ ?_
        rw [hroute] at hm
        exact hlinks targets e hprepare he t.edit (hedits ▸ List.mem_map_of_mem ht) m hm
    rw [hedits] at hending
    generalize w.writeTargets [] targets = answer at hending ⊢
    cases hending with
    | written hprogress hfree =>
      refine iff_of_true ?_ fun h ↦ hfree h.2
      rw [List.append_nil] at hprogress
      rw [← hedits]
      exact hprogress.applied fun t ht ↦ (hall t ht).1
    | rejected hsame hfree => exact iff_of_true hsame fun h ↦ hfree h.2
    | reported hsame hobstructed =>
      -- A report promises that something differs, and nothing does.
      refine iff_of_false (fun h ↦ ?_) fun h ↦ h ⟨⟨targets, rfl⟩, hobstructed⟩
      obtain ⟨⟨p, hp⟩, -⟩ := h
      exact hp (hsame p)

/-- A batch that writes along a link to a file, and then below that file, is undone. -/
theorem promised_writeBatch_below :
    let w : Workspace := {
      tree := ⟨[(["ws"], .directory), (["ws", "a"], .file (.text "0")), (["ws", "l"], .link "a")]⟩
      root := ["ws"] }
    let edits : List FileEdit := [⟨"d/x", "1"⟩, ⟨"l", "2"⟩, ⟨"a/x", "3"⟩]
    (∃ e, (w.writeBatch edits).1 = .error e) ∧ Promised w edits (w.writeBatch edits) := by
  intro w edits
  have hfails : ((w.writeBatch edits).1 matches .error _) = true := by decide +kernel
  have hfree : ¬Obstructed w edits := by decide +kernel
  have hlinks : ∀ edit ∈ edits, ∀ m ∈ trimmed (w.route edit.path) :: above (w.route edit.path),
      ¬w.tree.Dangling m := by decide +kernel
  refine ⟨?_, (promised_writeBatch_iff (by decide +kernel) fun _ _ _ _ ↦ hlinks).mpr
    fun h ↦ hfree h.2⟩
  cases hanswer : (w.writeBatch edits).1 with
  | ok => exact absurd hfails (by rw [hanswer]; exact Bool.false_ne_true)
  | error e => exact ⟨e, rfl⟩

/-- A link that leads nowhere is removed in place of the file that has been written along it. -/
example :
    let w : Workspace := {
      tree := ⟨[(["ws"], .directory), (["ws", "l"], .link "t")]⟩
      root := ["ws"] }
    let answer := w.writeBatch [⟨"l", "1"⟩, ⟨"t/x", "2"⟩]
    (answer.1 matches .error (.batchRejected _)) ∧
      answer.2.tree.node? ["ws", "l"] = none ∧
        answer.2.tree.node? ["ws", "t"] = some (.file (.text "1")) := by
  decide +kernel

/-- A batch that left the tree as it was must not be reported. -/
theorem not_promised_of_restored {answer : Except SurfaceError Unit × Workspace}
    (hreported : (answer.1 matches .error (.partialBatch _ _)) = true)
    (hsame : answer.2.tree.entries = w.tree.entries) : ¬Promised w edits answer := by
  match answer, hreported, hsame with
  | (.error (.partialBatch paths m), w'), _, hsame =>
    rintro ⟨⟨p, hp⟩, -⟩
    refine hp ?_
    rw [node?, node?, hsame]

/-- **The promise is broken** by a batch that writes a file and then the directory that was made for
it: nothing differs afterwards, but the directory is reported. -/
theorem not_promised_writeBatch_above :
    let w : Workspace := { tree := ⟨[(["ws"], .directory)]⟩, root := ["ws"] }
    let edits : List FileEdit := [⟨"d/x", "1"⟩, ⟨"d", "2"⟩]
    ¬Promised w edits (w.writeBatch edits) := by
  intro w edits
  have hreported : ((w.writeBatch edits).1 matches .error (.partialBatch _ _)) = true := by
    decide +kernel
  have hsame : (w.writeBatch edits).2.tree.entries = w.tree.entries := by decide +kernel
  exact not_promised_of_restored hreported hsame

end Workspace

end Redline
