import Redline.Proofs.Workspace.Confined

/-!
# Batches within the root

A batch is followed write by write, and file by file when it is taken back. As long as no write
strays, nothing outside of the workspace is touched while it is written. When it is taken back a
name that was missing is removed wherever its route leads by then. A path that passes a link that
leads nowhere can have come to lead out of the workspace; any other leads where it led before.

## The invariants

While a batch is written, `Confined` holds: the tree has grown, and outside of the workspace it is
what it was. A write that does not stray keeps this, and whether the next one strays is said of the
workspace that has come about (`StraysIn`).

While a batch is taken back, `Undoing` holds: outside of the workspace the tree is still what it
was, and it has no directories and links but those of the tree in which the batch failed. In every
such tree a route that is `Removable` has its entry in the workspace, so that restoring keeps this.
-/

namespace Redline

open FileTree Route Text

namespace Workspace

variable {start tree : FileTree} {w v w' : Workspace} {path content : String} {edit : FileEdit}
  {edits : List FileEdit} {target : BatchTarget} {targets written : List BatchTarget} {r s : Route}
  {p : TreePath} {fault : Fault}

/-! ## The trees of a batch -/

/-- The trees that come about when files are restored in order. -/
def restoring (tree : FileTree) : List BatchTarget → List FileTree
  | [] => []
  | target :: targets => (restore tree target).2 :: restoring (restore tree target).2 targets

/-- The trees that come about when the files of a batch are written after those `written`, and when
these are restored. -/
def stages (w : Workspace) (written : List BatchTarget) : List BatchTarget → List FileTree
  | [] => []
  | target :: targets =>
    match w.writeText target.edit.path target.edit.content with
    | (.ok (), w') => w'.tree :: stages w' (target :: written) targets
    | (.error _, w') => w'.tree :: restoring w'.tree (target :: written)

/-- A batch stays in the workspace at any time. -/
structure BatchWithin (w : Workspace) (edits : List FileEdit) : Prop extends
    WritesWithin w (edits.map (·.path)) (w.writeBatch edits) where
  /-- What is backed up are files in the workspace. -/
  backups : ∀ targets, w.prepare edits = .ok targets → ∀ target ∈ targets, ∀ content,
    target.backup = .present content → ∃ p,
      w.tree.locate target.route = .ok (.file p (.text content) false) ∧ w.holds p = true
  /-- No write and no restoring changes anything outside. -/
  stages : ∀ targets, w.prepare edits = .ok targets →
    ∀ tree ∈ w.stages [] targets, w.Untouched tree

theorem rollBack_snd (tree : FileTree) (targets : List BatchTarget) :
    (rollBack tree targets).2 = (restoring tree targets).getLastD tree := by
  induction targets generalizing tree with
  | nil => rfl
  | cons target targets ih => rw [rollBack_cons, restoring, List.getLastD_cons, ih]

theorem writeTargets_snd_tree (w : Workspace) (written targets : List BatchTarget) :
    (w.writeTargets written targets).2.tree = (w.stages written targets).getLastD w.tree := by
  induction targets generalizing w written with
  | nil => rfl
  | cons target targets ih =>
    cases hwrite : w.writeText target.edit.path target.edit.content with
    | mk result w' =>
      rw [stages]
      cases result with
      | ok =>
        rw [writeTargets]
        simp only [hwrite]
        rw [List.getLastD_cons, ih]
      | error e =>
        simp only [hwrite]
        rw [writeTargets_of_error hwrite, List.getLastD_cons, ← rollBack_snd]
        split <;> rfl

/-! ## Restoring files -/

/-- A target was prepared in the workspace and its route passes no link that leads nowhere. -/
structure Undoable (w : Workspace) (target : BatchTarget) : Prop where
  admits : w.Admits target.route
  backup : w.backupOf target.route = .ok target.backup
  /-- No name above the last one is that of a link that leads nowhere. -/
  no_dangling : ∀ m ∈ above target.route, ¬w.tree.Dangling m

/-- A batch that came to the tree `start` is being taken back. -/
structure Undoing (w : Workspace) (start tree : FileTree) : Prop where
  /-- Nothing has changed outside of the workspace. -/
  untouched : w.Untouched tree
  /-- No directories and no links have been added. -/
  frame : tree.FrameIn start

/-- A route along which what is removed is in the workspace. -/
def Removable (w : Workspace) (start : FileTree) (r : Route) : Prop :=
  ∀ tree : FileTree, tree.FrameIn start → ∀ fault p, tree.entryOf fault r = .ok p →
    w.holds p = true

namespace Undoable

theorem removable (h : w.Undoable target) (hwf : w.tree.WellFormed) (hgrown : w.tree.Grown start)
    (habsent : w.tree.doesExist target.route = false) : w.Removable start target.route := by
  obtain ⟨a, hanchor, hholds⟩ := h.admits.anchored
  intro tree hframe fault p hentry
  exact holds_of_entryOf hwf hanchor hholds habsent h.admits.not_up h.no_dangling hgrown hframe
    hentry

theorem removable_above (h : w.Undoable target) (hwf : w.tree.WellFormed)
    (hgrown : w.tree.Grown start) (hs : s ∈ above target.route)
    (habsent : w.tree.doesExist s = false) : w.Removable start s := by
  obtain ⟨a, hanchor, hholds⟩ := h.admits.anchored
  obtain ⟨-, hpre, hsubset⟩ := of_mem_above hs
  intro tree hframe fault p hentry
  exact holds_of_entryOf hwf (anchor_of_mem_above hanchor hs habsent) hholds habsent
    (fun hup ↦ h.admits.not_up (hpre.subset hup)) (fun m hm ↦ h.no_dangling m (hsubset hm)) hgrown
    hframe hentry

end Undoable

namespace Undoing

theorem erase (h : w.Undoing start tree) (hr : w.Removable start r)
    (hentry : tree.entryOf fault r = .ok p) : w.Undoing start (tree.erase p) := by
  have hne : p ≠ [] := by
    obtain ⟨-, -, -, name, -, -, -, -, -, -, rfl⟩ := exists_above_of_entryOf hentry
    exact List.concat_ne_nil _ _
  exact ⟨h.untouched.erase hne (hr tree h.frame fault p hentry), h.frame.erase hne⟩

theorem removeWritten (h : w.Undoing start tree) (hr : w.Removable start r) :
    w.Undoing start (removeWritten tree r).2 := by
  rw [Workspace.removeWritten]
  split
  next =>
    cases hremove : tree.removeFile r with
    | error e => exact h
    | ok result =>
      obtain ⟨p, hentry, -, rfl⟩ := exists_of_removeFile hremove
      exact h.erase hr hentry
  next => exact h

theorem removeDirectories {routes : List Route} (h : w.Undoing start tree)
    (hroutes : ∀ s ∈ routes, w.Removable start s) :
    w.Undoing start (removeDirectories tree routes) := by
  induction routes with
  | nil => exact h
  | cons s routes ih =>
    have hrest := ih fun t ht ↦ hroutes t (List.mem_cons_of_mem s ht)
    rw [Workspace.removeDirectories, List.foldr_cons, ← Workspace.removeDirectories]
    cases hremove : (Workspace.removeDirectories tree routes).removeDirectory s with
    | error e => exact hrest
    | ok result =>
      obtain ⟨p, hentry, -, -, rfl⟩ := removeDirectory_iff.mp hremove
      exact hrest.erase (hroutes s List.mem_cons_self) hentry

/-- **Restoring a file stays in the workspace.** -/
theorem restore (h : w.Undoing start tree) (hwf : w.tree.WellFormed)
    (hgrown : w.tree.Grown start) (hstart : w.Untouched start) (htarget : w.Undoable target) :
    w.Undoing start (restore tree target).2 := by
  rcases backupOf_cases htarget.backup with
    ⟨p, content, hlocate, hbackup⟩ | ⟨habsent, hbackup⟩
  · rw [restore_present hbackup]
    cases hwrite : tree.writeFile target.route (.text content) with
    | error e => exact h
    | ok result =>
      obtain ⟨place, hplace, hbare, rfl⟩ := writeFile_iff.mp hwrite
      have hne := path_ne_nil (walk_of_locate hplace) hbare
      refine ⟨h.untouched.set hne (Decidable.byContradiction fun hout ↦ ?_), h.frame.set_file hne⟩
      -- Outside both trees are the same, so the route leads to the file that was there before.
      rw [Bool.not_eq_true] at hout
      obtain ⟨content', hthere⟩ := hgrown.keeps.locate_file hlocate
      have hpath : p = place.path := h.frame.path_eq (walk_of_locate hplace)
        (walk_of_locate hthere) ((hstart _ hout).trans (h.untouched _ hout).symm)
      rw [← hpath, htarget.admits.holds_of_locate hlocate] at hout
      exact absurd hout nofun
  · rw [restore_absent hbackup]
    refine (h.removeWritten (htarget.removable hwf hgrown habsent)).removeDirectories fun s hs ↦ ?_
    have hs := List.mem_reverse.mp hs
    have hmissing := List.all_eq_true.mp List.all_takeWhile s hs
    exact htarget.removable_above hwf hgrown ((List.takeWhile_prefix _).subset hs)
      (by simpa using hmissing)

theorem restoring (h : w.Undoing start tree) (hwf : w.tree.WellFormed)
    (hgrown : w.tree.Grown start) (hstart : w.Untouched start)
    (htargets : ∀ t ∈ targets, w.Undoable t) :
    ∀ result ∈ restoring tree targets, w.Untouched result := by
  induction targets generalizing tree with
  | nil => exact nofun
  | cons target targets ih =>
    have hnext := h.restore hwf hgrown hstart (htargets target List.mem_cons_self)
    rw [Workspace.restoring]
    exact List.forall_mem_cons.mpr
      ⟨hnext.untouched, ih hnext fun t ht ↦ htargets t (List.mem_cons_of_mem target ht)⟩

end Undoing

/-! ## Writing several files -/

/-- Writing files one after another comes to one whose path strays. -/
inductive StraysIn : Workspace → List FileEdit → Prop
  | here {w : Workspace} {edit : FileEdit} {edits : List FileEdit} :
    w.Strays edit.path → StraysIn w (edit :: edits)
  | later {w w' : Workspace} {edit : FileEdit} {edits : List FileEdit} :
    w.writeText edit.path edit.content = (.ok (), w') → StraysIn w' edits →
      StraysIn w (edit :: edits)

theorem straysIn_cons : StraysIn w (edit :: edits) ↔ w.Strays edit.path ∨
    (w.writeText edit.path edit.content).1.isOk = true ∧
      StraysIn (w.writeText edit.path edit.content).2 edits := by
  constructor
  · intro h
    cases h with
    | here hstrays => exact Or.inl hstrays
    | later hok hrest =>
      rw [hok]
      exact Or.inr ⟨rfl, hrest⟩
  · rintro (hstrays | ⟨hok, hrest⟩)
    · exact .here hstrays
    · refine .later (Prod.ext ?_ rfl) hrest
      cases hresult : (w.writeText edit.path edit.content).1 with
      | ok => rfl
      | error e =>
        rw [hresult] at hok
        exact absurd hok Bool.false_ne_true

instance decidableStraysIn : (edits : List FileEdit) → (w : Workspace) →
    Decidable (StraysIn w edits)
  | [], _ => isFalse nofun
  | _ :: edits, _ =>
    have := decidableStraysIn edits
    decidable_of_iff _ straysIn_cons.symm

/-- The workspace `v` has come about from `w` by writes that stayed in it. -/
structure Confined (w v : Workspace) : Prop where
  root_eq : v.root = w.root
  grown : w.tree.Grown v.tree
  untouched : w.Untouched v.tree

namespace Confined

theorem refl (hwf : w.tree.WellFormed) : w.Confined w :=
  ⟨rfl, Grown.refl hwf, Untouched.refl⟩

theorem holds_eq (h : w.Confined v) (p : TreePath) : v.holds p = w.holds p := by
  rw [holds, holds, h.root_eq]

theorem route_eq (h : w.Confined v) (path : String) : v.route path = w.route path := by
  rw [route, route, h.root_eq]

theorem comp (h : w.Confined v) (h' : v.Confined w') : w.Confined w' := by
  refine ⟨h'.root_eq.trans h.root_eq, h.grown.comp h'.grown, fun p hout ↦ ?_⟩
  rw [h'.untouched p (by rw [h.holds_eq, hout]), h.untouched p hout]

/-- The next write stays in the workspace as well if its path does not stray. -/
theorem write (h : w.Confined v) (hfree : ¬v.Strays path) (content : String) :
    w.Confined (v.writeText path content).2 := by
  have hwf := h.grown.wellFormed
  obtain ⟨hgrown, hroot⟩ := v.writeText_grown path content hwf
  exact h.comp ⟨hroot, hgrown, (writeText_within hwf hfree content).1⟩

end Confined

theorem writeTargets_of_ok
    (h : v.writeText target.edit.path target.edit.content = (.ok (), w')) :
    v.writeTargets written (target :: targets) = w'.writeTargets (target :: written) targets := by
  rw [writeTargets]
  simp only [h]

/-- **No tree of a batch differs outside of the workspace**, if no write strays and the targets can
be restored if it comes to that. -/
theorem untouched_stages (hwf : w.tree.WellFormed) (h : w.Confined v)
    (hfree : ¬StraysIn v (targets.map (·.edit)))
    (hfails : (∃ e, (v.writeTargets written targets).1 = .error e) →
      ∀ t ∈ targets ++ written, w.Undoable t) :
    ∀ tree ∈ v.stages written targets, w.Untouched tree := by
  induction targets generalizing v written with
  | nil => exact nofun
  | cons target targets ih =>
    have hnext : w.Confined (v.writeText target.edit.path target.edit.content).2 :=
      h.write (fun hstrays ↦ hfree (.here hstrays)) target.edit.content
    rw [stages]
    cases hwrite : v.writeText target.edit.path target.edit.content with
    | mk result v' =>
      rw [hwrite] at hnext
      cases result with
      | error e =>
        have hundoable := hfails (exists_writeTargets_error written targets hwrite)
        refine List.forall_mem_cons.mpr ⟨hnext.untouched, ?_⟩
        have hundoing : w.Undoing v'.tree v'.tree :=
          ⟨hnext.untouched, (Keeps.refl v'.tree).frameIn⟩
        refine hundoing.restoring hwf hnext.grown hnext.untouched fun t ht ↦ hundoable t ?_
        rcases List.mem_cons.mp ht with rfl | ht
        · exact List.mem_append_left _ List.mem_cons_self
        · exact List.mem_append_right _ ht
      | ok =>
        rw [writeTargets_of_ok hwrite] at hfails
        refine List.forall_mem_cons.mpr ⟨hnext.untouched, ih hnext
          (fun hstrays ↦ hfree (.later hwrite hstrays)) fun hfailed t ht ↦ hfails hfailed t ?_⟩
        rcases List.mem_append.mp ht with ht | ht
        · exact List.mem_append_left _ (List.mem_cons_of_mem _ ht)
        · rcases List.mem_cons.mp ht with rfl | ht
          · exact List.mem_append_left _ List.mem_cons_self
          · exact List.mem_append_right _ ht

theorem located_of_writeTargets (h : w.Confined v) (hfree : ¬StraysIn v (targets.map (·.edit)))
    (hok : v.writeTargets written targets = (.ok (), w')) :
    w.Confined w' ∧ v.tree.Keeps w'.tree ∧ ∀ t ∈ targets, ∃ p s, w.holds p = true ∧
      w'.tree.locate (w.route t.edit.path) = .ok (.file p s false) := by
  induction targets generalizing v written with
  | nil =>
    obtain ⟨-, rfl⟩ := Prod.mk.inj hok
    exact ⟨h, Keeps.refl _, nofun⟩
  | cons target targets ih =>
    have hstays : ¬v.Strays target.edit.path := fun hstrays ↦ hfree (.here hstrays)
    have hwrites := writeText_within h.grown.wellFormed hstays target.edit.content
    have hnext := h.write hstays target.edit.content
    have hgrown := (v.writeText_grown target.edit.path target.edit.content h.grown.wellFormed).1
    cases hwrite : v.writeText target.edit.path target.edit.content with
    | mk result v' =>
      rw [hwrite] at hwrites hnext hgrown
      cases result with
      | error e =>
        obtain ⟨e, he⟩ := exists_writeTargets_error written targets hwrite
        rw [hok] at he
        exact absurd he nofun
      | ok =>
        rw [writeTargets_of_ok hwrite] at hok
        obtain ⟨hconfined, hkeeps, hlater⟩ :=
          ih hnext (fun hstrays ↦ hfree (.later hwrite hstrays)) hok
        obtain ⟨p, s, hholds, hlocate⟩ := hwrites.2 rfl
        obtain ⟨s', hfile⟩ := hkeeps.locate_file hlocate
        rw [h.holds_eq] at hholds
        rw [h.route_eq] at hfile
        exact ⟨hconfined, hgrown.keeps.comp hkeeps,
          List.forall_mem_cons.mpr ⟨⟨p, s', hholds, hfile⟩, hlater⟩⟩

/-- A stray write changes something outside of the workspace. -/
theorem exists_touched_of_straysIn (written : List BatchTarget) (h : w.Confined v)
    (hstrays : StraysIn v (targets.map (·.edit))) :
    ∃ tree ∈ v.stages written targets, ¬w.Untouched tree := by
  induction targets generalizing v written with
  | nil => exact absurd hstrays nofun
  | cons target targets ih =>
    rw [stages]
    by_cases hfree : v.Strays target.edit.path
    · obtain ⟨p, v', hwrite, hout, hnone, hnode⟩ :=
        writeText_of_strays h.grown.wellFormed hfree target.edit.content
      rw [hwrite]
      refine ⟨v'.tree, List.mem_cons_self, fun huntouched ↦ ?_⟩
      rw [h.holds_eq] at hout
      rw [huntouched p hout, ← h.untouched p hout, hnone] at hnode
      exact absurd hnode nofun
    · cases hstrays with
      | here hhere => exact absurd hhere hfree
      | later hwrite hlater =>
        have hnext := h.write hfree target.edit.content
        rw [hwrite] at hnext ⊢
        obtain ⟨tree, htree, htouched⟩ := ih (target :: written) hnext hlater
        exact ⟨tree, List.mem_cons_of_mem _ htree, htouched⟩

theorem holds_of_prepare (hprepare : w.prepare edits = .ok targets) (ht : target ∈ targets)
    (hbackup : target.backup = .present content) : ∃ p,
      w.tree.locate target.route = .ok (.file p (.text content) false) ∧ w.holds p = true := by
  obtain ⟨hresolve, hbackupOf⟩ := (of_prepare hprepare).2 target ht
  rcases backupOf_cases hbackupOf with ⟨p, s, hlocate, hpresent⟩ | ⟨-, habsent⟩
  · obtain rfl := Backup.present.inj (hbackup.symm.trans hpresent)
    exact ⟨p, hlocate, (of_resolveWrite hresolve).2.holds_of_locate hlocate⟩
  · exact absurd (hbackup.symm.trans habsent) nofun

theorem undoable_of_prepare (hprepare : w.prepare edits = .ok targets) (ht : target ∈ targets)
    (hlinks : ∀ m ∈ above (w.route target.edit.path), ¬w.tree.Dangling m) : w.Undoable target := by
  obtain ⟨hresolve, hbackup⟩ := (of_prepare hprepare).2 target ht
  obtain ⟨hroute, hadmits⟩ := of_resolveWrite hresolve
  exact ⟨hadmits, hbackup, by rwa [hroute]⟩

/-- Writing the targets of a batch stays in the workspace if every tree on the way does. -/
theorem writesWithin_writeTargets (hwf : w.tree.WellFormed)
    (hfree : ¬StraysIn w (targets.map (·.edit)))
    (hstages : ∀ tree ∈ w.stages [] targets, w.Untouched tree) :
    w.WritesWithin (targets.map (·.edit.path)) (w.writeTargets [] targets) := by
  -- Once all is written every path leads to a file in the workspace, so none leads out of it.
  have hlocated : (w.writeTargets [] targets).1 = .ok () → ∀ t ∈ targets,
      (∃ p, (w.writeTargets [] targets).2.tree.realPath (w.route t.edit.path) = .ok p ∧
        w.holds p = true) ∧ ¬w.LeadsOut t.edit.path := by
    intro hok t ht
    obtain ⟨hconfined, -, hfiles⟩ :=
      located_of_writeTargets (Confined.refl hwf) hfree (Prod.ext hok rfl)
    obtain ⟨p, s, hholds, hlocate⟩ := hfiles t ht
    exact ⟨⟨p, realPath_of_locate_file hlocate, hholds⟩,
      not_leadsOut hwf hconfined.grown hconfined.untouched hlocate hholds⟩
  refine ⟨?_, fun hok ↦ List.forall_mem_map.mpr fun t ht ↦ (hlocated hok t ht).1,
    List.forall_mem_map.mpr fun t ht hleads ↦ ?_⟩
  · have hlast : (w.stages [] targets).getLastD w.tree ∈ w.tree :: w.stages [] targets :=
      List.getLastD_mem_cons
    rw [writeTargets_snd_tree]
    rcases List.mem_cons.mp hlast with heq | hmem
    · rw [heq]
      exact Untouched.refl
    · exact hstages _ hmem
  · cases hresult : (w.writeTargets [] targets).1 with
    | error e => exact ⟨e, rfl⟩
    | ok => exact absurd hleads (hlocated hresult t ht).2

theorem batchWithin_of_error {m : String} (h : w.prepare edits = .error m) :
    w.BatchWithin edits := by
  have hanswer : w.writeBatch edits = (.error (.batchRejected m), w) := by
    rw [writeBatch, h]
  refine ⟨?_, fun targets htargets ↦ ?_, fun targets htargets ↦ ?_⟩
  · rw [hanswer]
    refine ⟨Untouched.refl, fun hok ↦ ?_, fun _ _ _ ↦ ⟨_, rfl⟩⟩
    cases hok
  · cases h.symm.trans htargets
  · cases h.symm.trans htargets

/-- **A batch stays in the workspace unless one of its writes strays.** When a batch that fails on
the way has no path that passes a link that leads nowhere, the trees that it goes through are the
same outside of the workspace exactly if no write strays. -/
theorem batchWithin_iff (hwf : w.tree.WellFormed)
    (hlinks : ∀ targets e, w.prepare edits = .ok targets → (w.writeBatch edits).1 = .error e →
      ∀ edit ∈ edits, ∀ m ∈ above (w.route edit.path), ¬w.tree.Dangling m) :
    w.BatchWithin edits ↔
      ¬((∃ targets, w.prepare edits = .ok targets) ∧ StraysIn w edits) := by
  cases hprepare : w.prepare edits with
  | error m =>
    refine iff_of_true (batchWithin_of_error hprepare) ?_
    rintro ⟨⟨targets, htargets⟩, -⟩
    exact absurd htargets nofun
  | ok targets =>
    have hedits := (of_prepare hprepare).1
    have hanswer : w.writeBatch edits = w.writeTargets [] targets := by
      rw [writeBatch, hprepare]
    constructor
    · rintro h ⟨-, hstrays⟩
      rw [← hedits] at hstrays
      obtain ⟨tree, htree, htouched⟩ :=
        exists_touched_of_straysIn [] (Confined.refl hwf) hstrays
      exact htouched (h.stages targets hprepare tree htree)
    · intro hfree
      have hfree : ¬StraysIn w (targets.map (·.edit)) := by
        rw [hedits]
        exact fun hstrays ↦ hfree ⟨⟨targets, rfl⟩, hstrays⟩
      have hstages : ∀ tree ∈ w.stages [] targets, w.Untouched tree := by
        refine untouched_stages hwf (Confined.refl hwf) hfree ?_
        rintro ⟨e, he⟩ t ht
        rw [List.append_nil] at ht
        rw [hanswer] at hlinks
        exact undoable_of_prepare hprepare ht
          (hlinks targets e hprepare he t.edit (hedits ▸ List.mem_map_of_mem ht))
      refine ⟨?_, fun ts hts t ht content hbackup ↦ holds_of_prepare hts ht hbackup,
        fun ts hts ↦ ?_⟩
      · rw [hanswer, ← hedits, List.map_map]
        exact writesWithin_writeTargets hwf hfree hstages
      · obtain rfl := Except.ok.inj (hprepare.symm.trans hts)
        exact hstages

/-- **A workspace keeps to its root, except along a link to a missing place.** Reading always stays
in it; replacing a file does unless its path strays, which only such a link does, and a batch does
unless one of its writes strays, where for one that fails on the way no path may pass a link that
leads nowhere. -/
theorem confined_iff (hwf : w.tree.WellFormed) (path content : String) (edits : List FileEdit)
    (hlinks : ∀ targets e, w.prepare edits = .ok targets → (w.writeBatch edits).1 = .error e →
      ∀ edit ∈ edits, ∀ m ∈ above (w.route edit.path), ¬w.tree.Dangling m) :
    w.ReadsWithin path ∧
      (w.WritesWithin [path] (w.replaceFile path content) ↔ ¬w.Strays path) ∧
      (w.Strays path → w.tree.Dangling (w.route path)) ∧
      (w.BatchWithin edits ↔
        ¬((∃ targets, w.prepare edits = .ok targets) ∧ StraysIn w edits)) :=
  ⟨readsWithin hwf path, writesWithin_replaceFile_iff hwf path content, fun h ↦ h.dangling hwf,
    batchWithin_iff hwf hlinks⟩

/-- A batch that writes along a link inside and then below a file is taken back inside, although
there is a link to a file outside. -/
theorem confined_taken_back :
    let w : Workspace := {
      tree := ⟨[(["ws"], .directory), (["ws", "a"], .file (.text "0")), (["ws", "l"], .link "a"),
        (["ws", "o"], .link "../out"), (["out"], .file (.text "1"))]⟩
      root := ["ws"] }
    let edits : List FileEdit := [⟨"d/x", "1"⟩, ⟨"l", "2"⟩, ⟨"a/x", "3"⟩]
    w.LeadsOut "o" ∧ w.WritesWithin ["o"] (w.replaceFile "o" "4") ∧
      (∃ e, (w.writeBatch edits).1 = .error e) ∧ w.BatchWithin edits := by
  intro w edits
  have hlinks : ∀ edit ∈ edits, ∀ m ∈ above (w.route edit.path), ¬w.tree.Dangling m := by
    decide +kernel
  have hstrays : ¬w.Strays "o" := by decide +kernel
  have hfree : ¬StraysIn w edits := by decide +kernel
  have hfails : (w.writeBatch edits).1.isOk = false := by decide +kernel
  have hout : w.tree.locate (w.route "o") = .ok (.file ["out"] (.text "1") false) := by
    decide +kernel
  obtain ⟨-, hwrite, -, hbatch⟩ :=
    confined_iff (w := w) (by decide +kernel) "o" "4" edits fun _ _ _ _ ↦ hlinks
  refine ⟨⟨["out"], rfl, .inl ⟨_, hout, rfl⟩⟩, hwrite.mpr hstrays, ?_,
    hbatch.mpr fun h ↦ hfree h.2⟩
  cases hanswer : (w.writeBatch edits).1 with
  | ok =>
    rw [hanswer] at hfails
    cases hfails
  | error e => exact ⟨e, rfl⟩

/-- **A file is made outside of the workspace** along a link in it whose target is missing. -/
theorem not_writesWithin_dangling :
    let w : Workspace := {
      tree := ⟨[(["ws"], .directory), (["ws", "l"], .link "../out.txt")]⟩
      root := ["ws"] }
    ¬w.WritesWithin ["l"] (w.replaceFile "l" "x") := by
  intro w h
  have hmade : (w.replaceFile "l" "x").2.tree.node? ["out.txt"] = some (.file (.text "x")) := by
    decide +kernel
  rw [h.untouched ["out.txt"] rfl] at hmade
  exact absurd hmade nofun

/-- A path that passes a link that leads nowhere can come to lead out of the workspace. The write
along it is refused then, but when the batch is taken back the file outside is removed. -/
example :
    let w : Workspace := {
      tree := ⟨[(["ws"], .directory), (["ws", "l"], .link "d/../../out"), (["out"], .directory),
        (["out", "x"], .file (.text "o"))]⟩
      root := ["ws"] }
    let edits : List FileEdit := [⟨"d/y", "1"⟩, ⟨"l/x", "2"⟩]
    ¬StraysIn w edits ∧ (w.writeBatch edits).2.tree.node? ["out", "x"] = none := by
  decide +kernel

end Workspace

end Redline
