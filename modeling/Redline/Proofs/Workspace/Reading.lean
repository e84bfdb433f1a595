import Redline.Proofs.ChangeSet.Memory
import Redline.Proofs.FileTree.Spelling
import Redline.Proofs.Workspace.Batch

/-!
# Reading files that have been written

What a path reads depends on the place to which it leads and on nothing else of its spelling. A file
that can be read stays at its place while other files are written, and whoever leads there reads
what was written to it.

A change set is written in a workspace by one write or by a batch. If that succeeds the tree has
grown by the files of its changes, and these are all that may read differently.
-/

namespace Redline

open FileTree Route Text

namespace FileTree

variable {tree other : FileTree} {route : Route} {p : TreePath} {s : String} {content : Content}

/-! ## Places that are read -/

theorem isFile_of_readText (h : tree.readText p = .ok s) : tree.isFile p = true := by
  obtain ⟨q, hlocate⟩ := readText_iff.mp h
  rw [isFile, hlocate]

theorem WellFormed.walk_of_isFile (hwf : tree.WellFormed) (hpath : tree.realPath route = .ok p)
    (hfile : tree.isFile p = true) :
    ∃ content, tree.walk linkLimit [] route = .ok (.file p content false) := by
  rw [isFile] at hfile
  split at hfile
  next q content hlocate =>
    obtain ⟨-, hwalk | hwalk⟩ := realPath_iff.mp hpath
    · -- A directory would lead to itself.
      have hnode : tree.node? p = some .directory := hwf.walk_stands rfl hwalk
      have hnames := (walk_iff.mp hwalk).isName_of_mem nofun
      have hdirectory := hwf.walk_directory_append (k := linkLimit) hnode hnames []
      rw [List.append_nil, walk_nil, walk_of_locate hlocate] at hdirectory
      exact absurd hdirectory nofun
    · exact hwalk
  next => exact absurd hfile Bool.false_ne_true

/-- A place that can be read is that of a file, which the route has come to. -/
theorem WellFormed.walk_of_realPath (hwf : tree.WellFormed) (hpath : tree.realPath route = .ok p)
    (hread : tree.readText p = .ok s) :
    tree.walk linkLimit [] route = .ok (.file p (.text s) false) := by
  obtain ⟨content, hwalk⟩ := hwf.walk_of_isFile hpath (isFile_of_readText hread)
  obtain ⟨q, hlocate⟩ := readText_iff.mp hread
  have hself := walk_of_locate hlocate
  have hnode : tree.node? p = some (.file content) := hwf.walk_stands rfl hwalk
  have hnames := (walk_iff.mp hwalk).isName_of_mem nofun
  rw [hwf.walk_file_self hnode hnames] at hself
  obtain ⟨-, rfl, -⟩ := Place.file.inj (Except.ok.inj hself)
  exact hwalk

theorem Keeps.realPath_file (hkeeps : tree.Keeps other) (hnul : route.hasNul = false)
    (hwalk : tree.walk linkLimit [] route = .ok (.file p content false)) :
    other.realPath route = .ok p := by
  obtain ⟨content', hother⟩ := hkeeps.walk_file hwalk
  exact realPath_iff.mpr ⟨hnul, .inr ⟨content', hother⟩⟩

end FileTree

namespace Workspace

variable {w w' : Workspace} {path other s : String} {p : TreePath} {edit : FileEdit}
  {edits : List FileEdit}

theorem resolveExisting_eq_ok : w.resolveExisting path = .ok p ↔ isBlankText path = false ∧
    w.tree.realPath (w.route path) = .ok p ∧ w.holds p = true := by
  rw [resolveExisting]
  cases isBlankText path with
  | true => simp only [if_true, reduceCtorEq, false_and]
  | false =>
    cases w.tree.realPath (w.route path) with
    | error fault => simp only [if_false, reduceCtorEq, false_and, and_false]
    | ok place =>
      simp only [if_neg Bool.false_ne_true, true_and, Except.ok.injEq]
      by_cases hholds : w.holds place = true
      · rw [if_pos hholds, Except.ok.injEq]
        exact ⟨fun hplace ↦ ⟨hplace, hplace ▸ hholds⟩, fun h ↦ h.1⟩
      · simp only [if_neg hholds, reduceCtorEq, false_iff, not_and]
        rintro rfl
        exact hholds

theorem readText_eq_ok : w.readText path = .ok s ↔
    ∃ p, w.resolveExisting path = .ok p ∧ w.tree.readText p = .ok s := by
  simp only [readText, bind, Except.bind]
  cases w.resolveExisting path with
  | error e => simp only [reduceCtorEq, false_and, exists_false]
  | ok place =>
    simp only [Except.ok.injEq, exists_eq_left']
    cases hread : w.tree.readText place with
    | error fault => split <;> simp only [reduceCtorEq]
    | ok content => simp only [if_pos (isFile_of_readText hread), Except.ok.injEq]

theorem readFile_iff : w.readFile path = .ok s ↔ isBlankText path = false ∧
    ∃ p, w.tree.realPath (w.route path) = .ok p ∧ w.holds p = true ∧
      w.tree.readText p = .ok s := by
  have htext : w.readFile path = .ok s ↔ w.readText path = .ok s := by
    rw [readFile]
    cases w.readText path with
    | ok content => simp only [Except.ok.injEq]
    | error e => simp only [reduceCtorEq]
  rw [htext, readText_eq_ok]
  simp only [resolveExisting_eq_ok, and_assoc, exists_and_left]

/-! ## Paths to the same file -/

/-- Two paths lead to the same place, or fail to lead anywhere in the same way. -/
def SameFile (w : Workspace) (path other : String) : Prop :=
  w.tree.realPath (w.route path) = w.tree.realPath (w.route other)

instance (w : Workspace) (path other : String) : Decidable (w.SameFile path other) :=
  inferInstanceAs (Decidable (_ = _))

/-- **What is read depends on the place** to which a path leads. -/
theorem SameFile.readFile (h : w.SameFile path other) (hblank : isBlankText path = false)
    (hread : w.readFile other = .ok s) : w.readFile path = .ok s := by
  obtain ⟨-, p, hpath, hholds, htext⟩ := readFile_iff.mp hread
  exact readFile_iff.mpr ⟨hblank, p, h.trans hpath, hholds, htext⟩

/-! ## Files that have been written -/

/-- The edits have been written in a workspace, which became `w'`. -/
structure Wrote (w : Workspace) (edits : List FileEdit) (w' : Workspace) : Prop where
  root_eq : w'.root = w.root
  grown : w.tree.Grown w'.tree
  /-- Every edited path leads to a file. -/
  located : ∀ edit ∈ edits, ∃ p content,
    w'.tree.locate (w.route edit.path) = .ok (.file p content false)
  /-- The edits have been made, and nothing else. -/
  applied : Applied w edits w'.tree

namespace Wrote

theorem route_eq (h : w.Wrote edits w') (path : String) : w'.route path = w.route path := by
  rw [route, route, h.root_eq]

/-- A file that can be read stays at its place, and its path reads what stands there. -/
theorem exists_place (h : w.Wrote edits w') (hwf : w.tree.WellFormed)
    (hread : w.readFile path = .ok s) :
    ∃ p, w.tree.node? p = some (.file (.text s)) ∧
      (∀ other, w.SameFile other path → w'.tree.realPath (w'.route other) = .ok p) ∧
      ∀ s', w'.tree.node? p = some (.file (.text s')) → w'.readFile path = .ok s' := by
  obtain ⟨hblank, p, hpath, hholds, htext⟩ := readFile_iff.mp hread
  have hwalk := hwf.walk_of_realPath hpath htext
  have hnode : w.tree.node? p = some (.file (.text s)) := hwf.walk_stands rfl hwalk
  have hstays : ∀ other, w.SameFile other path → w'.tree.realPath (w'.route other) = .ok p := by
    intro other hsame
    have hother : w.tree.realPath (w.route other) = .ok p := hsame.trans hpath
    rw [h.route_eq]
    exact h.grown.keeps.realPath_file (realPath_iff.mp hother).1
      (hwf.walk_of_realPath hother htext)
  refine ⟨p, hnode, hstays, fun s' hnode' ↦ ?_⟩
  have hholds' : w'.root.isPrefixOf p = true := by rw [h.root_eq]; exact hholds
  obtain ⟨q, hlocate⟩ := readText_iff.mp htext
  -- The place leads to itself, before as after.
  have hnames := (walk_iff.mp hwalk).isName_of_mem nofun
  have hself := h.grown.wellFormed.walk_file_self (k := linkLimit) hnode' hnames
  have htext' : w'.tree.readText p = .ok s' :=
    readText_iff.mpr ⟨p, by rw [locate_of_fits (fits_of_locate hlocate), hself]⟩
  exact readFile_iff.mpr ⟨hblank, p, hstays path rfl, hholds', htext'⟩

/-- **Whoever leads to an edited file reads its new content**, if no other edit leads there. -/
theorem readFile_edited (h : w.Wrote edits w') (hwf : w.tree.WellFormed)
    (hnodup : (edits.map FileEdit.path).Nodup) (hedit : edit ∈ edits)
    (hread : w.readFile path = .ok s) (hsame : w.SameFile edit.path path)
    (hothers : ∀ other ∈ edits, other.path ≠ edit.path → ¬w'.SameFile other.path path) :
    w'.readFile path = .ok edit.content := by
  obtain ⟨p, hnode, hstays, hreads⟩ := h.exists_place hwf hread
  have hpath : w'.tree.realPath (w'.route path) = .ok p := hstays path rfl
  have heditPath : w'.tree.realPath (w'.route edit.path) = .ok p := hstays edit.path hsame
  obtain ⟨front, back, hsplit⟩ := List.append_of_mem hedit
  -- No later edit is another edit of the file.
  have hback : ∀ later ∈ back, w'.tree.realPath (w.route later.path) ≠
      w'.tree.realPath (w.route edit.path) := by
    intro later hlater heq
    have hne : later.path ≠ edit.path := by
      intro hpaths
      rw [hsplit, List.map_append, List.map_cons] at hnodup
      have hcons := (List.nodup_append.mp hnodup).2.1
      exact (List.nodup_cons.mp hcons).1 (hpaths ▸ List.mem_map_of_mem hlater)
    have hmem : later ∈ edits := by
      rw [hsplit]
      exact List.mem_append_right _ (List.mem_cons_of_mem _ hlater)
    refine hothers later hmem hne ?_
    rw [SameFile, hpath, ← heditPath, h.route_eq, h.route_eq]
    exact heq
  have htext := h.applied.reads edit hedit front edit back hsplit rfl hback
  obtain ⟨q, hlocate⟩ := readText_iff.mp htext
  have hq := realPath_of_locate_file hlocate
  rw [← h.route_eq, heditPath] at hq
  obtain rfl := Except.ok.inj hq
  exact hreads _ (h.grown.wellFormed.locate_stands hlocate)

theorem readFile_unedited (h : w.Wrote edits w') (hwf : w.tree.WellFormed)
    (hread : w.readFile path = .ok s) (hothers : ∀ edit ∈ edits, ¬w'.SameFile edit.path path) :
    w'.readFile path = .ok s := by
  obtain ⟨p, hnode, hstays, hreads⟩ := h.exists_place hwf hread
  have hpath : w'.tree.realPath (w'.route path) = .ok p := hstays path rfl
  rcases h.applied.unchanged p with hsame | ⟨edit, hedit, heditPath⟩ | ⟨hnone, -⟩
  · exact hreads s (hsame.trans hnode)
  · refine absurd ?_ (hothers edit hedit)
    rw [SameFile, hpath, h.route_eq]
    exact heditPath
  · exact absurd (hnone.symm.trans hnode) nofun

/-- **Equal normal forms lead to the same file**, if neither path has white space around it and the
one is that of a file, the other that of an edit that has been written. -/
theorem sameFile_of_normalizePath (h : w.Wrote edits w') (hwf : w.tree.WellFormed)
    (hedit : edit ∈ edits) (hread : w.readFile path = .ok s) (heditTrimmed : Trimmed edit.path)
    (htrimmed : Trimmed path) (hnormal : normalizePath edit.path = normalizePath path) :
    w.SameFile edit.path path := by
  obtain ⟨-, p, hpath, -, htext⟩ := readFile_iff.mp hread
  obtain ⟨hnul, -⟩ := realPath_iff.mp hpath
  have hwalk := hwf.walk_of_realPath hpath htext
  obtain ⟨q, content, hlocate⟩ := h.located edit hedit
  have hrespelled : Respelled (w.route edit.path) (w.route path) :=
    .inr ⟨endsWithName_of_walk (walk_of_locate hlocate) rfl, endsWithName_of_walk hwalk rfl,
      names_ofText_eq heditTrimmed htrimmed hnormal⟩
  have hother : w.tree.walk linkLimit [] (w.route edit.path) = .ok (.file p (.text s) false) :=
    (walk_respelled hrespelled).trans hwalk
  rw [SameFile, hpath]
  exact realPath_iff.mpr ⟨(fits_of_locate hlocate).no_nul, .inr ⟨_, hother⟩⟩

end Wrote

/-! ## Change sets -/

theorem Progress.wrote {targets : List BatchTarget} {tree : FileTree}
    (h : Progress w.tree targets.reverse tree)
    (hroute : ∀ t ∈ targets, t.route = w.route t.edit.path) :
    w.Wrote (targets.map (·.edit)) { w with tree } where
  root_eq := rfl
  grown := h.grown
  located := by
    intro edit hedit
    obtain ⟨t, ht, rfl⟩ := List.mem_map.mp hedit
    rw [← hroute t ht]
    exact h.located t (List.mem_reverse.mpr ht)
  applied := h.applied hroute

theorem exists_writeTargets_snd {w : Workspace} (hwf : w.tree.WellFormed)
    (written targets : List BatchTarget) :
    ∃ tree, (w.writeTargets written targets).2 = { w with tree } := by
  induction targets generalizing w written with
  | nil => exact ⟨w.tree, rfl⟩
  | cons target targets ih =>
    rcases w.writeText_spec target.edit.path target.edit.content hwf with
      ⟨e, tree, -, hwrite⟩ | ⟨tree, place, hwrites, hwrite⟩
    · rw [writeTargets_of_error hwrite]
      split
      · exact ⟨_, rfl⟩
      · exact ⟨_, rfl⟩
    · let w' : Workspace :=
        { w with tree := tree.set place.path (.file (.text target.edit.content)) }
      have hwf' : w'.tree.WellFormed := hwrites.grown.wellFormed
      obtain ⟨tree', htree'⟩ := ih hwf' (target :: written)
      refine ⟨tree', ?_⟩
      rw [writeTargets]
      simp only [hwrite]
      exact htree'

theorem wrote_of_writeBatch (hwf : w.tree.WellFormed) (h : w.writeBatch edits = (.ok (), w')) :
    w.Wrote edits w' := by
  cases hprepare : w.prepare edits with
  | error m => simp only [writeBatch, hprepare, Prod.mk.injEq, reduceCtorEq, false_and] at h
  | ok targets =>
    obtain ⟨rfl, hall⟩ := prepare_spec hprepare
    have hroute := fun t ht ↦ (hall t ht).1
    have hanswer : w.writeTargets [] targets = (.ok (), w') := by
      rw [← h, writeBatch, hprepare]
    -- Nothing is restored, so it does not matter whether the targets could be.
    have hending := writeTargets_ending hwf (Progress.nil hwf) hroute fun e he ↦ by
      simp only [hanswer, reduceCtorEq] at he
    obtain ⟨tree, htree⟩ := exists_writeTargets_snd hwf [] targets
    rw [hanswer] at hending htree
    obtain rfl := htree
    rw [List.append_nil] at hending
    cases hending with
    | written hprogress hfree => exact hprogress.wrote hroute

theorem wrote_of_replaceFile (hwf : w.tree.WellFormed)
    (h : w.replaceFile edit.path edit.content = (.ok (), w')) : w.Wrote [edit] w' := by
  rw [replaceFile] at h
  rcases w.writeText_spec edit.path edit.content hwf with
    ⟨e, tree, -, hwrite⟩ | ⟨tree, place, hwrites, hwrite⟩
  · rw [hwrite] at h
    exact absurd (congrArg Prod.fst h) nofun
  · rw [hwrite] at h
    obtain rfl := congrArg Prod.snd h
    let target : BatchTarget := ⟨edit, w.route edit.path, .absent []⟩
    have hprogress : Progress w.tree [target] (tree.set place.path (.file (.text edit.content))) :=
      (Progress.nil hwf).write hwrites
    exact hprogress.wrote (List.forall_mem_singleton.mpr rfl)

/-- **A change set that is written** writes the proposed contents of its changes. -/
theorem wrote_of_write {changes : List FileChange} (hwf : w.tree.WellFormed)
    (h : ChangeSet.write surface changes w = (.ok (), w')) :
    w.Wrote (changes.map ChangeSet.editOf) w' := by
  match changes, h with
  | [], h => exact wrote_of_writeBatch hwf h
  | [_], h => exact wrote_of_replaceFile hwf h
  | _ :: _ :: _, h => exact wrote_of_writeBatch hwf h

end Workspace

end Redline
